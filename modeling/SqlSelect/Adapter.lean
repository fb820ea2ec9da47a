/-!
# Quoting names

A name may have several parts with dots between them, as in `schema.table.column`. A dialect quotes
each part by itself: between its opening and its closing character, a closing character inside the
part written twice. A part that is just `*` stands for every column and stays bare.

An adapter says how a query writes its names: as they are, by a dialect, or by any other rule.
-/

namespace SqlSelect

/-! ## Quoting one part -/

/-- The characters that open and close a quoted name. -/
structure Quotes where
  opening : Char
  closing : Char
  deriving DecidableEq, Repr

namespace Quotes

/-- A character inside a quoted name: the closing one is written twice. -/
def quoteChar (q : Quotes) (c : Char) : List Char :=
  if c = q.closing then [c, c] else [c]

/-- A part of a name between quotes. -/
def enclose (q : Quotes) (part : List Char) : List Char :=
  q.opening :: (part.flatMap q.quoteChar ++ [q.closing])

/-- A part of a name, bare if it stands for every column. -/
def quotePart (q : Quotes) (part : List Char) : List Char :=
  if part = ['*'] then part else q.enclose part

/-! ## Quoting a dotted name -/

/-- A name, each of its parts quoted by itself. -/
def quote (q : Quotes) (name : List Char) : List Char :=
  ['.'].intercalate ((name.splitOn '.').map q.quotePart)

end Quotes

/-! ## Dialects and adapters -/

/-- The dialects that quote names. -/
inductive Dialect where
  | postgres
  | mySql
  | sqlite
  | msSql
  deriving DecidableEq, Repr

/-- The quotes of a dialect: double quotes, backquotes or square brackets. -/
def Dialect.quotes : Dialect → Quotes
  | .postgres | .sqlite => ⟨'\x22', '\x22'⟩
  | .mySql => ⟨'\x60', '\x60'⟩
  | .msSql => ⟨'[', ']'⟩

/-- How a query writes its names. -/
inductive Adapter where
  /-- Names are written as they are. -/
  | plain
  /-- Names are quoted. -/
  | dialect (d : Dialect)
  /-- Names are written by a rule of the caller. -/
  | custom (rule : List Char → List Char)
  deriving Inhabited

/-- A name as an adapter writes it. -/
def Adapter.quote : Adapter → List Char → List Char
  | .plain, name => name
  | .dialect d, name => d.quotes.quote name
  | .custom rule, name => rule name

end SqlSelect
