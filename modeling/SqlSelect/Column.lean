import SqlSelect.Fragment
import SqlSelect.Items

/-!
# Columns

A column is a name, written through the adapter, or a piece of SQL. A list of columns may repeat
itself; no columns at all stand for every column.

A choice of columns is given as a list, or as a single text: then `*` stands for every column. In a
list `*` is a name like any other.
-/

namespace SqlSelect

/-- A column that is selected or grouped by. -/
inductive Column where
  | name (n : String)
  | raw (sql : String)
  deriving DecidableEq, Inhabited

namespace Column

/-- A column as an adapter writes it. -/
def fragment (a : Adapter) : Column → Fragment
  | .name n => .name a n
  | .raw sql => .sql sql

/-- Columns with commas between them. -/
def list (a : Adapter) (cs : List Column) : Fragment := .join ", " (cs.map (fragment a))

/-- Columns with commas between them, `*` if there are none. -/
def selected (a : Adapter) (cs : List Column) : Fragment :=
  if cs.isEmpty then .sql "*" else list a cs

end Column

/-- A choice of columns. -/
inductive Selection where
  /-- Every column. -/
  | all
  /-- One column by name, or every column if the name is `*`. -/
  | text (s : String)
  /-- The columns listed. -/
  | columns (cs : Items Column)
  deriving Inhabited

namespace Selection

/-- The columns chosen; none of them for every column. -/
def items : Selection → Items Column
  | .all => .none
  | .text s => if s = "*" then .none else .one (.name s)
  | .columns cs => cs

/-- The columns chosen as a list. -/
def toList (s : Selection) : List Column := s.items.toList

end Selection

end SqlSelect
