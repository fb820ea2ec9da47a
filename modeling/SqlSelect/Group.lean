import SqlSelect.Column

/-!
# Grouping

A query is grouped by columns, with an optional predicate on the groups. Without columns nothing is
grouped, and the predicate, then an orphan, is never written.
-/

namespace SqlSelect

/-- The columns to group by and the predicate on the groups. -/
structure Group where
  columns : List Column
  having : Option Fragment
  deriving DecidableEq, Inhabited

namespace Group

/-- Groups by columns, without a predicate. -/
def ofColumns (columns : List Column) : Group := ⟨columns, none⟩

/-- The group with a predicate in place of the one it had; an empty text is no predicate. -/
def withHaving (g : Group) (sql : String) (values : List Value) : Group :=
  { g with having := if sql = "" then none else some ⟨sql.toList, values⟩ }

/-- Whether nothing is grouped. -/
def isEmpty (g : Group) : Bool := g.columns.isEmpty

/-- Whether there is a predicate without columns to group by. -/
def hasOrphanHaving (g : Group) : Bool := g.columns.isEmpty && g.having.isSome

/-- The clause as an adapter writes it, with the blank that parts it from what comes before. -/
def clause (a : Adapter) (g : Group) : Fragment :=
  if g.columns.isEmpty then ∅
  else
    .sql " GROUP BY " ++ Column.list a g.columns ++
      match g.having with
      | none => ∅
      | some predicate => .sql " HAVING " ++ predicate

end Group

end SqlSelect
