import SqlSelect.Error
import SqlSelect.Fragment

/-!
# Ordering

Rows are ordered by items: a column with a direction, or a piece of SQL. Ascending is what a
database does unasked, so only the other direction is written.

Items are given as terms. A sort descriptor, a column with the direction as text, is refused when
its column is empty; a plain name and a ready item are taken as they are.
-/

namespace SqlSelect

/-! ## Directions -/

/-- The direction of an order. -/
inductive Direction where
  | ascending
  | descending
  deriving DecidableEq, Repr, Inhabited

/-- The direction that a text asks for: down for `desc` in any ASCII case, up for all else. -/
def Direction.parse (s : String) : Direction :=
  if s.toList.map Char.toLower = "desc".toList then .descending else .ascending

/-- What is written after the column. -/
def Direction.fragment : Direction → Fragment
  | .ascending => ∅
  | .descending => .sql " DESC"

/-! ## Items and terms -/

/-- What rows are ordered by. -/
inductive OrderItem where
  | column (name : String) (direction : Direction)
  | raw (sql : String)
  deriving DecidableEq, Inhabited

/-- An item as an adapter writes it. -/
def OrderItem.fragment (a : Adapter) : OrderItem → Fragment
  | .column n direction => .name a n ++ direction.fragment
  | .raw sql => .sql sql

/-- An item as it is given. -/
inductive Term where
  /-- A column, ascending. -/
  | name (n : String)
  | raw (sql : String)
  /-- A sort descriptor: a column and, if given, the direction as text. -/
  | sort (column : String) (direction : Option String)
  /-- A ready item. -/
  | item (i : OrderItem)
  deriving DecidableEq, Inhabited

/-- The item that a term stands for. -/
def Term.resolve : Term → Except Error OrderItem
  | .name n => .ok (.column n .ascending)
  | .raw sql => .ok (.raw sql)
  | .sort column direction =>
    if column = "" then .error .sortWithoutColumn
    else .ok (.column column (direction.elim .ascending Direction.parse))
  | .item i => .ok i

/-- The items that terms stand for, in order, or the error of the first that is refused. -/
def Term.resolveAll (terms : List Term) : Except Error (List OrderItem) := terms.mapM resolve

theorem Term.resolveAll_cons (t : Term) (ts : List Term) :
    resolveAll (t :: ts) =
      match t.resolve with
      | .error e => .error e
      | .ok i => (resolveAll ts).map (i :: ·) := by
  rw [resolveAll, List.mapM_cons]
  cases t.resolve with
  | error e => rfl
  | ok i =>
    show (ts.mapM resolve >>= _) = (ts.mapM resolve).map _
    cases ts.mapM resolve <;> rfl

/-! ## The clause -/

/-- The clause as an adapter writes it, with the blank that parts it from what comes before. -/
def OrderItem.clause (a : Adapter) (is : List OrderItem) : Fragment :=
  if is.isEmpty then ∅ else .sql " ORDER BY " ++ .join ", " (is.map (fragment a))

end SqlSelect
