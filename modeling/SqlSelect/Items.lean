/-!
# None, one or many

An argument that may be left out, be a single thing or be a list of things arrives as `Items`.
What it means is its list of items, `toList`; the three shapes are only a way to write that list
down, and every clause of a query keeps the list. Whatever else is read off the shape, an array, a
length or whether there is nothing, is what the list says (`toList_toArray`, `length_eq`,
`isEmpty_eq`).

## Shapes

`many` may hold any number of items, also none or one. `append` never makes such a `many` by
itself: starting from `none`, `one` and `ofList`, the shape is decided by the number of items.
Comparison by `==` looks at the shape as well as at the items.
-/

namespace SqlSelect

/-- No items, one item, or a list of items. -/
inductive Items (α : Type) where
  | none
  | one (item : α)
  | many (items : List α)
  deriving BEq, DecidableEq, Repr

namespace Items

variable {α : Type}

/-! ## Items as a list -/

/-- The items in order. -/
def toList : Items α → List α
  | .none => []
  | .one a => [a]
  | .many as => as

/-- The shape that fits the number of items. -/
def ofList : List α → Items α
  | [] => .none
  | [a] => .one a
  | as => .many as

@[simp] theorem toList_ofList : ∀ as : List α, (ofList as).toList = as
  | [] => rfl
  | [_] => rfl
  | _ :: _ :: _ => rfl

/-- The items in order, handed over as an array. -/
def toArray : Items α → Array α
  | .none => #[]
  | .one a => #[a]
  | .many as => as.toArray

theorem toList_toArray (a : Items α) : a.toArray.toList = a.toList := by
  cases a <;> rfl

/-- How many items there are. -/
def length : Items α → Nat
  | .none => 0
  | .one _ => 1
  | .many as => as.length

theorem length_eq (a : Items α) : a.length = a.toList.length := by
  cases a <;> rfl

/-- Whether there are no items, in whatever shape. -/
def isEmpty (a : Items α) : Bool := a.length == 0

theorem isEmpty_eq (a : Items α) : a.isEmpty = a.toList.isEmpty := by
  rw [isEmpty, length_eq]
  cases a.toList <;> rfl

/-! ## Growing and emptying -/

/-- The items of `a`, then those of `b`. An absent side leaves the shape of the other as it is. -/
def append : Items α → Items α → Items α
  | .none, b => b
  | a, .none => a
  | .one a, .one b => .many [a, b]
  | .one a, .many bs => .many (a :: bs)
  | .many as, .one b => .many (as ++ [b])
  | .many as, .many bs => .many (as ++ bs)

/-- One more item at the end. -/
def push (a : Items α) (item : α) : Items α := a.append (.one item)

/-- No items are left. -/
def reset (_ : Items α) : Items α := .none

/-- The items, handed out, and what is left behind: nothing. -/
def take (a : Items α) : Items α × Items α := (a, .none)

@[simp] theorem toList_append (a b : Items α) : (a.append b).toList = a.toList ++ b.toList := by
  cases a <;> cases b <;> simp [append, toList]

@[simp] theorem toList_push (a : Items α) (item : α) :
    (a.push item).toList = a.toList ++ [item] := toList_append a (.one item)

/-- Every item through `f`, the shape kept. -/
def map {β : Type} (f : α → β) : Items α → Items β
  | .none => .none
  | .one a => .one (f a)
  | .many as => .many (as.map f)

@[simp] theorem toList_map {β : Type} (f : α → β) (a : Items α) :
    (a.map f).toList = a.toList.map f := by
  cases a <;> rfl

end Items

end SqlSelect
