import SqlSelect.Adapter
import SqlSelect.Value

/-!
# Pieces of SQL with their values

A piece of SQL is its text and, in order, the values for the placeholders in it. Pieces are put
together by joining both sides at once, so a value never leaves the place its placeholder has among
the others. A whole statement is a piece as well.

The text of a piece is not looked into: that it holds one `?` for each value is up to whoever wrote
it.
-/

namespace SqlSelect

/-- A piece of SQL and the values for its placeholders, from left to right. -/
@[ext] structure Fragment where
  text : List Char
  values : List Value
  deriving DecidableEq, Inhabited

namespace Fragment

/-! ## Putting pieces together -/

/-- One piece after another. -/
def append (a b : Fragment) : Fragment := ⟨a.text ++ b.text, a.values ++ b.values⟩

instance : Append Fragment := ⟨append⟩

@[simp] theorem text_append (a b : Fragment) : (a ++ b).text = a.text ++ b.text := rfl

@[simp] theorem values_append (a b : Fragment) : (a ++ b).values = a.values ++ b.values := rfl

/-- The empty piece. -/
def empty : Fragment := ⟨[], []⟩

instance : EmptyCollection Fragment := ⟨empty⟩

@[simp] theorem text_empty : (∅ : Fragment).text = [] := rfl

@[simp] theorem values_empty : (∅ : Fragment).values = [] := rfl

/-- SQL without placeholders of its own. -/
def sql (s : String) : Fragment := ⟨s.toList, []⟩

@[simp] theorem text_sql (s : String) : (sql s).text = s.toList := rfl

@[simp] theorem values_sql (s : String) : (sql s).values = [] := rfl

/-- A name as an adapter writes it. -/
def name (a : Adapter) (n : String) : Fragment := ⟨a.quote n.toList, []⟩

@[simp] theorem text_name (a : Adapter) (n : String) : (name a n).text = a.quote n.toList := rfl

@[simp] theorem values_name (a : Adapter) (n : String) : (name a n).values = [] := rfl

/-- Pieces in order, with a separator between each two. -/
def join (separator : String) (fs : List Fragment) : Fragment :=
  ⟨separator.toList.intercalate (fs.map text), fs.flatMap values⟩

@[simp] theorem text_join (separator : String) (fs : List Fragment) :
    (join separator fs).text = separator.toList.intercalate (fs.map text) := rfl

@[simp] theorem values_join (separator : String) (fs : List Fragment) :
    (join separator fs).values = fs.flatMap values := rfl

theorem join_singleton (separator : String) (f : Fragment) : join separator [f] = f := by
  ext1 <;> simp

/-- A separator stands after the first piece if there are more. -/
theorem join_cons_cons (separator : String) (f g : Fragment) (fs : List Fragment) :
    join separator (f :: g :: fs) = f ++ .sql separator ++ join separator (g :: fs) := by
  ext1 <;> simp [List.intercalate_cons_cons]

/-- A piece is shown by its text, its values are not. -/
instance : ToString Fragment := ⟨fun f => String.ofList f.text⟩

/-! ## Placeholders -/

/-- One placeholder with its value. -/
def placeholder (v : Value) : Fragment := ⟨['?'], [v]⟩

/-- A placeholder for each value, in order. -/
def placeholders (vs : List Value) : Fragment := join ", " (vs.map placeholder)

@[simp] theorem values_placeholders (vs : List Value) : (placeholders vs).values = vs := by
  induction vs with
  | nil => rfl
  | cons v vs ih => simpa [placeholders, placeholder, List.flatMap_cons] using ih

/-! ## Comparing -/

/-- Whether two pieces have the same text and equal values, numbers compared as numbers. -/
def equal (a b : Fragment) : Bool := a.text == b.text && a.values.isEqv b.values Value.equal

end Fragment

end SqlSelect
