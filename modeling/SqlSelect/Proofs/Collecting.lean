import Mathlib.Data.List.Forall2
import SqlSelect.Items
import SqlSelect.Value

/-!
# Items are a list

Whatever is done to items, in whatever shape they are, is what is done to the list of them: the list
is all that an edit looks at (`Items.toList_apply`), and so after any number of edits the items are
those of the same edits on a list, and so are the items taken on the way (`Items.toList_run`).

## The shape

One list can be written down in up to three shapes, and `==` tells them apart. But a `many` of less
than two items has to be handed in. It never comes out of the other shapes, of lists and of edits,
and these give the one shape that fits the number of items (`Items.built_iff_canonical`). Between
such items `==` is the comparison of the lists (`Items.beq_iff_of_canonical`).
-/

namespace SqlSelect

namespace Items

variable {α : Type}

/-! ## Edits -/

/-- Something done to items that are collected. What is put behind them is of the type `κ`. -/
inductive Edit (α κ : Type) where
  | push (item : α)
  | append (other : κ)
  | reset
  | take

namespace Edit

/-- The same edit with what is put behind taken through `f`. -/
def map {κ κ' : Type} (f : κ → κ') : Edit α κ → Edit α κ'
  | .push item => .push item
  | .append other => .append (f other)
  | .reset => .reset
  | .take => .take

/-- What an edit hands out, and what it leaves. -/
def apply : Edit α (Items α) → Items α → Option (Items α) × Items α
  | .push item, a => (Option.none, a.push item)
  | .append other, a => (Option.none, a.append other)
  | .reset, a => (Option.none, a.reset)
  | .take, a => (some a.take.1, a.take.2)

/-- The same on a list. -/
def applyList : Edit α (List α) → List α → Option (List α) × List α
  | .push item, as => (Option.none, as ++ [item])
  | .append other, as => (Option.none, as ++ other)
  | .reset, _ => (Option.none, [])
  | .take, as => (some as, [])

/-- Edits one after another: what they hand out in order, and what they leave. -/
def run {ε σ : Type} (apply : ε → σ → Option σ × σ) : List ε → σ → List σ × σ
  | [], s => ([], s)
  | e :: es, s =>
    let (taken, s) := apply e s
    let (rest, s) := run apply es s
    (taken.toList ++ rest, s)

end Edit

/-- **An edit does to the list of the items what it says.** -/
theorem toList_apply (e : Edit α (Items α)) (a : Items α) :
    (e.map toList).applyList a.toList = (e.apply a).map (Option.map toList) toList := by
  cases e with
  | push item => exact congrArg (Prod.mk Option.none) (a.toList_push item).symm
  | append other => exact congrArg (Prod.mk Option.none) (a.toList_append other).symm
  | reset | take => rfl

/-- So do edits one after another. -/
theorem toList_run (edits : List (Edit α (Items α))) (a : Items α) :
    Edit.run Edit.applyList (edits.map (Edit.map toList)) a.toList
      = (Edit.run Edit.apply edits a).map (List.map toList) toList := by
  induction edits generalizing a with
  | nil => rfl
  | cons e edits ih =>
    have hrest := ih (e.apply a).2
    rw [List.map_cons, Edit.run, Edit.run, toList_apply]
    simp only [Prod.map_fst, Prod.map_snd, hrest]
    cases (e.apply a).1 <;> rfl

/-! ## The shape that fits -/

theorem append_ofList (as bs : List α) : (ofList as).append (ofList bs) = ofList (as ++ bs) := by
  rcases as with _ | ⟨a, _ | ⟨a', as⟩⟩ <;> rcases bs with _ | ⟨b, _ | ⟨b', bs⟩⟩ <;>
    simp [ofList, append]

/-- The shape is the one that fits the number of items. -/
def Fitting (as : Items α) : Prop := as = .ofList as.toList

theorem fitting_ofList (as : List α) : (ofList as).Fitting := by
  rw [Fitting, toList_ofList]

theorem Fitting.append {as bs : Items α} (ha : as.Fitting) (hb : bs.Fitting) :
    (as.append bs).Fitting := by
  rw [ha, hb, append_ofList]
  exact fitting_ofList _

/-- A `many` has two items or more. -/
def Canonical (a : Items α) : Prop := ∀ as, a = .many as → 2 ≤ as.length

theorem canonical_iff_fitting {a : Items α} : a.Canonical ↔ a.Fitting := by
  cases a with
  | none => exact ⟨fun _ => rfl, fun _ => nofun⟩
  | one item => exact ⟨fun _ => rfl, fun _ => nofun⟩
  | many as =>
    rcases as with _ | ⟨a, _ | ⟨a', as⟩⟩
    · exact ⟨fun h => absurd (h [] rfl) (by simp), nofun⟩
    · exact ⟨fun h => absurd (h [a] rfl) (by simp), nofun⟩
    · refine ⟨fun _ => rfl, fun _ as' h => ?_⟩
      cases h
      simp

/-- What comes out of the shapes for none and one, of lists and of edits. -/
inductive Built : Items α → Prop
  | none : Built .none
  | one (item : α) : Built (.one item)
  | ofList (items : List α) : Built (.ofList items)
  | append {a b : Items α} (ha : Built a) (hb : Built b) : Built (a.append b)
  | push {a : Items α} (h : Built a) (item : α) : Built (a.push item)
  | reset {a : Items α} (h : Built a) : Built a.reset
  | taken {a : Items α} (h : Built a) : Built a.take.1
  | left {a : Items α} (h : Built a) : Built a.take.2

theorem Built.fitting {a : Items α} (h : a.Built) : a.Fitting := by
  induction h with
  | none | one _ | reset _ _ | left _ _ => rfl
  | ofList items => exact fitting_ofList items
  | append _ _ iha ihb => exact iha.append ihb
  | push _ item ih => exact ih.append (fitting_ofList [item])
  | taken _ ih => exact ih

/-- **Items that are not handed in as a `many` have the shape that fits,** and all of these are. -/
theorem built_iff_canonical {a : Items α} : a.Built ↔ a.Canonical := by
  rw [canonical_iff_fitting]
  constructor
  · exact Built.fitting
  · intro h
    rw [h]
    exact .ofList _

/-! ## Comparing -/

section Compare

variable [BEq α]

/-- In the shapes that fit, items are compared as lists. -/
theorem beq_ofList (as bs : List α) : (ofList as == ofList bs) = (as == bs) := by
  rcases as with _ | ⟨a, _ | ⟨a', as⟩⟩ <;> rcases bs with _ | ⟨b, _ | ⟨b', bs⟩⟩
  case cons.nil.cons.nil =>
    show (a == b) = (a == b && true)
    rw [Bool.and_true]
  case cons.nil.cons.cons =>
    show false = (a == b && false)
    rw [Bool.and_false]
  case cons.cons.cons.nil =>
    show false = (a == b && false)
    rw [Bool.and_false]
  all_goals rfl

/-- Lists are equal if and only if their items are, one by one. -/
theorem beq_list_iff_forall₂ : ∀ {as bs : List α},
    (as == bs) = true ↔ List.Forall₂ (fun a b => (a == b) = true) as bs
  | [], [] => ⟨fun _ => .nil, fun _ => rfl⟩
  | [], _ :: _ => ⟨nofun, nofun⟩
  | _ :: _, [] => ⟨nofun, nofun⟩
  | a :: as, b :: bs => by
    rw [List.cons_beq_cons, Bool.and_eq_true, List.forall₂_cons, beq_list_iff_forall₂]

theorem beq_iff_of_canonical {a b : Items α} (ha : a.Canonical) (hb : b.Canonical) :
    (a == b) = true ↔ List.Forall₂ (fun x y => (x == y) = true) a.toList b.toList := by
  rw [canonical_iff_fitting] at ha hb
  rw [← beq_list_iff_forall₂, ← beq_ofList, ← ha, ← hb]

end Compare

/-- **Items are a list.** To append is to append the items, to push is to put one more at the end;
array, length and emptiness are those of the list, a reset leaves nothing, what is taken is what was
there, and a list has its own items. So after any edits, whatever shapes are appended, the items are those of
the same edits on lists, and so are the ones taken on the way. A `many` of less than two items comes
out of nothing but itself, and where there is none, two are equal if and only if their items are, one
by one. -/
theorem behave_as_list {α : Type} :
    (∀ a b : Items α, (a.append b).toList = a.toList ++ b.toList) ∧
    (∀ (a : Items α) (item : α), (a.push item).toList = a.toList ++ [item]) ∧
    (∀ a : Items α, a.toArray.toList = a.toList ∧ a.length = a.toList.length ∧
      (a.isEmpty = true ↔ a.toList = []) ∧ a.reset.toList = [] ∧ a.take = (a, .none)) ∧
    (∀ as : List α, (ofList as).toList = as) ∧
    (∀ (edits : List (Edit α (Items α))) (a : Items α),
      Edit.run Edit.applyList (edits.map (Edit.map toList)) a.toList
        = (Edit.run Edit.apply edits a).map (List.map toList) toList) ∧
    (∀ a : Items α, a.Built ↔ a.Canonical) ∧
    ∀ [BEq α] (a b : Items α), a.Canonical → b.Canonical →
      ((a == b) = true ↔ List.Forall₂ (fun x y => (x == y) = true) a.toList b.toList) := by
  refine ⟨toList_append, toList_push, ?_, toList_ofList, toList_run, fun _ => built_iff_canonical,
    fun _ _ => beq_iff_of_canonical⟩
  intro a
  refine ⟨a.toList_toArray, a.length_eq, ?_, rfl, rfl⟩
  rw [isEmpty_eq, List.isEmpty_iff]

/-- Items pushed one by one and items of a list, where the two zeros are equal and what is no number
equals nothing. A `many` of one item is not equal to that item. -/
theorem behave_as_list_floats :
    let _ : BEq Value := ⟨Value.equal⟩
    let pushed : Items Value := (Items.none.push (.float64 0)).push .null
    let listed : Items Value := .ofList [.float64 0x8000000000000000, .null]
    let odd : Items Value := .one (.float64 0x7ff8000000000000)
    pushed.Canonical ∧ listed.Canonical ∧ odd.Canonical ∧
    List.Forall₂ (fun x y => (x == y) = true) pushed.toList listed.toList ∧
    (pushed == listed) = true ∧ ¬ (odd == odd) = true ∧
    (Items.many [Value.null] == Items.one Value.null) = false := by
  intro _ pushed listed odd
  obtain ⟨-, -, -, -, -, hbuilt, hcompare⟩ := @behave_as_list Value
  have hpushed : pushed.Canonical := (hbuilt _).mp ((Built.none.push _).push _)
  have hlisted : listed.Canonical := (hbuilt _).mp (.ofList _)
  have hodd : odd.Canonical := (hbuilt _).mp (.one _)
  have hequal : List.Forall₂ (fun x y => (x == y) = true) pushed.toList listed.toList :=
    .cons (by decide) (.cons (by decide) .nil)
  refine ⟨hpushed, hlisted, hodd, hequal, (hcompare _ _ hpushed hlisted).mpr hequal, ?_, rfl⟩
  intro h
  cases (hcompare _ _ hodd hodd).mp h with
  | cons hitem _ => exact absurd hitem (by decide)

end Items

end SqlSelect
