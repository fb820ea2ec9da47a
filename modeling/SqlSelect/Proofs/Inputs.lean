import Mathlib.Data.List.Forall2
import SqlSelect.Session

/-!
# What steps hand in

A query is put together from what steps hand in: names, pieces of SQL, predicates with their values,
rules for quoting, sources of names, and the texts that names of derived tables begin with. Each of
these is an `Input`, and `Step.inputs` lists those of a step.

A query that is used in another one is not handed in, since all that it is made of was handed in
before. Numbers, options of other names and what is done to rows are not listed either: no text in a
statement comes from them but counts. And a predicate on groups counts where it can be written, which
it is not without columns to group by, and not as an empty text.
-/

namespace SqlSelect

/-- Something that a query can be put together from. -/
inductive Input where
  | adapter (a : Adapter)
  | aliases (source : AliasSource)
  /-- What the names of derived tables begin with. -/
  | start (text : String)
  | name (n : String)
  | raw (sql : String)
  /-- A predicate on rows or on groups, with its values. -/
  | predicate (f : Fragment)

/-! ## Parts of clauses -/

@[simp] def BaseTable.input : BaseTable → Input
  | .name n => .name n
  | .raw sql => .raw sql

@[simp] def Column.input : Column → Input
  | .name n => .name n
  | .raw sql => .raw sql

@[simp] def OrderItem.input : OrderItem → Input
  | .column n _ => .name n
  | .raw sql => .raw sql

@[simp] def Term.input : Term → Input
  | .name n | .sort n _ => .name n
  | .raw sql => .raw sql
  | .item i => i.input

/-- A term and the item that it stands for are made of the same. -/
theorem Term.input_of_resolve {t : Term} {i : OrderItem} (h : t.resolve = .ok i) :
    i.input = t.input := by
  cases t with
  | sort column direction =>
    rw [resolve] at h
    split at h
    · cases h
    · cases h
      rfl
  | _ =>
    cases h
    rfl

/-- Terms that are taken are taken one by one, in their order. -/
theorem Term.forall₂_of_resolveAll {ts : List Term} {is : List OrderItem}
    (h : Term.resolveAll ts = .ok is) : List.Forall₂ (fun t i => t.resolve = .ok i) ts is := by
  induction ts generalizing is with
  | nil =>
    cases h
    exact .nil
  | cons t ts ih =>
    rw [resolveAll_cons] at h
    split at h
    · cases h
    · next i ht =>
      cases hts : Term.resolveAll ts with
      | error e =>
        rw [hts] at h
        cases h
      | ok rest =>
        rw [hts] at h
        cases h
        exact .cons ht (ih hts)

/-- So the items are made of what the terms are made of. -/
theorem Term.inputs_of_resolveAll {ts : List Term} {is : List OrderItem}
    (h : Term.resolveAll ts = .ok is) : is.map OrderItem.input = ts.map Term.input := by
  rw [← List.forall₂_eq_eq_eq, List.forall₂_map_left_iff, List.forall₂_map_right_iff]
  exact (Term.forall₂_of_resolveAll h).flip.imp fun _ _ => Term.input_of_resolve

/-! ## Steps -/

@[simp] def TableRef.inputs : TableRef → List Input
  | .given table => [table.input]
  | .copyOf _ | .moveOf _ | .tableOf _ => []

@[simp] def SelectionRef.inputs : SelectionRef → List Input
  | .given columns => columns.toList.map Column.input
  | .columnsOf _ => []

/-- Whether it is known that there are no columns. -/
@[simp] def SelectionRef.isNone : SelectionRef → Bool
  | .given columns => columns.toList.isEmpty
  | .columnsOf _ => false

/-- What a call hands in. -/
@[simp] def CallRef.inputs : CallRef → List Input
  | .setTable table => table.inputs
  | .setAliases source => [.aliases source]
  | .select columns | .groupBy columns => columns.inputs
  | .filter sql values => [.predicate ⟨sql.toList, values.toList⟩]
  | .filterIn _ column _ => [.name column]
  | .groupByHaving columns having values =>
    columns.inputs ++
      if columns.isNone || having = "" then [] else [.predicate ⟨having.toList, values.toList⟩]
  | .orderBy terms => terms.toList.map Term.input
  | .setOption key (.text start) => if key = aliasPrefixKey then [.start start] else []
  | .setOption _ (.bool _) | .setOption _ (.int _) => []
  | .setLimit _ | .setOffset _ | .paginate _ | .setProcessor _ | .reset => []

namespace Step

/-- What a step hands in for a query. -/
@[simp] def inputs : Step → List Input
  | .create _ a source table => .adapter a :: .aliases source :: table.inputs
  | .sub _ _ table => table.inputs
  | .call _ c => c.inputs
  | .copy _ _ | .draw _ _ | .readOption _ _ | .quote _ _ | .look _ | .compile _ | .compare _ _
  | .run _ _ _ => []

/-- All that the step hands in satisfies `W`. -/
def Hands (W : Input → Prop) (step : Step) : Prop := ∀ i ∈ step.inputs, W i

/-- What one of the steps hands in. -/
def HandedIn (steps : List Step) (i : Input) : Prop := ∃ step ∈ steps, i ∈ step.inputs

theorem hands_handedIn {steps : List Step} : ∀ step ∈ steps, step.Hands (HandedIn steps) :=
  fun step hstep _ hi => ⟨step, hstep, hi⟩

theorem HandedIn.of_hands {W : Input → Prop} {steps : List Step}
    (h : ∀ step ∈ steps, step.Hands W) (i : Input) (hi : HandedIn steps i) : W i := by
  obtain ⟨step, hstep, hi⟩ := hi
  exact h step hstep i hi

end Step

end SqlSelect
