import SqlSelect.Proofs.Shaped

/-!
# Shapes make no difference

Items are handed in as nothing, as one thing, as a sequence or in a shape that is chosen on purpose.
Only the items in it count, and their order. A session takes the same steps with the same answers
when items come in another shape. And a query that keeps all shapes, in the queries inside it too,
cannot be told from one that was given the same items in other shapes: the same changes are refused,
the same statement is compiled and the same names are drawn. So keeping lists in place of shapes
loses nothing.
-/

namespace SqlSelect

/-! ## Handing in items -/

/-- The ways to hand in items. -/
inductive Container (α : Type) where
  | unit
  | single (a : α)
  | sequence (as : List α)
  | items (as : Items α)

namespace Container

variable {α : Type}

/-- The items in it. -/
def toList : Container α → List α
  | .unit => []
  | .single a => [a]
  | .sequence as => as
  | .items as => as.toList

/-- The shape in which they come in. -/
def toItems : Container α → Items α
  | .unit => .none
  | .single a => .one a
  | .sequence as => .ofList as
  | .items as => as

theorem toList_toItems : ∀ c : Container α, c.toItems.toList = c.toList
  | .unit | .single _ | .items _ => rfl
  | .sequence as => Items.toList_ofList as

end Container

/-! ## Steps with lists for shapes -/

/-- The same columns in the shape of a list; those of a query are named and stay so. -/
def SelectionRef.listed : SelectionRef → SelectionRef
  | .given cs => .given cs.listed
  | .columnsOf name => .columnsOf name

/-- The same values in the shape of a list. -/
def RelationRef.listed : RelationRef → RelationRef
  | .values vs => .values vs.listed
  | .query name => .query name

/-- The same step, all items it hands in in the shape of lists. -/
def Step.listed : Step → Step
  | .call name c => .call name (c.listed id SelectionRef.listed RelationRef.listed)
  | step => step

/-- The same items are handed in, in the same order. -/
def Step.SameItems (step step' : Step) : Prop := step.listed = step'.listed

def Relation.listed : Relation → Relation
  | .values vs => .values vs.listed
  | .query q => .query q

def Change.listed : Change → Change := Call.listed id Selection.listed Relation.listed

theorem Change.apply_listed (c : Change) (q : Query) : (Change.listed c).apply q = c.apply q := by
  cases c with
  | filterIn m column r => cases r <;> rfl
  | _ => rfl

theorem SelectionRef.resolve_listed (queries : OrderedMap Query) (columns : SelectionRef) :
    columns.listed.resolve queries = (columns.resolve queries).map Selection.listed := by
  cases columns with
  | given cs => rfl
  | columnsOf name =>
    rw [listed, resolve]
    cases findQuery queries name <;> rfl

theorem RelationRef.resolve_listed (queries : OrderedMap Query) (relation : RelationRef) :
    relation.listed.resolve queries = (relation.resolve queries).map Relation.listed := by
  cases relation with
  | values vs => rfl
  | query name =>
    rw [listed, resolve]
    cases findQuery queries name <;> rfl

theorem CallRef.resolve_listed (queries : OrderedMap Query) (c : CallRef) :
    CallRef.resolve queries (c.listed id SelectionRef.listed RelationRef.listed)
      = (c.resolve queries).map Change.listed := by
  unfold resolve
  cases c with
  | setTable table =>
    rw [Call.listed, Call.traverse, Call.traverse, id]
    cases table.resolve queries <;> rfl
  | filterIn m column relation =>
    rw [Call.listed, Call.traverse, Call.traverse, RelationRef.resolve_listed]
    cases relation.resolve queries <;> rfl
  | select columns | groupBy columns | groupByHaving columns having vs =>
    rw [Call.listed, Call.traverse, Call.traverse, SelectionRef.resolve_listed]
    cases columns.resolve queries <;> rfl
  | _ => rfl

theorem CallRef.leave_listed (queries : OrderedMap Query) (c : CallRef) :
    CallRef.leave queries (c.listed id SelectionRef.listed RelationRef.listed)
      = c.leave queries := by
  cases c <;> rfl

namespace Session

theorem step_listed (s : Session) (step : Step) : s.step step.listed = s.step step := by
  cases step with
  | call name c =>
    show s.change name _ = s.change name c
    rw [change, change, CallRef.resolve_listed, CallRef.leave_listed]
    cases c.resolve s.queries with
    | error missing => rfl
    | ok change =>
      simp only [Except.map, Change.apply_listed]
  | _ => rfl

theorem run_listed (s : Session) (steps : List Step) :
    s.run (steps.map Step.listed) = s.run steps := by
  induction steps generalizing s with
  | nil => rfl
  | cons step steps ih => simp only [List.map_cons, run, step_listed, ih]

end Session

/-! ## Histories with shapes -/

/-- Whether a computation fails, and how, and the requests made after it. -/
def Drawing.verdict {α : Type} (x : Drawing α) (d : Draws) : Option Error × Draws :=
  match x.run d with
  | (.ok _, d) => (none, d)
  | (.error e, d) => (some e, d)

/-- What each of the events answers, one after another. -/
def Query.verdicts (q : Query) : List Event → List (Option Error × Draws)
  | [] => []
  | e :: history =>
    (e.change.apply q).verdict e.before :: (q.after e.change e.before).verdicts history

namespace Shaped

/-- A change that was asked for, and the names drawn before. -/
structure Event where
  change : Change
  before : Draws

/-- The same event with its shapes forgotten. -/
def Event.forget (e : Event) : SqlSelect.Event := ⟨Change.forget e.change, e.before⟩

/-- The same items are handed in, in the same order, and so they were in the queries inside. -/
def Event.SameItems (e e' : Event) : Prop := e.forget = e'.forget

namespace Query

/-- The same items are kept, in the same order, at each level. -/
def SameItems (q q' : Query) : Prop := q.forget = q'.forget

/-- The query after an event; a change that is refused leaves it as it is. -/
def after (q : Query) (e : Event) : Query :=
  match ((q.change e.change).run e.before).1 with
  | .ok after => after
  | .error _ => q

/-- The query after all events, one after another. -/
def replay (q : Query) (history : List Event) : Query := history.foldl after q

/-- What each of the events answers, one after another. -/
def verdicts (q : Query) : List Event → List (Option Error × Draws)
  | [] => []
  | e :: history => (q.change e.change).verdict e.before :: (q.after e).verdicts history

theorem verdict_forget (q : Query) (e : Event) :
    (e.forget.change.apply q.forget).verdict e.forget.before
      = (q.change e.change).verdict e.before := by
  rw [Drawing.verdict, Drawing.verdict, Event.forget, run_change]
  rcases (q.change e.change).run e.before with ⟨x | after, d⟩ <;> rfl

theorem forget_after (q : Query) (e : Event) :
    q.forget.after e.forget.change e.forget.before = (q.after e).forget := by
  rw [SqlSelect.Query.after, after, Event.forget, run_change]
  rcases (q.change e.change).run e.before with ⟨x | after, d⟩ <;> rfl

/-- Event by event, the query that keeps lists answers as the one that keeps shapes. -/
theorem verdicts_forget (q : Query) (history : List Event) :
    q.forget.verdicts (history.map Event.forget) = q.verdicts history := by
  induction history generalizing q with
  | nil => rfl
  | cons e history ih =>
    rw [List.map_cons, SqlSelect.Query.verdicts, verdicts, verdict_forget, forget_after, ih]

/-- Event by event, the query that keeps lists stays the one that keeps shapes without them. -/
theorem forget_replay (q : Query) (history : List Event) :
    q.forget.replay (history.map Event.forget) = (q.replay history).forget := by
  induction history generalizing q with
  | nil => rfl
  | cons e history ih =>
    rw [List.map_cons, SqlSelect.Query.replay, List.foldl_cons, forget_after]
    exact ih (q.after e)

/-! ## What can be asked of a query -/

/-- Whatever is asked of two queries, both answer the same. -/
structure Indistinct (q q' : Query) : Prop where
  /-- They compile alike, whatever names were drawn before: to the same text and the same values or
  with the same error, with the same names drawn. -/
  compile : ∀ d : Draws, q.compile.run d = q'.compile.run d
  columns_length : q.columns.length = q'.columns.length
  columns_isEmpty : q.columns.isEmpty = q'.columns.isEmpty
  predicates_length : q.predicates.length = q'.predicates.length
  predicates_isEmpty : q.predicates.isEmpty = q'.predicates.isEmpty
  values_length : q.predicates.map (·.values.length) = q'.predicates.map (·.values.length)
  values_isEmpty : q.predicates.map (·.values.isEmpty) = q'.predicates.map (·.values.isEmpty)
  group_isEmpty : q.group.map Group.isEmpty = q'.group.map Group.isEmpty
  hasOrphanHaving : q.group.map Group.hasOrphanHaving = q'.group.map Group.hasOrphanHaving
  order_length : q.order.length = q'.order.length
  order_isEmpty : q.order.isEmpty = q'.order.isEmpty

theorem SameItems.indistinct {q q' : Query} (h : q.SameItems q') : q.Indistinct q' := by
  have hcolumns : q.columns.toList = q'.columns.toList := congrArg (·.columns) h
  have horder : q.order.toList = q'.order.toList := congrArg (·.order) h
  have hpredicates : ∀ {β : Type} (read : Fragment → β),
      q.predicates.map (fun p => read p.forget) = q'.predicates.map fun p => read p.forget := by
    intro β read
    have hmap : q.predicates.map Predicate.forget = q'.predicates.map Predicate.forget :=
      congrArg (·.predicates) h
    simpa only [List.map_map, Function.comp_def] using congrArg (List.map read) hmap
  have hgroup : ∀ {β : Type} (read : SqlSelect.Group → β),
      q.group.map (fun g => read g.forget) = q'.group.map fun g => read g.forget := by
    intro β read
    have hmap : q.group.map Group.forget = q'.group.map Group.forget := congrArg (·.group) h
    simpa only [Option.map_map, Function.comp_def] using congrArg (Option.map read) hmap
  exact {
    compile := fun d => by rw [compile_eq, compile_eq, show q.forget = q'.forget from h]
    columns_length := by rw [Items.length_eq, Items.length_eq, hcolumns]
    columns_isEmpty := by rw [Items.isEmpty_eq, Items.isEmpty_eq, hcolumns]
    predicates_length := by simpa only [List.length_map] using congrArg List.length (hpredicates id)
    predicates_isEmpty := by simpa only [List.isEmpty_map] using congrArg List.isEmpty (hpredicates id)
    values_length := by
      simp only [Items.length_eq]
      exact hpredicates (·.values.length)
    values_isEmpty := by
      simp only [Items.isEmpty_eq]
      exact hpredicates (·.values.isEmpty)
    group_isEmpty := by simpa only [Group.isEmpty_forget] using hgroup (·.isEmpty)
    hasOrphanHaving := by
      simpa only [Group.hasOrphanHaving_forget] using hgroup (·.hasOrphanHaving)
    order_length := by rw [Items.length_eq, Items.length_eq, horder]
    order_isEmpty := by rw [Items.isEmpty_eq, Items.isEmpty_eq, horder] }

end Query

/-! ## The same items in other shapes -/

theorem map_eq_of_forall₂ {α β : Type} {f : α → β} {as bs : List α}
    (h : List.Forall₂ (fun a b => f a = f b) as bs) : as.map f = bs.map f := by
  rw [← List.forall₂_eq_eq_eq, List.forall₂_map_left_iff, List.forall₂_map_right_iff]
  exact h

/--
**Shapes make no difference.** Steps that hand in the same items in other shapes are answered in the
same way and lead to the same session. Histories of queries that keep every shape, and keep it in the
queries inside as well, are answered in the same way too, and end in queries that nothing tells
apart. All of that is as with the queries that keep lists.

Whichever way items are handed in, these items come in; a lone `*` is no column. Without columns, in
whatever shape, `*` is selected and nothing is grouped; without terms nothing is ordered.
-/
theorem indistinct_of_same_items :
    (∀ (s : Session) (steps steps' : List Step), List.Forall₂ Step.SameItems steps steps' →
      s.run steps = s.run steps') ∧
    (∀ (q q' : Query) (history history' : List Event), q.SameItems q' →
      List.Forall₂ Event.SameItems history history' →
      q.verdicts history = q'.verdicts history' ∧
        (q.replay history).Indistinct (q'.replay history')) ∧
    (∀ (q : Query) (history : List Event) (d : Draws),
      q.verdicts history = q.forget.verdicts (history.map Event.forget) ∧
        (q.replay history).compile.run d
          = (q.forget.replay (history.map Event.forget)).compile.run d) ∧
    (∀ {α : Type} (c : Container α), c.toItems.toList = c.toList ∧
      c.toItems.length = c.toList.length ∧ c.toItems.isEmpty = c.toList.isEmpty) ∧
    (∀ s : String, (Selection.text s).toList = if s = "*" then [] else [.name s]) ∧
    (∀ (a : Adapter) (cs : Items Column) (w : Draft), cs.toList = [] →
      writeColumns a cs w = w.sql "*") ∧
    (∀ (a : Adapter) (g : Group) (w : Draft), g.columns.toList = [] → g.write a w = w) ∧
    ∀ (s : Select) (w : Draft), s.order.toList = [] → s.writeOrder w = w := by
  refine ⟨?sessions, ?histories, ?lists, ?containers, ?star, ?columns, ?group, ?order⟩
  case sessions =>
    intro s steps steps' h
    rw [← s.run_listed, map_eq_of_forall₂ h, s.run_listed]
  case histories =>
    intro q q' history history' hq h
    have hforget : q.forget = q'.forget := hq
    have hreplay : (q.replay history).SameItems (q'.replay history') := by
      rw [Query.SameItems, ← Query.forget_replay, ← Query.forget_replay, hforget,
        map_eq_of_forall₂ h]
    constructor
    · rw [← q.verdicts_forget, ← q'.verdicts_forget, hforget, map_eq_of_forall₂ h]
    · exact hreplay.indistinct
  case lists =>
    intro q history d
    rw [q.verdicts_forget, q.forget_replay, Query.compile_eq]
    exact ⟨rfl, rfl⟩
  case containers =>
    intro α c
    have h := c.toList_toItems
    rw [Items.length_eq, Items.isEmpty_eq, h]
    exact ⟨rfl, rfl, rfl⟩
  case star =>
    intro s
    show (if s = "*" then Items.none else .one (Column.name s)).toList = _
    split <;> rfl
  case columns =>
    intro a cs w h
    rw [writeColumns, Items.isEmpty_eq, h]
    rfl
  case group =>
    intro a g w h
    rw [Group.write, Group.isEmpty, Items.isEmpty_eq, h]
    rfl
  case order =>
    intro s w h
    rw [Select.writeOrder, Items.isEmpty_eq, h]
    rfl

/-- Empty lists of columns and of terms, and lists of one value, also in a query inside. -/
theorem indistinct_of_same_items_empty :
    let q : Query := { adapter := .plain, aliases := .sequence "t", table := .name "a" }
    let inner := q.addPredicate ⟨"y = ?".toList, .one (.int32 1)⟩
    let inner' := q.addPredicate ⟨"y = ?".toList, .many [.int32 1]⟩
    let history : List Event := [
      ⟨.select (.columns (.many [])), ∅⟩,
      ⟨.filterIn .among "k" (.query inner), ∅⟩,
      ⟨.groupByHaving (.columns (.many [])) "x = ?" (.one (.int32 2)), ∅⟩,
      ⟨.orderBy (.many []), ∅⟩]
    let history' : List Event := [
      ⟨.select (.text "*"), ∅⟩,
      ⟨.filterIn .among "k" (.query inner'), ∅⟩,
      ⟨.groupByHaving .all "x = ?" (.many [.int32 2]), ∅⟩,
      ⟨.orderBy .none, ∅⟩]
    let steps (vs : Items Value) : List Step := [
      .create "q" .plain (.sequence "t") (.given (.name "a")),
      .call "q" (.filterIn .notAmong "k" (.values vs)),
      .compile "q"]
    inner.SameItems inner' ∧
      List.Forall₂ Event.SameItems history history' ∧
      q.verdicts history = q.verdicts history' ∧
      (q.replay history).Indistinct (q.replay history') ∧
      (q.replay history).compile.run ∅
        = (.ok ⟨"SELECT * FROM a WHERE (k IN (SELECT * FROM a WHERE (y = ?)))".toList,
            [.int32 1]⟩, ∅) ∧
      List.Forall₂ Step.SameItems (steps (.one .null)) (steps (.many [.null])) ∧
      ({} : Session).run (steps (.one .null)) = ({} : Session).run (steps (.many [.null])) := by
  intro q inner inner' history history' steps
  have hhistory : List.Forall₂ Event.SameItems history history' :=
    .cons rfl (.cons rfl (.cons rfl (.cons rfl .nil)))
  have hsteps : List.Forall₂ Step.SameItems (steps (.one .null)) (steps (.many [.null])) :=
    .cons rfl (.cons rfl (.cons rfl .nil))
  obtain ⟨hsessions, hhistories, -⟩ := indistinct_of_same_items
  obtain ⟨hverdicts, hindistinct⟩ := hhistories q q history history' rfl hhistory
  refine ⟨rfl, hhistory, hverdicts, hindistinct, ?compiled, hsteps, hsessions {} _ _ hsteps⟩
  case compiled =>
    show @Eq (Except Error Fragment × Draws) _ _
    decide +kernel

end Shaped

end SqlSelect
