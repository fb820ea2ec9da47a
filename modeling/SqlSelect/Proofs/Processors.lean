import SqlSelect.Proofs.Opacity

/-!
# What is done to the rows is not seen in statements

What is done to the rows that come back belongs to a query, and goes with it into a derived table, a
copy or a relation. No statement depends on it. To say so it is left out at every level of every
query (`Session.unprocessed`). No query compiles differently for it (`Query.compile_unprocessed`).
And whatever step is taken, from a session as it is or with all that left out, the sessions after it
are again the same but for that, and so are the replies (`Session.same_step`, `Session.run_congr`).
-/

namespace SqlSelect

/-! ## Leaving out what is done to the rows -/

/-- The same clauses, nothing done to the rows. -/
def Select.unprocessed (s : Select) : Select := { s with processor := none }

/-- The same table, nothing done to the rows at any level. -/
def Table.unprocessed : Table → Table
  | .name n => .name n
  | .raw sql => .raw sql
  | .derived inner t => .derived inner.unprocessed t.unprocessed

/-- The same query, nothing done to the rows at any level. -/
def Query.unprocessed (q : Query) : Query :=
  { q.toSelect.unprocessed with table := q.table.unprocessed }

def Relation.unprocessed : Relation → Relation
  | .values vs => .values vs
  | .query q => .query q.unprocessed

/-- The same change, nothing done to the rows in the queries that it brings. -/
def Change.unprocessed : Change → Change
  | .setTable t => .setTable t.unprocessed
  | .filterIn m column r => .filterIn m column r.unprocessed
  | c => c

/-- The same outcome, its rows only counted. -/
def Outcome.unread : Outcome → Outcome
  | .rows rs => .rows (rs.map fun _ => ∅)
  | .row r => .row (r.map fun _ => ∅)
  | .count n => .count n

/-- The same reply, but for what is done to the rows. -/
def Reply.unprocessed : Reply → Reply
  | .query q => .query q.unprocessed
  | .ran result sent after => .ran (result.map Outcome.unread) sent after.unprocessed
  | reply => reply

namespace Session

/-- The same queries under the same names, nothing done to the rows. -/
def unprocessed (s : Session) : Session := { s with queries := s.queries.map Query.unprocessed }

/-- The same replies and the same session after them, but for what is done to the rows. -/
def Same (x y : Reply × Session) : Prop :=
  x.1.unprocessed = y.1.unprocessed ∧ x.2.unprocessed = y.2.unprocessed

end Session

/-! ## Compiling -/

theorem Select.compile_unprocessed (s : Select) (t : Table) :
    s.unprocessed.compile t.unprocessed = s.compile t := by
  induction t generalizing s with
  | name n | raw sql => rfl
  | derived inner t ih =>
    rw [Table.unprocessed, compile, compile, ih inner]
    rfl

/-- **What is done to the rows is not seen in the statement.** -/
theorem Query.compile_unprocessed (q : Query) : q.unprocessed.compile = q.compile :=
  q.toSelect.compile_unprocessed q.table

theorem Table.unprocessed_unprocessed (t : Table) : t.unprocessed.unprocessed = t.unprocessed := by
  induction t with
  | name n | raw sql => rfl
  | derived inner t ih =>
    rw [unprocessed, unprocessed, ih]
    rfl

theorem Query.unprocessed_unprocessed (q : Query) : q.unprocessed.unprocessed = q.unprocessed := by
  rw [unprocessed, unprocessed, Table.unprocessed_unprocessed]
  rfl

theorem Query.unprocessed_congr {q q' : Query}
    (hs : q.toSelect.unprocessed = q'.toSelect.unprocessed)
    (ht : q.table.unprocessed = q'.table.unprocessed) : q.unprocessed = q'.unprocessed := by
  rw [unprocessed, unprocessed, hs, ht]

/-! ## Changing -/

theorem Relation.fragment_unprocessed (r : Relation) : r.unprocessed.fragment = r.fragment := by
  cases r with
  | values vs => rfl
  | query q => exact q.compile_unprocessed

/-- A change to the query without what is done to its rows is refused alike, draws the same names,
and gives the same query but for that. -/
theorem Change.run_apply_unprocessed (c : Change) (q : Query) (d : Draws) :
    (((c.unprocessed.apply q.unprocessed).run d).1.map Query.unprocessed,
        ((c.unprocessed.apply q.unprocessed).run d).2)
      = (((c.apply q).run d).1.map Query.unprocessed, ((c.apply q).run d).2) := by
  have htable := q.table.unprocessed_unprocessed
  -- Only a query to look into and the terms of an order can be refused. What is done to the rows is
  -- left out of both results, so a change that sets it needs no case of its own.
  cases c with
  | setTable t =>
    exact congrArg (fun after => (Except.ok after, d))
      (Query.unprocessed_congr rfl t.unprocessed_unprocessed)
  | filterIn m column r =>
    show (((q.unprocessed.filterIn m column r.unprocessed).run d).1.map _,
        ((q.unprocessed.filterIn m column r.unprocessed).run d).2)
      = (((q.filterIn m column r).run d).1.map _, ((q.filterIn m column r).run d).2)
    rw [Query.filterIn, Query.filterIn, Drawing.run_bind, Drawing.run_bind,
      r.fragment_unprocessed]
    rcases r.fragment.run d with ⟨result, d⟩
    cases result with
    | error e => rfl
    | ok list =>
      exact congrArg (fun after => (Except.ok after, d)) (Query.unprocessed_congr rfl htable)
  | orderBy terms =>
    show ((q.unprocessed.orderBy terms).map _, d) = ((q.orderBy terms).map _, d)
    rw [Query.orderBy, Query.orderBy]
    cases Term.resolveAll terms.toList with
    | error e => rfl
    | ok items =>
      exact congrArg (fun after => (Except.ok after, d)) (Query.unprocessed_congr rfl htable)
  | _ => exact congrArg (fun after => (Except.ok after, d)) (Query.unprocessed_congr rfl htable)

/-! ## Looking up arguments -/

theorem RelationRef.resolve_unprocessed (queries : OrderedMap Query) (relation : RelationRef) :
    relation.resolve (queries.map Query.unprocessed)
      = (relation.resolve queries).map Relation.unprocessed := by
  cases relation with
  | values vs => rfl
  | query name =>
    rw [resolve, resolve, findQuery_map]
    cases findQuery queries name <;> rfl

theorem TableRef.resolve_unprocessed (queries : OrderedMap Query) (table : TableRef) :
    table.resolve (queries.map Query.unprocessed)
      = (table.resolve queries).map Table.unprocessed :=
  resolve_map (fun base => by cases base <;> rfl) (fun _ => rfl) (fun _ => rfl) queries table

theorem CallRef.resolve_unprocessed (queries : OrderedMap Query) (c : CallRef) :
    c.resolve (queries.map Query.unprocessed) = (c.resolve queries).map Change.unprocessed := by
  unfold resolve
  cases c with
  | setTable table =>
    rw [Call.traverse, Call.traverse, TableRef.resolve_unprocessed]
    cases table.resolve queries <;> rfl
  | filterIn m column relation =>
    rw [Call.traverse, Call.traverse, RelationRef.resolve_unprocessed]
    cases relation.resolve queries <;> rfl
  | select columns | groupBy columns | groupByHaving columns having vs =>
    rw [Call.traverse, Call.traverse,
      SelectionRef.resolve_map (g := Query.unprocessed) fun _ => rfl]
    cases columns.resolve queries <;> rfl
  | _ => rfl

/-! ## Steps -/

namespace Session

theorem unprocessed_unprocessed (s : Session) : s.unprocessed.unprocessed = s.unprocessed := by
  simp only [unprocessed, OrderedMap.map_map]
  congr 2
  funext q
  exact q.unprocessed_unprocessed

theorem store_unprocessed (s : Session) (name : String) (q : Query) :
    (s.store name q).unprocessed = s.unprocessed.store name q.unprocessed :=
  congrArg (fun queries => { s with queries })
    (OrderedMap.map_insert Query.unprocessed s.queries name q)

theorem same_answer {s : Session} {name : String} {reply reply' : Query → Reply × Session}
    (h : ∀ q, Same (reply' q.unprocessed) (reply q)) :
    Same (s.unprocessed.answer name reply') (s.answer name reply) := by
  rw [answer, answer, unprocessed, OrderedMap.get?_map]
  cases s.queries.get? name with
  | none => exact ⟨rfl, s.unprocessed_unprocessed⟩
  | some q => exact h q

/-- Queries that are the same but for that, stored in the same session. -/
theorem same_store {s : Session} (name : String) {q q' : Query}
    (h : q'.unprocessed = q.unprocessed) :
    Same (.query q', s.unprocessed.store name q') (.query q, s.store name q) := by
  refine ⟨congrArg Reply.query h, ?_⟩
  show (store _ name q').unprocessed = (store _ name q).unprocessed
  rw [store_unprocessed, store_unprocessed, unprocessed_unprocessed, h]

theorem same_make {s : Session} (name : String) (table : TableRef) {query query' : Table → Query}
    (h : ∀ t, (query' t.unprocessed).unprocessed = (query t).unprocessed) :
    Same (s.unprocessed.make name table query') (s.make name table query) := by
  rw [make, make, unprocessed, TableRef.resolve_unprocessed, TableRef.leave_map]
  cases table.resolve s.queries with
  | error missing => exact ⟨rfl, s.unprocessed_unprocessed⟩
  | ok t => exact same_store (s := { s with queries := table.leave s.queries }) name (h t)

/-- One change, with and without what is done to the rows: both are refused, or none is. -/
theorem same_change {s : Session} (name : String) (c : CallRef) :
    Same (s.unprocessed.change name c) (s.change name c) := by
  rw [change, change, unprocessed, CallRef.resolve_unprocessed, CallRef.leave_map]
  cases c.resolve s.queries with
  | error missing => exact ⟨rfl, s.unprocessed_unprocessed⟩
  | ok change =>
    refine same_answer (s := { s with queries := c.leave s.queries }) fun q => ?_
    have hrun := change.run_apply_unprocessed q s.draws
    dsimp only
    generalize (change.apply q).run s.draws = x at hrun ⊢
    generalize (change.unprocessed.apply q.unprocessed).run s.draws = y at hrun ⊢
    obtain ⟨result, draws⟩ := x
    obtain ⟨result', draws'⟩ := y
    obtain ⟨hresult, rfl⟩ := Prod.mk.inj hrun
    cases result with
    | error e =>
      cases result' with
      | error e' =>
        obtain rfl := Except.error.inj hresult
        exact ⟨rfl, unprocessed_unprocessed { queries := c.leave s.queries, draws := draws' }⟩
      | ok after' => cases hresult
    | ok after =>
      cases result' with
      | error e' => cases hresult
      | ok after' =>
        exact same_store (s := { queries := c.leave s.queries, draws := draws' }) name
          (Except.ok.inj hresult)

theorem compile_unprocessed (s : Session) (q : Query) :
    s.unprocessed.compile q.unprocessed = ((s.compile q).1, (s.compile q).2.unprocessed) := by
  rw [compile, compile, q.compile_unprocessed]
  rfl

/-- The reply to compiling a query is the same to the letter. -/
theorem step_compile_unprocessed (s : Session) (name : String) :
    s.unprocessed.step (.compile name)
      = ((s.step (.compile name)).1, (s.step (.compile name)).2.unprocessed) := by
  rw [step, step, answer, answer, show s.unprocessed.queries.get? name = _ from
    OrderedMap.get?_map Query.unprocessed s.queries name]
  cases s.queries.get? name with
  | none => rfl
  | some q =>
    dsimp only [Option.map_some]
    rw [compile_unprocessed]
    rcases s.compile q with ⟨result, s⟩
    cases result <;> rfl

theorem same_compare (s : Session) (q other : Query) :
    Same (s.unprocessed.compare q.unprocessed other.unprocessed) (s.compare q other) := by
  unfold compare
  simp only [compile_unprocessed]
  rcases s.compile q with ⟨first, s⟩
  rcases s.compile other with ⟨second, s⟩
  cases first with
  | error e => exact ⟨rfl, s.unprocessed_unprocessed⟩
  | ok a => cases second <;> exact ⟨rfl, s.unprocessed_unprocessed⟩

theorem same_execute (s : Session) (q : Query) (entry : Entry) (executor : Executor) :
    Same (s.unprocessed.execute q.unprocessed entry executor) (s.execute q entry executor) := by
  have hsends : (entry.sends q.unprocessed).compile = (entry.sends q).compile := by
    cases entry with
    | fetch | get => exact q.compile_unprocessed
    | getOne => exact q.single.compile_unprocessed
    | count => exact q.counter.compile_unprocessed
  have hread : ∀ rows, (entry.read q.unprocessed rows).map Outcome.unread
      = (entry.read q rows).map Outcome.unread := by
    intro rows
    cases entry with
    | fetch | count => rfl
    | get | getOne => simp [Entry.read, Except.map, Outcome.unread, Function.comp_def]
  have hdraws : s.unprocessed.draws = s.draws := rfl
  rw [execute_eq, execute_eq, hsends, hdraws]
  rcases (entry.sends q).compile.run s.draws with ⟨result, draws⟩
  cases result with
  | error e =>
    refine ⟨?_, unprocessed_unprocessed { s with draws }⟩
    exact congrArg (Reply.ran (.error e) []) q.unprocessed_unprocessed
  | ok statement =>
    refine ⟨?_, unprocessed_unprocessed { s with draws }⟩
    dsimp only [Reply.unprocessed]
    rw [q.unprocessed_unprocessed]
    cases executor statement with
    | error e => rfl
    | ok rows => exact congrArg (Reply.ran · [statement] q.unprocessed) (hread rows)

/-- **One step, with and without what is done to the rows.** -/
theorem same_step (s : Session) (step : Step) : Same (s.unprocessed.step step) (s.step step) := by
  cases step with
  | create name a source table =>
    exact same_make name table fun t => Query.unprocessed_congr rfl t.unprocessed_unprocessed
  | sub name of table =>
    refine same_answer fun q => same_make name table fun t => ?_
    exact Query.unprocessed_congr rfl t.unprocessed_unprocessed
  | copy name of => exact same_answer fun q => same_store name q.unprocessed_unprocessed
  | call name c => exact same_change name c
  | draw source start => exact ⟨rfl, unprocessed_unprocessed (s.step (.draw source start)).2⟩
  | readOption name key =>
    refine same_answer fun q => ?_
    rw [show q.unprocessed.options = q.options from rfl]
    cases q.options.get key <;> exact ⟨rfl, s.unprocessed_unprocessed⟩
  | quote name identifier => exact same_answer fun q => ⟨rfl, s.unprocessed_unprocessed⟩
  | look name =>
    exact same_answer fun q =>
      ⟨congrArg Reply.query q.unprocessed_unprocessed, s.unprocessed_unprocessed⟩
  | compile name =>
    rw [step_compile_unprocessed]
    exact ⟨rfl, unprocessed_unprocessed _⟩
  | compare name other =>
    exact same_answer fun q => same_answer fun o => same_compare s q o
  | run name entry executor => exact same_answer fun q => same_execute s q entry executor

/-- **Sessions that are the same but for what is done to the rows stay so,** step by step, and all
their replies are the same but for that. -/
theorem run_congr {s s' : Session} (h : s.unprocessed = s'.unprocessed) (steps : List Step) :
    (s.run steps).1.map Reply.unprocessed = (s'.run steps).1.map Reply.unprocessed ∧
      (s.run steps).2.unprocessed = (s'.run steps).2.unprocessed := by
  induction steps generalizing s s' with
  | nil => exact ⟨rfl, h⟩
  | cons step steps ih =>
    have hs := s.same_step step
    have hs' := s'.same_step step
    rw [← h] at hs'
    obtain ⟨hreplies, hlast⟩ := ih (hs.2.symm.trans hs'.2)
    exact ⟨congrArg₂ List.cons (hs.1.symm.trans hs'.1) hreplies, hlast⟩

/-- In sessions that are the same but for what is done to the rows a query compiles alike. -/
theorem step_compile_congr {s s' : Session} (h : s.unprocessed = s'.unprocessed) (name : String) :
    (s.step (.compile name)).1 = (s'.step (.compile name)).1 ∧
      (s.step (.compile name)).2.draws = (s'.step (.compile name)).2.draws := by
  have hs := s.step_compile_unprocessed name
  rw [h, s'.step_compile_unprocessed] at hs
  obtain ⟨hreply, hsession⟩ := Prod.mk.inj hs
  exact ⟨hreply.symm, (congrArg Session.draws hsession).symm⟩

end Session

end SqlSelect
