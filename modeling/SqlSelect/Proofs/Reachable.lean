import SqlSelect.Proofs.Inputs

/-!
# Queries that a session can reach

A session starts without queries; whatever it holds later was made by its steps, from adapters,
sources, tables that are no queries and queries it held before. So a property of queries that new
queries have and changes keep holds of every query of every session (`Session.Holds.run`).

What steps hand in besides queries can be restricted as well: `W` is a condition on inputs.

## What follows for groups

A predicate on groups is never an empty text: `withHaving` drops it. This holds at every level of a
reachable query (`Query.Reachable.proper`).
-/

namespace SqlSelect

variable {W : Input → Prop} {P : Query → Prop} {s : Session}

theorem exists_of_bind_ok {ε α β : Type} {x : Except ε α} {f : α → Except ε β} {b : β}
    (h : x >>= f = .ok b) : ∃ a, x = .ok a ∧ f a = .ok b := by
  cases x with
  | error e => cases h
  | ok a => exact ⟨a, rfl, h⟩

/-! ## What a change does -/

/-- What a change that is not refused makes of a query, and of the names drawn. -/
def Change.Makes (q : Query) (d e : Draws) (after : Query) : Change → Prop
  | .setTable t => after = q.setTable t
  | .setAliases source => after = q.setAliases source
  | .select cs => after = q.select cs
  | .filter sql vs => after = q.filter sql vs
  | .filterIn m column r => ∃ list, r.fragment.run d = (.ok list, e) ∧
      after = q.addPredicate (m.predicate q.adapter column list)
  | .groupBy cs => after = q.groupBy cs
  | .groupByHaving cs having vs => after = q.groupByHaving cs having vs
  | .orderBy terms => ∃ items, Term.resolveAll terms.toList = .ok items ∧
      after = { q with order := items }
  | .setLimit n => after = q.setLimit n
  | .setOffset n => after = q.setOffset n
  | .paginate page => after = q.paginate page
  | .setOption key value => after = q.setOption key value
  | .setProcessor f => after = q.setProcessor f
  | .reset => after = q.reset

theorem Change.makes_of_apply {c : Change} {q after : Query} {d e : Draws}
    (h : (c.apply q).run d = (.ok after, e)) : c.Makes q d e after := by
  cases c with
  | filterIn m column r =>
    rw [apply, Query.filterIn, Drawing.run_bind] at h
    rcases hr : r.fragment.run d with ⟨result, e'⟩
    rw [hr] at h
    cases result with
    | error x => cases h
    | ok list =>
      cases h
      exact ⟨list, hr, rfl⟩
  | orderBy terms =>
    rw [apply, Drawing.run_lift, Query.orderBy] at h
    cases hr : Term.resolveAll terms.toList with
    | error x =>
      rw [hr] at h
      cases h
    | ok items =>
      rw [hr] at h
      cases h
      exact ⟨items, hr, rfl⟩
  | _ =>
    cases h
    rfl

/-! ## Where arguments come from -/

/-- A table that is no query, a query as a table, or the table of a query. -/
inductive Table.From (W : Input → Prop) (P : Query → Prop) : Table → Prop
  | base {t : BaseTable} (h : W t.input) : Table.From W P t.toTable
  | query {q : Query} (h : P q) : Table.From W P q.asTable
  | tableOf {q : Query} (h : P q) : Table.From W P q.table

/-- Columns that are handed in, or those of a query. -/
inductive Selection.From (W : Input → Prop) (P : Query → Prop) : Selection → Prop
  | given {columns : Selection} (h : ∀ c ∈ columns.toList, W c.input) : Selection.From W P columns
  | columnsOf {q : Query} (h : P q) : Selection.From W P (.columns (.many q.columns))

/-- Values, or a query to look into. -/
def Relation.From (P : Query → Prop) : Relation → Prop
  | .values _ => True
  | .query q => P q

/-- A change whose queries satisfy `P` and all else in it `W`; a predicate on groups, if it is
written. -/
def Change.From (W : Input → Prop) (P : Query → Prop) : Change → Prop
  | .setTable t => t.From W P
  | .setAliases source => W (.aliases source)
  | .select columns | .groupBy columns => columns.From W P
  | .filter sql vs => W (.predicate ⟨sql.toList, vs.toList⟩)
  | .filterIn _ column r => W (.name column) ∧ r.From P
  | .groupByHaving columns having vs => columns.From W P ∧
      (columns.toList ≠ [] → having ≠ "" → W (.predicate ⟨having.toList, vs.toList⟩))
  | .orderBy terms => ∀ t ∈ terms.toList, W t.input
  | .setOption key value => ∀ start, key = aliasPrefixKey → value = .text start → W (.start start)
  | .setLimit _ | .setOffset _ | .paginate _ | .setProcessor _ | .reset => True

/-- What new queries have and changes keep. -/
structure Query.Closed (W : Input → Prop) (P : Query → Prop) : Prop where
  new {a : Adapter} {source : AliasSource} {t : Table} :
    W (.adapter a) → W (.aliases source) → t.From W P → P (.new a source t)
  sub {q : Query} {t : Table} : P q → t.From W P → P (q.sub t)
  change {q after : Query} {c : Change} {d e : Draws} :
    P q → c.From W P → (c.apply q).run d = (.ok after, e) → P after

/-! ## Steps -/

/-- Whether a step reads a query, compiles it or runs it, and changes none. -/
def Step.Reads : Step → Prop
  | .readOption _ _ | .quote _ _ | .look _ | .compile _ | .compare _ _ | .run _ _ _ => True
  | .create _ _ _ _ | .sub _ _ _ | .copy _ _ | .call _ _ | .draw _ _ => False

namespace Session

/-- Every query of a session satisfies `P`. -/
def Holds (P : Query → Prop) (s : Session) : Prop :=
  ∀ (name : String) (q : Query), s.queries.get? name = some q → P q

theorem holds_empty (d : Draws) : Holds P { draws := d } := by
  intro name q h
  cases h

theorem Holds.of_queries {s' : Session} (h : s.Holds P) (hq : s'.queries = s.queries) :
    s'.Holds P := by
  intro name q hget
  rw [hq] at hget
  exact h name q hget

theorem Holds.store {q : Query} (h : s.Holds P) (name : String) (hq : P q) :
    (s.store name q).Holds P := by
  intro other found hget
  rw [Session.store, OrderedMap.get?_insert] at hget
  split at hget
  · cases hget
    exact hq
  · exact h other found hget

theorem Holds.erase {d : Draws} (h : s.Holds P) (name : String) :
    Holds P { queries := s.queries.erase name, draws := d } := by
  intro other found hget
  rw [OrderedMap.get?_erase] at hget
  split at hget
  · cases hget
  · exact h other found hget

theorem Holds.leave_table {d : Draws} (h : s.Holds P) (table : TableRef) :
    Holds P { queries := table.leave s.queries, draws := d } := by
  cases table with
  | moveOf name => exact h.erase name
  | _ => exact h.of_queries rfl

theorem Holds.leave_call {d : Draws} (h : s.Holds P) (c : CallRef) :
    Holds P { queries := c.leave s.queries, draws := d } := by
  cases c with
  | setTable table => exact h.leave_table table
  | _ => exact h.of_queries rfl

/-- What is read off a query of a session is read off one that satisfies `P`. -/
theorem Holds.find {α : Type} {f : Query → α} {name : String} {a : α} (h : s.Holds P)
    (hf : (findQuery s.queries name).map f = .ok a) : ∃ q, P q ∧ f q = a := by
  unfold findQuery at hf
  split at hf
  · next q hget =>
    cases hf
    exact ⟨q, h name q hget, rfl⟩
  · cases hf

theorem Holds.resolve_table {table : TableRef} {t : Table} (h : s.Holds P)
    (hW : ∀ i ∈ table.inputs, W i) (ht : table.resolve s.queries = .ok t) : t.From W P := by
  cases table with
  | given base =>
    cases ht
    exact .base (hW _ List.mem_cons_self)
  | copyOf name | moveOf name =>
    obtain ⟨q, hq, rfl⟩ := h.find ht
    exact .query hq
  | tableOf name =>
    obtain ⟨q, hq, rfl⟩ := h.find ht
    exact .tableOf hq

theorem Holds.resolve_columns {columns : SelectionRef} {cs : Selection} (h : s.Holds P)
    (hW : ∀ i ∈ columns.inputs, W i) (hcs : columns.resolve s.queries = .ok cs) : cs.From W P := by
  cases columns with
  | given columns =>
    cases hcs
    exact .given fun c hc => hW _ (List.mem_map_of_mem hc)
  | columnsOf name =>
    obtain ⟨q, hq, rfl⟩ := h.find hcs
    exact .columnsOf hq

/-- Where columns are found, it was not known that there are none. -/
theorem isNone_of_resolve {columns : SelectionRef} {cs : Selection}
    (hcs : columns.resolve s.queries = .ok cs) (hne : cs.toList ≠ []) : columns.isNone = false := by
  cases columns with
  | given columns =>
    cases hcs
    simpa [SelectionRef.isNone] using hne
  | columnsOf name => rfl

theorem Holds.resolve_relation {relation : RelationRef} {r : Relation} (h : s.Holds P)
    (hr : relation.resolve s.queries = .ok r) : r.From P := by
  cases relation with
  | values vs =>
    cases hr
    trivial
  | query name =>
    obtain ⟨q, hq, rfl⟩ := h.find hr
    exact hq

/-- The arguments of a resolved call come from queries of the session. -/
theorem Holds.resolve_call {name : String} {c : CallRef} {change : Change} (h : s.Holds P)
    (hW : (Step.call name c).Hands W) (hc : c.resolve s.queries = .ok change) :
    change.From W P := by
  cases c with
  | setTable table =>
    obtain ⟨t, ht, hc⟩ := exists_of_bind_ok hc
    cases hc
    exact h.resolve_table hW ht
  | filterIn m column relation =>
    obtain ⟨r, hr, hc⟩ := exists_of_bind_ok hc
    cases hc
    exact ⟨hW _ List.mem_cons_self, h.resolve_relation hr⟩
  | select columns | groupBy columns =>
    obtain ⟨cs, hcs, hc⟩ := exists_of_bind_ok hc
    cases hc
    exact h.resolve_columns hW hcs
  | groupByHaving columns having vs =>
    obtain ⟨cs, hcs, hc⟩ := exists_of_bind_ok hc
    cases hc
    refine ⟨h.resolve_columns (fun i hi => hW i (List.mem_append_left _ hi)) hcs, ?_⟩
    intro hne hhaving
    refine hW _ (List.mem_append_right _ ?_)
    rw [isNone_of_resolve hcs hne, if_neg (by simpa using hhaving)]
    exact List.mem_cons_self
  | orderBy terms =>
    cases hc
    exact fun t ht => hW _ (List.mem_map_of_mem ht)
  | setOption key value =>
    cases hc
    rintro start rfl rfl
    exact hW _ List.mem_cons_self
  | setAliases _ | filter _ _ =>
    cases hc
    exact hW _ List.mem_cons_self
  | _ =>
    cases hc
    trivial

/-! ## Steps that only read -/

theorem queries_answer {name : String} {reply : Query → Reply × Session}
    (h : ∀ q, (reply q).2.queries = s.queries) : (s.answer name reply).2.queries = s.queries := by
  rw [answer]
  split
  · next q _ => exact h q
  · rfl

theorem queries_compare (q other : Query) : (s.compare q other).2.queries = s.queries := by
  unfold compare
  dsimp only
  split <;> rfl

/-- A step that only reads leaves every query as it is. -/
theorem queries_step (s : Session) {step : Step} (h : step.Reads) :
    (s.step step).2.queries = s.queries := by
  cases step with
  | readOption name key =>
    refine queries_answer fun q => ?_
    split <;> rfl
  | quote name identifier => exact queries_answer fun q => rfl
  | look name => exact queries_answer fun q => rfl
  | compile name =>
    refine queries_answer fun q => ?_
    rcases hc : s.compile q with ⟨result, after⟩
    have hq : after.queries = s.queries := by
      rw [← show (s.compile q).2 = after from by rw [hc]]
      rfl
    cases result <;> exact hq
  | compare name other => exact queries_answer fun q => queries_answer fun o => queries_compare q o
  | run name entry executor => exact queries_answer fun q => rfl
  | create | sub | copy | call | draw => cases h

/-! ## Runs -/

theorem Holds.make {name : String} {table : TableRef} {query : Table → Query} (h : s.Holds P)
    (hW : ∀ i ∈ table.inputs, W i) (hq : ∀ t : Table, t.From W P → P (query t)) :
    (s.make name table query).2.Holds P := by
  rw [Session.make]
  split
  · exact h
  · next t ht => exact (h.leave_table table).store name (hq t (h.resolve_table hW ht))

theorem Holds.change {name : String} {c : CallRef} (hP : Query.Closed W P) (h : s.Holds P)
    (hW : (Step.call name c).Hands W) : (s.change name c).2.Holds P := by
  rw [Session.change]
  split
  · exact h
  · next change hc =>
    have hleft : Holds P { s with queries := c.leave s.queries } := h.leave_call c
    rw [answer]
    split
    · next q hget =>
      rcases hr : (change.apply q).run s.draws with ⟨result, draws⟩
      have hleft' : Holds P { queries := c.leave s.queries, draws } := hleft.of_queries rfl
      cases result with
      | error e => exact hleft'
      | ok after =>
        exact hleft'.store name (hP.change (hleft name q hget) (h.resolve_call hW hc) hr)
    · exact hleft

/-- One step: a query of the session after it was there before, is new, or was changed. -/
theorem Holds.step {step : Step} (hP : Query.Closed W P) (h : s.Holds P) (hW : step.Hands W) :
    (s.step step).2.Holds P := by
  cases step with
  | create name a source table =>
    obtain ⟨ha, hsource, htable⟩ : W (.adapter a) ∧ W (.aliases source) ∧ ∀ i ∈ table.inputs, W i := by
      simpa only [Step.Hands, Step.inputs, List.forall_mem_cons] using hW
    exact h.make htable fun t => hP.new ha hsource
  | sub name of table =>
    rw [Session.step, answer]
    split
    · next q hq => exact h.make hW fun t => hP.sub (h of q hq)
    · exact h
  | copy name of =>
    rw [Session.step, answer]
    split
    · next q hq => exact h.store name (h of q hq)
    · exact h
  | call name c => exact h.change hP hW
  | draw source start => exact h.of_queries rfl
  | readOption | quote | look | compile | compare | run => exact h.of_queries (queries_step s trivial)

/-- **What new queries have and changes keep holds of every query of a session.** -/
theorem Holds.run (hP : Query.Closed W P) : ∀ (steps : List Step) {s : Session}, s.Holds P →
    (∀ step ∈ steps, step.Hands W) → (s.run steps).2.Holds P
  | [], _, h, _ => h
  | step :: steps, _, h, hW =>
    Holds.run hP steps (h.step hP (hW step List.mem_cons_self))
      fun other hother => hW other (List.mem_cons_of_mem _ hother)

end Session

/-- A query that some session holds, whatever names were drawn before it began. -/
def Query.Reachable (q : Query) : Prop :=
  ∃ (d : Draws) (steps : List Step) (name : String),
    (Session.run { draws := d } steps).2.queries.get? name = some q

theorem Query.Reachable.of_closed {q : Query} (hP : Closed (fun _ => True) P)
    (hq : q.Reachable) : P q := by
  obtain ⟨d, steps, name, hget⟩ := hq
  exact (Session.holds_empty d).run hP steps (fun _ _ _ _ => trivial) name q hget

/-! ## Levels -/

/-- The selects of a table, from the outermost to the innermost. -/
def Table.levels : Table → List Select
  | .name _ | .raw _ => []
  | .derived inner t => inner :: t.levels

/-- The selects of a query, from its own to the one on a table that is no query. -/
def Query.levels (q : Query) : List Select := q.toSelect :: q.table.levels

theorem BaseTable.levels_toTable (t : BaseTable) : t.toTable.levels = [] := by
  cases t <;> rfl

theorem Table.From.levels {p : Select → Prop} {t : Table}
    (ht : t.From W fun q => ∀ s ∈ q.levels, p s) : ∀ s ∈ t.levels, p s := by
  cases ht with
  | @base b _ =>
    rw [b.levels_toTable]
    intro s hs
    cases hs
  | query h => exact h
  | tableOf h => exact fun s hs => h s (List.mem_cons_of_mem _ hs)

/-! ## Predicates on groups -/

/-- Whether the predicate on the groups, if there is one, is not the empty text. -/
def Select.Proper (s : Select) : Prop :=
  ∀ g having, s.group = some g → g.having = some having → having.text ≠ []

theorem Select.proper_of_group_none {s : Select} (h : s.group = none) : s.Proper := by
  intro g having hg
  rw [h] at hg
  cases hg

theorem Group.having_withHaving {g : Group} {sql : String} {vs : List Value} {having : Fragment}
    (h : (g.withHaving sql vs).having = some having) :
    sql ≠ "" ∧ (⟨sql.toList, vs⟩ : Fragment) = having := by
  unfold withHaving at h
  dsimp only at h
  split at h
  · cases h
  · next hne => exact ⟨hne, Option.some.inj h⟩

/-- New queries are proper at every level, and changes keep them so. -/
theorem Query.closed_proper : Closed W fun q => ∀ s ∈ q.levels, s.Proper where
  new _ _ ht := List.forall_mem_cons.mpr ⟨Select.proper_of_group_none rfl, ht.levels⟩
  sub _ ht := List.forall_mem_cons.mpr ⟨Select.proper_of_group_none rfl, ht.levels⟩
  change := by
    intro q after c d e hq hc h
    obtain ⟨hself, hbelow⟩ := List.forall_mem_cons.mp hq
    have hm := Change.makes_of_apply h
    refine List.forall_mem_cons.mpr ?_
    cases c with
    | setTable t =>
      cases hm
      exact ⟨hself, hc.levels⟩
    | filterIn m column r =>
      obtain ⟨list, -, rfl⟩ := hm
      exact ⟨hself, hbelow⟩
    | orderBy terms =>
      obtain ⟨items, -, rfl⟩ := hm
      exact ⟨hself, hbelow⟩
    | groupBy cs =>
      cases hm
      refine ⟨?_, hbelow⟩
      intro g having hg hh
      cases hg
      cases hh
    | groupByHaving cs having vs =>
      cases hm
      refine ⟨?_, hbelow⟩
      intro g having hg hh
      cases hg
      obtain ⟨hne, rfl⟩ := Group.having_withHaving hh
      exact fun he => hne (String.toList_eq_nil_iff.mp he)
    | reset =>
      cases hm
      exact ⟨Select.proper_of_group_none rfl, hbelow⟩
    | _ =>
      cases hm
      exact ⟨hself, hbelow⟩

/-- **At no level of a reachable query is the predicate on the groups an empty text.** -/
theorem Query.Reachable.proper {q : Query} (hq : q.Reachable) : ∀ s ∈ q.levels, s.Proper :=
  hq.of_closed closed_proper

end SqlSelect
