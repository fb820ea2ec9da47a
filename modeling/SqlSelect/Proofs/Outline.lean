import SqlSelect.Proofs.Congruence
import SqlSelect.Proofs.Reachable

/-!
# Outlines of queries

A query keeps its predicates as pieces of SQL; whether a piece was handed in as it is, lists values
or holds a compiled query is not seen in it. An outline keeps that: it is the tree of all that was
handed in for a query, queries inside derived tables and inside predicates included.

Every query of every session has an outline, and what stands in it was handed in by a step: names
and pieces of SQL in any place, predicates on rows and on groups, rules and prefixes
(`Session.exists_outline`).
-/

namespace SqlSelect

/-- The query after a change; one that is refused leaves it as it was. -/
def Query.after (q : Query) (c : Change) (d : Draws) : Query :=
  match ((c.apply q).run d).1 with
  | .ok after => after
  | .error _ => q

/-- How a query is put together: clauses on a table, and predicates one after another. -/
inductive Outline where
  /-- Clauses on a table that is no query. Predicates among the clauses do not count. -/
  | on (clauses : Select) (table : BaseTable)
  /-- Clauses on a query. -/
  | onQuery (clauses : Select) (inner : Outline)
  /-- One more predicate, handed in as it is. -/
  | filter (o : Outline) (predicate : Fragment)
  /-- One more predicate: a column is, or is not, among values. -/
  | among (o : Outline) (m : Membership) (column : String) (vs : List Value)
  /-- One more predicate: a column is, or is not, among the rows of a query. `d` are the names drawn
  before the query was compiled. -/
  | amongRows (o : Outline) (m : Membership) (column : String) (inner : Outline) (d : Draws)

/-- The query with other predicates. -/
def Query.withPredicates (q : Query) (predicates : List Fragment) : Query := { q with predicates }

/-- Whether all that is handed in for the clauses satisfies `W`, predicates on rows apart. A predicate
on groups counts if it is written, and what the names of derived tables begin with if it is not what
they begin with at first. -/
structure Select.Leaves (W : Input → Prop) (s : Select) : Prop where
  adapter : W (.adapter s.adapter)
  aliases : W (.aliases s.aliases)
  start : ∀ start, s.options.aliasPrefix = .text start → start = "t_" ∨ W (.start start)
  columns : ∀ c ∈ s.columns, W c.input
  groupColumns : ∀ g, s.group = some g → ∀ c ∈ g.columns, W c.input
  having : ∀ g having, s.group = some g → g.columns ≠ [] → g.having = some having →
    W (.predicate having)
  order : ∀ i ∈ s.order, W i.input

namespace Outline

/-- The query that is put together. -/
def query : Outline → Query
  | on s t => { s with predicates := [], table := t.toTable }
  | onQuery s inner => { s with predicates := [], table := inner.query.asTable }
  | filter o predicate => o.query.addPredicate predicate
  | among o m column vs =>
    o.query.addPredicate (m.predicate o.query.adapter column (.placeholders vs))
  | amongRows o m column inner d => o.query.after (.filterIn m column (.query inner.query)) d

/-- Whether all that is handed in satisfies `W`, in derived tables and predicates too. -/
def Leaves (W : Input → Prop) : Outline → Prop
  | on s t => s.Leaves W ∧ W t.input
  | onQuery s inner => s.Leaves W ∧ inner.Leaves W
  | filter o predicate => o.Leaves W ∧ W (.predicate predicate)
  | among o _ column _ => o.Leaves W ∧ W (.name column)
  | amongRows o _ column inner _ => o.Leaves W ∧ W (.name column) ∧ inner.Leaves W

/-- The same predicates on other clauses and another table. -/
def rebase : Outline → Outline → Outline
  | on _ _, base | onQuery _ _, base => base
  | filter o predicate, base => .filter (o.rebase base) predicate
  | among o m column vs, base => .among (o.rebase base) m column vs
  | amongRows o m column inner d, base => .amongRows (o.rebase base) m column inner d

end Outline

variable {W : Input → Prop}

/-! ## Predicates on the rows of a query -/

theorem Query.after_filterIn (q : Query) (m : Membership) (column : String) (r : Relation)
    (d : Draws) :
    q.after (.filterIn m column r) d =
      match (r.fragment.run d).1 with
      | .ok list => q.addPredicate (m.predicate q.adapter column list)
      | .error _ => q := by
  rw [after, Change.apply, filterIn, Drawing.run_bind]
  rcases r.fragment.run d with ⟨result, e⟩
  cases result <;> rfl

theorem Query.adapter_after_filterIn (q : Query) (m : Membership) (column : String) (r : Relation)
    (d : Draws) : (q.after (.filterIn m column r) d).adapter = q.adapter := by
  rw [after_filterIn]
  split <;> rfl

theorem Query.table_after_filterIn (q : Query) (m : Membership) (column : String) (r : Relation)
    (d : Draws) : (q.after (.filterIn m column r) d).table = q.table := by
  rw [after_filterIn]
  split <;> rfl

/-- The name of the column, the operator and the list, with words between them. -/
theorem Membership.predicate_eq (m : Membership) (a : Adapter) (column : String) (list : Fragment) :
    m.predicate a column list
      = .name a column ++ .sql " " ++ .sql m.operator ++ .sql " " ++ list.enclose := by
  ext1 <;> simp [predicate, Fragment.enclose]

section Alike

variable {R : Fragment → Fragment → Prop}

theorem Fragment.Congruence.predicate (hR : Congruence R) (m : Membership) {a a' : Adapter}
    {column column' : String} (hn : R (.name a column) (.name a' column')) {list list' : Fragment}
    (hl : R list list') : R (m.predicate a column list) (m.predicate a' column' list') := by
  rw [Membership.predicate_eq, Membership.predicate_eq]
  have hoperator : R (.sql m.operator) (.sql m.operator) := by
    cases m <;> exact hR.word (by decide)
  exact hR.append (hR.append (hR.append (hR.append hn (hR.word (by decide))) hoperator)
    (hR.word (by decide))) (hR.enclose hl)

/-- Queries inside that are alike both compile or both do not, with the same names drawn; so there is
one more predicate each, or none. -/
theorem Query.Alike.after_filterIn {q q' inner inner' : Query} (hq : q.Alike R q')
    (hR : Fragment.Congruence R) (m : Membership) (hi : inner.Alike R inner') (d : Draws)
    {column column' : String} (hn : R (.name q.adapter column) (.name q'.adapter column')) :
    (q.after (.filterIn m column (.query inner)) d).Alike R
      (q'.after (.filterIn m column' (.query inner')) d) := by
  have hcompile := hi.run_compile hR d
  rw [Query.after_filterIn, Query.after_filterIn, Relation.fragment, Relation.fragment]
  generalize inner.compile.run d = x at hcompile ⊢
  generalize inner'.compile.run d = y at hcompile ⊢
  cases hcompile with
  | ok e hlist => exact hq.addPredicate (hR.predicate m hn hlist)
  | error x e => exact hq

end Alike

/-! ## Other clauses under the same predicates -/

namespace Outline

theorem adapter_amongRows (o : Outline) (m : Membership) (column : String) (inner : Outline)
    (d : Draws) : (amongRows o m column inner d).query.adapter = o.query.adapter :=
  o.query.adapter_after_filterIn m column (.query inner.query) d

theorem leaves_rebase {base : Outline} (hb : base.Leaves W) :
    ∀ {o : Outline}, o.Leaves W → (o.rebase base).Leaves W
  | on _ _, _ | onQuery _ _, _ => hb
  | filter _ _, h | among _ _ _ _, h | amongRows _ _ _ _ _, h => ⟨leaves_rebase hb h.1, h.2⟩

/-- Predicates are written by the adapter, so they stay if the adapter does. -/
theorem query_rebase {base : Outline} (hb : base.query.predicates = []) {o : Outline}
    (ha : base.query.adapter = o.query.adapter) :
    (o.rebase base).query = base.query.withPredicates o.query.predicates := by
  induction o with
  | on s t =>
    show base.query = base.query.withPredicates []
    rw [← hb]
    rfl
  | onQuery s inner _ =>
    show base.query = base.query.withPredicates []
    rw [← hb]
    rfl
  | filter o predicate ih =>
    rw [rebase, query, ih ha]
    rfl
  | among o m column vs ih =>
    have ho : base.query.adapter = o.query.adapter := ha
    rw [rebase, query, ih ho, query, ← ho]
    rfl
  | amongRows o m column inner d ih _ =>
    have ho : base.query.adapter = o.query.adapter := ha.trans (adapter_amongRows o m column inner d)
    have hq : (base.query.withPredicates o.query.predicates).adapter = o.query.adapter := ho
    rw [rebase, query, ih ho, query, Query.after_filterIn, Query.after_filterIn, hq]
    split <;> rfl

end Outline

/-! ## Clauses of outlines -/

namespace Select.Leaves

variable {s : Select}

/-- Whether it is set or not, what the names of derived tables begin with satisfies `W` if what they
begin with at first does. -/
theorem start_of_getText (h : s.Leaves W) (hfirst : W (.start "t_")) {start : String}
    (hstart : s.options.getText aliasPrefixKey = .ok start) : W (.start start) := by
  rcases h.start start (Options.aliasPrefix_of_getText hstart) with rfl | hset
  · exact hfirst
  · exact hset

/-- No predicates on rows take part. -/
theorem withPredicates (h : s.Leaves W) (predicates : List Fragment) :
    Select.Leaves W { s with predicates } := { h with }

/-- Without clauses there are only the rules and the options. -/
theorem cleared (h : s.Leaves W) (processor : Option (Record → Record)) : Select.Leaves W
    { adapter := s.adapter, aliases := s.aliases, options := s.options, processor } :=
  { h with
    columns := List.forall_mem_nil _
    groupColumns := nofun
    having := nofun
    order := List.forall_mem_nil _ }

end Select.Leaves

namespace Outline

/-- The clauses of a query are those at the bottom of its outline, but for the predicates. -/
theorem Leaves.select : ∀ {o : Outline}, o.Leaves W → o.query.toSelect.Leaves W
  | on _ _, h | onQuery _ _, h => h.1.withPredicates []
  | filter _ _, h | among _ _ _ _, h => (Leaves.select h.1).withPredicates _
  | amongRows o m column inner d, h => by
    rw [query, Query.after_filterIn]
    split
    · exact (Leaves.select h.1).withPredicates _
    · exact Leaves.select h.1

theorem Leaves.mono {W' : Input → Prop} (hW : ∀ i, W i → W' i) {o : Outline} (h : o.Leaves W) :
    o.Leaves W' := by
  have hselect : ∀ {s : Select}, s.Leaves W → s.Leaves W' := fun h => {
    adapter := hW _ h.adapter
    aliases := hW _ h.aliases
    start := fun start hs => (h.start start hs).imp_right (hW _)
    columns := fun c hc => hW _ (h.columns c hc)
    groupColumns := fun g hg c hc => hW _ (h.groupColumns g hg c hc)
    having := fun g having hg hc hh => hW _ (h.having g having hg hc hh)
    order := fun i hi => hW _ (h.order i hi) }
  induction o with
  | on s t => exact ⟨hselect h.1, hW _ h.2⟩
  | onQuery s inner ih => exact ⟨hselect h.1, ih h.2⟩
  | filter o predicate ih => exact ⟨ih h.1, hW _ h.2⟩
  | among o m column vs ih => exact ⟨ih h.1, hW _ h.2⟩
  | amongRows o m column inner d ih ihinner => exact ⟨ih h.1, hW _ h.2.1, ihinner h.2.2⟩

end Outline

/-! ## Every query has an outline -/

/-- A query with an outline whose leaves satisfy `W`. -/
def Query.Outlined (W : Input → Prop) (q : Query) : Prop :=
  ∃ o : Outline, o.Leaves W ∧ o.query = q

namespace Query.Outlined

theorem select {q : Query} (h : q.Outlined W) : q.toSelect.Leaves W := by
  obtain ⟨o, ho, rfl⟩ := h
  exact ho.select

theorem onTableOf {s : Select} (hs : s.Leaves W) : ∀ {o : Outline}, o.Leaves W →
    Outlined W { s with predicates := [], table := o.query.table }
  | .on _ t, h => ⟨.on s t, ⟨hs, h.2⟩, rfl⟩
  | .onQuery _ inner, h => ⟨.onQuery s inner, ⟨hs, h.2⟩, rfl⟩
  | .filter o _, h | .among o _ _ _, h => onTableOf hs (o := o) h.1
  | .amongRows o m column inner d, h => by
    rw [Outline.query, table_after_filterIn]
    exact onTableOf hs h.1

theorem onTable {t : Table} (ht : t.From W (Outlined W)) {s : Select} (hs : s.Leaves W) :
    Outlined W { s with predicates := [], table := t } := by
  cases ht with
  | @base b h => exact ⟨.on s b, ⟨hs, h⟩, rfl⟩
  | query h =>
    obtain ⟨o, ho, rfl⟩ := h
    exact ⟨.onQuery s o, ⟨hs, ho⟩, rfl⟩
  | tableOf h =>
    obtain ⟨o, ho, rfl⟩ := h
    exact onTableOf hs ho

/-- Whatever else changes: with the adapter and the predicates of before there is an outline. -/
theorem recast {q after : Query} (h : q.Outlined W) (hs : after.toSelect.Leaves W)
    (ht : after.table.From W (Outlined W)) (ha : after.adapter = q.adapter)
    (hp : after.predicates = q.predicates) : after.Outlined W := by
  obtain ⟨o, ho, rfl⟩ := h
  -- The clauses of after the change go below the predicates of before.
  obtain ⟨base, hbase, hquery⟩ := onTable ht hs
  refine ⟨o.rebase base, Outline.leaves_rebase hbase ho, ?_⟩
  rw [Outline.query_rebase (by rw [hquery]) (by rw [hquery]; exact ha), hquery, ← hp]
  rfl

end Query.Outlined

theorem Selection.From.leaves {columns : Selection} (h : columns.From W (Query.Outlined W)) :
    ∀ c ∈ columns.toList, W c.input := by
  cases h with
  | given h => exact h
  | columnsOf h => exact h.select.columns

/-- New queries have outlines, and each change has its counterpart in the outline. -/
theorem Query.closed_outlined : Closed W (Outlined W) where
  new {a source t} ha hsource ht := by
    refine Outlined.onTable (s := .mk a source {} [] [] none [] 0 0 none) ht ?_
    refine ⟨ha, hsource, ?_, List.forall_mem_nil _, nofun, nofun, List.forall_mem_nil _⟩
    rintro _ ⟨⟩
    exact .inl rfl
  sub h ht := Outlined.onTable ht (h.select.cleared none)
  change := by
    intro q after c d e h hc hrun
    have hm := Change.makes_of_apply hrun
    have htable : q.table.From W (Outlined W) := .tableOf h
    have hs := h.select
    cases c with
    | setTable t =>
      cases hm
      exact h.recast hs hc rfl rfl
    | setAliases source =>
      cases hm
      exact h.recast { hs with aliases := hc } htable rfl rfl
    | select columns =>
      cases hm
      exact h.recast { hs with columns := hc.leaves } htable rfl rfl
    | filter sql vs =>
      cases hm
      obtain ⟨o, ho, rfl⟩ := h
      exact ⟨.filter o ⟨sql.toList, vs.toList⟩, ⟨ho, hc⟩, rfl⟩
    | filterIn m column r =>
      obtain ⟨o, ho, rfl⟩ := h
      obtain ⟨list, hlist, rfl⟩ := hm
      cases r with
      | values vs =>
        cases hlist
        exact ⟨.among o m column vs.toList, ⟨ho, hc.1⟩, rfl⟩
      | query inner =>
        obtain ⟨hcolumn, i, hi, rfl⟩ := hc
        refine ⟨.amongRows o m column i d, ⟨ho, hcolumn, hi⟩, ?_⟩
        rw [Outline.query, after_filterIn, hlist]
    | groupBy columns =>
      cases hm
      refine h.recast { hs with groupColumns := ?_, having := ?_ } htable rfl rfl
      · rintro _ ⟨⟩
        exact hc.leaves
      · rintro _ _ ⟨⟩ _ ⟨⟩
    | groupByHaving columns having vs =>
      cases hm
      refine h.recast { hs with groupColumns := ?_, having := ?_ } htable rfl rfl
      · rintro _ ⟨⟩
        exact hc.1.leaves
      · rintro _ predicate ⟨⟩ hne hh
        obtain ⟨hempty, rfl⟩ := Group.having_withHaving hh
        exact hc.2 hne hempty
    | orderBy terms =>
      obtain ⟨items, hitems, rfl⟩ := hm
      refine h.recast { hs with order := ?_ } htable rfl rfl
      rw [← List.forall_mem_map, Term.inputs_of_resolveAll hitems, List.forall_mem_map]
      exact hc
    | setOption key value =>
      cases hm
      refine h.recast { hs with start := ?_ } htable rfl rfl
      intro start hstart
      rw [Query.setOption, Options.aliasPrefix_set] at hstart
      split at hstart
      · next hkey => exact .inr (hc start hkey hstart)
      · exact hs.start start hstart
    | reset =>
      cases hm
      exact Outlined.onTable (.tableOf h) (hs.cleared q.processor)
    | setLimit | setOffset | paginate | setProcessor =>
      cases hm
      exact h.recast { hs with } htable rfl rfl

/-- **Every query of a session has an outline, whose leaves were handed in by its steps.** -/
theorem Session.exists_outline {d : Draws} {steps : List Step} {name : String} {q : Query}
    (hq : (Session.run { draws := d } steps).2.queries.get? name = some q) :
    ∃ o : Outline, o.Leaves (Step.HandedIn steps) ∧ o.query = q :=
  (holds_empty d).run Query.closed_outlined steps Step.hands_handedIn name q hq

end SqlSelect
