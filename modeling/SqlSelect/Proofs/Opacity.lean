import SqlSelect.Proofs.Congruence
import SqlSelect.Proofs.Running

/-!
# Values are never looked at

Put every value that steps hand in through a function `f`. Then the whole session goes through `f`
and does nothing else differently: each step succeeds or fails as before and with the same error,
every text is the same to the character, the same names are drawn, and the values of each statement
are those of before through `f`, in the same order (`run_mapValues`).

Two things answer differently, because they look at values on purpose. Whether two statements are
equal depends on their values. And what an executor answers may depend on the statement it gets; but
it gets the same text, and it gets one exactly when it got one before.

## How

Through `f` a query keeps its clauses, and its pieces keep their texts. Being the piece of before
through `f` survives writing, so compiling falls under `Query.Alike.run_compile`.
-/

namespace SqlSelect

/-! ## Values through a function -/

variable (f : Value → Value)

/-- The same text, every value through `f`. -/
def Fragment.mapValues (a : Fragment) : Fragment := { a with values := a.values.map f }

/-- The same columns, the values of the predicate through `f`. -/
def Group.mapValues (g : Group) : Group :=
  { g with having := g.having.map (Fragment.mapValues f) }

/-- The same clauses, every value in them through `f`. -/
def Select.mapValues (s : Select) : Select :=
  { s with
    predicates := s.predicates.map (Fragment.mapValues f)
    group := s.group.map (Group.mapValues f) }

/-- The same table, the values of every level through `f`. -/
def Table.mapValues : Table → Table
  | .name n => .name n
  | .raw sql => .raw sql
  | .derived inner t => .derived (inner.mapValues f) t.mapValues

/-- The same query, the values of every level through `f`. -/
def Query.mapValues (q : Query) : Query :=
  { q.toSelect.mapValues f with table := q.table.mapValues f }

/-- The same relation, its values through `f`. -/
def Relation.mapValues : Relation → Relation
  | .values vs => .values (vs.map f)
  | .query q => .query (q.mapValues f)

/-- The relation of a step with its values through `f`; a query is named and stays so. -/
def RelationRef.mapValues : RelationRef → RelationRef
  | .values vs => .values (vs.map f)
  | .query name => .query name

/-- The same call, every value it hands in through `f`. -/
def Call.mapValues {τ κ ρ : Type} (table : τ → τ) (relation : ρ → ρ) : Call τ κ ρ → Call τ κ ρ
  | .setTable t => .setTable (table t)
  | .filter sql vs => .filter sql (vs.map f)
  | .filterIn m column r => .filterIn m column (relation r)
  | .groupByHaving cs having vs => .groupByHaving cs having (vs.map f)
  | c => c

/-- The same change, every value in it through `f`. -/
def Change.mapValues : Change → Change :=
  Call.mapValues f (Table.mapValues f) (Relation.mapValues f)

/-- The same step, every value it hands in through `f`. -/
def Step.mapValues : Step → Step
  | .call name c => .call name (c.mapValues f id (RelationRef.mapValues f))
  | step => step

/-- The same queries under the same names, their values through `f`. -/
def Session.mapValues (s : Session) : Session :=
  { s with queries := s.queries.map (Query.mapValues f) }

/-- Replies to the same step, the second with every value through `f`. -/
inductive Reply.Mapped : Reply → Reply → Prop
  | query (q : Query) : Mapped (.query q) (.query (q.mapValues f))
  | drawn (name : String) : Mapped (.drawn name) (.drawn name)
  | option (value : OptionValue) : Mapped (.option value) (.option value)
  | quoted (text : List Char) : Mapped (.quoted text) (.quoted text)
  | statement (s : Fragment) : Mapped (.statement s) (.statement (s.mapValues f))
  /-- Whether statements are equal depends on their values. -/
  | equal (b b' : Bool) : Mapped (.equal b) (.equal b')
  /-- The executor gets the same texts. Where it gets none, the run fails in the same way. -/
  | ran (result result' : Except Error Outcome) (sent : List Fragment) (after : Query)
      (h : sent = [] → result' = result) :
      Mapped (.ran result sent after)
        (.ran result' (sent.map (Fragment.mapValues f)) (after.mapValues f))
  | error (e : Error) : Mapped (.error e) (.error e)
  | unknown (name : String) : Mapped (.unknown name) (.unknown name)

variable {f}

/-! ## Compiling -/

theorem congruence_mapValues :
    Fragment.Congruence fun a b : Fragment => b = a.mapValues f where
  word _ := rfl
  enclose := by
    rintro a _ rfl
    ext1 <;> simp [Fragment.mapValues, Fragment.enclose]
  append := by
    rintro a _ b _ rfl rfl
    ext1 <;> simp [Fragment.mapValues]

theorem forall₂_mapValues (as : List Fragment) :
    List.Forall₂ (fun a b => b = a.mapValues f) as (as.map (Fragment.mapValues f)) := by
  rw [List.forall₂_map_right_iff]
  exact List.forall₂_same.mpr fun a _ => rfl

theorem Column.mapValues_fragment (a : Adapter) (c : Column) :
    (c.fragment a).mapValues f = c.fragment a := by
  cases c <;> rfl

theorem OrderItem.mapValues_fragment (a : Adapter) (i : OrderItem) :
    (i.fragment a).mapValues f = i.fragment a := by
  cases i with
  | raw sql => rfl
  | column n direction => cases direction <;> rfl

theorem Group.alike_mapValues (a : Adapter) (g : Group) :
    g.Alike (fun a b => b = a.mapValues f) a a (g.mapValues f) where
  columns := forall₂_map_self fun c _ => (c.mapValues_fragment a).symm
  having_isSome := Option.isSome_map
  having _ := by
    rw [mapValues]
    cases g.having with
    | none => exact .none
    | some having => exact .some rfl

theorem Select.alike_mapValues (s : Select) :
    s.Alike (fun a b => b = a.mapValues f) (s.mapValues f) where
  columns := forall₂_map_self fun c _ => (c.mapValues_fragment s.adapter).symm
  predicates := forall₂_mapValues s.predicates
  group := by
    rw [mapValues]
    cases s.group with
    | none => exact .none
    | some g => exact .some (g.alike_mapValues s.adapter)
  order := forall₂_map_self fun i _ => (i.mapValues_fragment s.adapter).symm
  limit := rfl
  offset := rfl
  options := rfl
  aliases := rfl

theorem Select.alikeOn_mapValues (s : Select) (t : Table) :
    s.AlikeOn (fun a b => b = a.mapValues f) t (s.mapValues f) (t.mapValues f) := by
  induction t generalizing s with
  | name n => exact .name s.alike_mapValues rfl
  | raw sql => exact .raw s.alike_mapValues rfl
  | derived inner t ih => exact .derived s.alike_mapValues (fun _ _ _ => rfl) (ih inner)

/-- **A query with its values through `f` compiles to the statement with its values through `f`.** -/
theorem Query.run_compile_mapValues (q : Query) (d : Draws) :
    (q.mapValues f).compile.run d
      = ((q.compile.run d).1.map (Fragment.mapValues f), (q.compile.run d).2) := by
  have h : Query.Alike (fun a b => b = a.mapValues f) q (q.mapValues f) :=
    q.toSelect.alikeOn_mapValues q.table
  have hrun := h.run_compile congruence_mapValues d
  generalize q.compile.run d = x at hrun ⊢
  generalize (q.mapValues f).compile.run d = y at hrun ⊢
  cases hrun with
  | ok d h => rw [h]; rfl
  | error e d => rfl

/-! ## Changing -/

theorem Relation.run_fragment_mapValues (r : Relation) (d : Draws) :
    (r.mapValues f).fragment.run d
      = ((r.fragment.run d).1.map (Fragment.mapValues f), (r.fragment.run d).2) := by
  cases r with
  | query q => exact q.run_compile_mapValues d
  | values vs =>
    have hp : ∀ ws : List Value,
        Fragment.placeholders (ws.map f) = (Fragment.placeholders ws).mapValues f := by
      intro ws
      ext1
      · simp [Fragment.placeholders, Fragment.placeholder, Fragment.mapValues, Function.comp_def]
      · simp [Fragment.mapValues]
    show (Except.ok (Fragment.placeholders (vs.map f).toList), d) = _
    rw [Items.toList_map, hp]
    rfl

theorem Query.addPredicate_mapValues (q : Query) (predicate : Fragment) :
    (q.mapValues f).addPredicate (predicate.mapValues f)
      = (q.addPredicate predicate).mapValues f := by
  simp [addPredicate, mapValues, Select.mapValues]

theorem Group.withHaving_mapValues (g : Group) (having : String) (vs : Items Value) :
    g.withHaving having (vs.map f).toList = (g.withHaving having vs.toList).mapValues f := by
  unfold withHaving mapValues
  rw [Items.toList_map]
  split <;> rfl

/-- A change with its values through `f` is refused alike, or gives the query through `f`. -/
theorem Change.run_apply_mapValues (c : Change) (q : Query) (d : Draws) :
    ((Change.mapValues f c).apply (q.mapValues f)).run d
      = (((c.apply q).run d).1.map (Query.mapValues f), ((c.apply q).run d).2) := by
  cases c with
  | filter sql vs =>
    have h := q.addPredicate_mapValues (f := f) ⟨sql.toList, vs.toList⟩
    rw [Fragment.mapValues, ← Items.toList_map] at h
    show (Except.ok ((q.mapValues f).filter sql (vs.map f)), d) = _
    rw [Query.filter, h]
    rfl
  | filterIn m column r =>
    show ((q.mapValues f).filterIn m column (r.mapValues f)).run d
      = (((q.filterIn m column r).run d).1.map _, ((q.filterIn m column r).run d).2)
    rw [Query.filterIn, Query.filterIn, Drawing.run_bind, Drawing.run_bind,
      r.run_fragment_mapValues]
    rcases r.fragment.run d with ⟨result, d⟩
    cases result with
    | error e => rfl
    | ok list =>
      have hm : m.predicate q.adapter column (list.mapValues f)
          = (m.predicate q.adapter column list).mapValues f := by
        ext1 <;> simp [Membership.predicate, Fragment.mapValues]
      show (Except.ok ((q.mapValues f).addPredicate
        (m.predicate q.adapter column (list.mapValues f))), d) = _
      rw [hm, q.addPredicate_mapValues]
      rfl
  | groupByHaving cs having vs =>
    show (Except.ok ((q.mapValues f).groupByHaving cs having (vs.map f)), d) = _
    rw [Query.groupByHaving, Group.withHaving_mapValues]
    rfl
  | orderBy terms =>
    show ((q.mapValues f).orderBy terms, d) = ((q.orderBy terms).map _, d)
    rw [Query.orderBy, Query.orderBy]
    cases Term.resolveAll terms.toList <;> rfl
  | _ => rfl

/-! ## Looking up arguments -/

theorem findQuery_map (g : Query → Query) (queries : OrderedMap Query) (name : String) :
    findQuery (queries.map g) name = (findQuery queries name).map g := by
  unfold findQuery
  rw [OrderedMap.get?_map]
  cases queries.get? name <;> rfl

/-- Where queries go through `g`, the tables that they are and that they have go through `h`. -/
theorem TableRef.resolve_map {g : Query → Query} {h : Table → Table}
    (hbase : ∀ b : BaseTable, h b.toTable = b.toTable) (hquery : ∀ q, (g q).asTable = h q.asTable)
    (htable : ∀ q, (g q).table = h q.table) (queries : OrderedMap Query) (table : TableRef) :
    table.resolve (queries.map g) = (table.resolve queries).map h := by
  cases table with
  | given base => exact congrArg Except.ok (hbase base).symm
  | copyOf name | moveOf name | tableOf name =>
    rw [resolve, resolve, findQuery_map]
    cases findQuery queries name with
    | error missing => rfl
    | ok q => first | exact congrArg Except.ok (hquery q) | exact congrArg Except.ok (htable q)

theorem TableRef.resolve_mapValues (queries : OrderedMap Query) (table : TableRef) :
    table.resolve (queries.map (Query.mapValues f))
      = (table.resolve queries).map (Table.mapValues f) :=
  resolve_map (fun base => by cases base <;> rfl) (fun _ => rfl) (fun _ => rfl) queries table

theorem SelectionRef.resolve_map {g : Query → Query} (h : ∀ q, (g q).columns = q.columns)
    (queries : OrderedMap Query) (columns : SelectionRef) :
    columns.resolve (queries.map g) = columns.resolve queries := by
  cases columns with
  | given cs => rfl
  | columnsOf name =>
    rw [resolve, resolve, findQuery_map]
    cases findQuery queries name with
    | error missing => rfl
    | ok q => exact congrArg (fun cs => Except.ok (Selection.columns (.many cs))) (h q)

theorem RelationRef.resolve_mapValues (queries : OrderedMap Query) (relation : RelationRef) :
    (relation.mapValues f).resolve (queries.map (Query.mapValues f))
      = (relation.resolve queries).map (Relation.mapValues f) := by
  cases relation with
  | values vs => rfl
  | query name =>
    rw [mapValues, resolve, resolve, findQuery_map]
    cases findQuery queries name <;> rfl

theorem CallRef.resolve_mapValues (queries : OrderedMap Query) (c : CallRef) :
    CallRef.resolve (queries.map (Query.mapValues f)) (c.mapValues f id (RelationRef.mapValues f))
      = (c.resolve queries).map (Change.mapValues f) := by
  unfold resolve
  cases c with
  | setTable table =>
    rw [Call.mapValues, Call.traverse, Call.traverse, id, TableRef.resolve_mapValues]
    cases table.resolve queries <;> rfl
  | filterIn m column relation =>
    rw [Call.mapValues, Call.traverse, Call.traverse, RelationRef.resolve_mapValues]
    cases relation.resolve queries <;> rfl
  | select columns | groupBy columns | groupByHaving columns having vs =>
    dsimp only [Call.mapValues]
    rw [Call.traverse, Call.traverse,
      SelectionRef.resolve_map (g := Query.mapValues f) fun _ => rfl]
    cases columns.resolve queries <;> rfl
  | _ => rfl

theorem TableRef.leave_map (g : Query → Query) (queries : OrderedMap Query) (table : TableRef) :
    table.leave (queries.map g) = (table.leave queries).map g := by
  cases table with
  | moveOf name => exact (OrderedMap.map_erase _ queries name).symm
  | _ => rfl

theorem CallRef.leave_map (g : Query → Query) (queries : OrderedMap Query) (c : CallRef) :
    c.leave (queries.map g) = (c.leave queries).map g := by
  cases c with
  | setTable table => exact TableRef.leave_map g queries table
  | _ => rfl

theorem CallRef.leave_mapValues (queries : OrderedMap Query) (c : CallRef) :
    CallRef.leave queries (c.mapValues f id (RelationRef.mapValues f)) = c.leave queries := by
  cases c <;> rfl

/-! ## Steps -/

namespace Session

/-- A reply and the session after it, and both with every value through `f`. -/
def Mapped (f : Value → Value) (x y : Reply × Session) : Prop :=
  x.1.Mapped f y.1 ∧ y.2 = x.2.mapValues f

theorem store_mapValues (s : Session) (name : String) (q : Query) :
    (s.mapValues f).store name (q.mapValues f) = (s.store name q).mapValues f :=
  congrArg (fun queries => { s with queries })
    (OrderedMap.map_insert (Query.mapValues f) s.queries name q).symm

theorem mapped_answer {s : Session} {name : String} {reply reply' : Query → Reply × Session}
    (h : ∀ q, Mapped f (reply q) (reply' (q.mapValues f))) :
    Mapped f (s.answer name reply) ((s.mapValues f).answer name reply') := by
  rw [answer, answer, mapValues, OrderedMap.get?_map]
  cases s.queries.get? name with
  | none => exact ⟨.unknown name, rfl⟩
  | some q => exact h q

theorem mapped_make {s : Session} (name : String) (table : TableRef) {query query' : Table → Query}
    (h : ∀ t, query' (t.mapValues f) = (query t).mapValues f) :
    Mapped f (s.make name table query) ((s.mapValues f).make name table query') := by
  rw [make, make, mapValues, TableRef.resolve_mapValues]
  cases table.resolve s.queries with
  | error missing => exact ⟨.unknown missing, rfl⟩
  | ok t =>
    constructor
    · show Reply.Mapped f (.query (query t)) (.query (query' (t.mapValues f)))
      rw [h]
      exact .query _
    · show Session.store _ name (query' (t.mapValues f)) = _
      rw [h, TableRef.leave_map]
      exact store_mapValues { s with queries := table.leave s.queries } name (query t)

theorem mapped_change {s : Session} (name : String) (c : CallRef) :
    Mapped f (s.change name c)
      ((s.mapValues f).change name (c.mapValues f id (RelationRef.mapValues f))) := by
  rw [change, change, mapValues, CallRef.resolve_mapValues, CallRef.leave_mapValues,
    CallRef.leave_map]
  cases c.resolve s.queries with
  | error missing => exact ⟨.unknown missing, rfl⟩
  | ok change =>
    refine mapped_answer (s := { s with queries := c.leave s.queries }) fun q => ?_
    dsimp only [mapValues]
    rw [Change.run_apply_mapValues]
    rcases (change.apply q).run s.draws with ⟨result, draws⟩
    cases result with
    | error e => exact ⟨.error e, rfl⟩
    | ok after =>
      exact ⟨.query after,
        store_mapValues { queries := c.leave s.queries, draws } name after⟩

theorem compile_mapValues (s : Session) (q : Query) :
    (s.mapValues f).compile (q.mapValues f)
      = ((s.compile q).1.map (Fragment.mapValues f), (s.compile q).2.mapValues f) := by
  rw [compile, compile, mapValues, q.run_compile_mapValues]
  rfl

theorem mapped_compare (s : Session) (q other : Query) :
    Mapped f (s.compare q other) ((s.mapValues f).compare (q.mapValues f) (other.mapValues f)) := by
  unfold compare
  simp only [compile_mapValues]
  rcases s.compile q with ⟨first, s⟩
  rcases s.compile other with ⟨second, s⟩
  cases first with
  | error e => exact ⟨.error e, rfl⟩
  | ok a =>
    cases second with
    | error e => exact ⟨.error e, rfl⟩
    | ok b => exact ⟨.equal _ _, rfl⟩

theorem mapped_execute (s : Session) (q : Query) (entry : Entry) (executor : Executor) :
    Mapped f (s.execute q entry executor)
      ((s.mapValues f).execute (q.mapValues f) entry executor) := by
  have hsends : entry.sends (q.mapValues f) = (entry.sends q).mapValues f := by
    cases entry <;> rfl
  have hdraws : (s.mapValues f).draws = s.draws := rfl
  rw [execute_eq, execute_eq, hsends, hdraws, Query.run_compile_mapValues]
  rcases (entry.sends q).compile.run s.draws with ⟨result, draws⟩
  cases result with
  | error e => exact ⟨.ran _ _ [] q fun _ => rfl, rfl⟩
  | ok statement => exact ⟨.ran _ _ [statement] q (fun h => by cases h), rfl⟩

/-- One step with its values through `f`, from a session with its values through `f`. -/
theorem mapped_step (s : Session) (step : Step) :
    Mapped f (s.step step) ((s.mapValues f).step (step.mapValues f)) := by
  cases step with
  | create name a source table => exact mapped_make name table fun t => rfl
  | sub name of table => exact mapped_answer fun q => mapped_make name table fun t => rfl
  | copy name of => exact mapped_answer fun q => ⟨.query q, store_mapValues s name q⟩
  | call name c => exact mapped_change name c
  | draw source start => exact ⟨.drawn _, rfl⟩
  | readOption name key =>
    refine mapped_answer fun q => ?_
    rw [show (q.mapValues f).options = q.options from rfl]
    cases q.options.get key with
    | ok value => exact ⟨.option value, rfl⟩
    | error e => exact ⟨.error e, rfl⟩
  | quote name identifier => exact mapped_answer fun q => ⟨.quoted _, rfl⟩
  | look name => exact mapped_answer fun q => ⟨.query q, rfl⟩
  | compile name =>
    refine mapped_answer fun q => ?_
    rw [compile_mapValues]
    rcases s.compile q with ⟨result, s⟩
    cases result with
    | ok statement => exact ⟨.statement statement, rfl⟩
    | error e => exact ⟨.error e, rfl⟩
  | compare name other =>
    exact mapped_answer fun q => mapped_answer fun o => mapped_compare s q o
  | run name entry executor => exact mapped_answer fun q => mapped_execute s q entry executor

/--
**Values are never looked at.** Whatever the steps, the queries and the names drawn before: with
every value through `f` each reply is the reply of before with its values through `f`, and so is the
session in the end, the names drawn by then included.
-/
theorem run_mapValues (f : Value → Value) : ∀ (steps : List Step) (s : Session),
    List.Forall₂ (Reply.Mapped f) (s.run steps).1
        ((s.mapValues f).run (steps.map (Step.mapValues f))).1 ∧
      ((s.mapValues f).run (steps.map (Step.mapValues f))).2 = (s.run steps).2.mapValues f
  | [], _ => ⟨.nil, rfl⟩
  | step :: steps, s => by
    obtain ⟨hreply, hsession⟩ := s.mapped_step (f := f) step
    obtain ⟨hreplies, hlast⟩ := run_mapValues f steps (s.step step).2
    rw [← hsession] at hreplies hlast
    exact ⟨.cons hreply hreplies, hlast⟩

end Session

end SqlSelect
