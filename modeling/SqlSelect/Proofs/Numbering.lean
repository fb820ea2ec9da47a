import Mathlib.Data.List.Forall2
import SqlSelect.Proofs.Failure
import SqlSelect.Proofs.Running

/-!
# Who draws which number

A source answers its requests with the numbers one, two, three and so on, so the numbers that are
handed out follow from the order of the requests. Here is said what that order is. What a query asks
for depends on its levels alone (`Query.asks`): one request for each derived table, from the inside
outwards, up to the first level that cannot ask; nothing at all if some level is refused on the way
in. What a step asks for (`Step.asks`) is what is compiled in it: a predicate on the rows of a query
asks when it is made, and a count asks once more for the query around.

With that, every session draws what its steps ask for, one step after another, each source hands out
consecutive numbers, and the names in a statement are spelled with the numbers that answer its
requests (`Session.numbers_drawn`).
-/

namespace SqlSelect

variable {d : Draws}

/-! ## Requests one after another -/

namespace Draws

/-- More requests. -/
def addAll (d : Draws) (requests : List Request) : Draws := ⟨d.requests ++ requests⟩

@[simp] theorem addAll_nil (d : Draws) : d.addAll [] = d := by
  rw [addAll, List.append_nil]

@[simp] theorem addAll_addAll (d : Draws) (requests more : List Request) :
    (d.addAll requests).addAll more = d.addAll (requests ++ more) := by
  rw [addAll, addAll, addAll, List.append_assoc]

theorem addAll_singleton (d : Draws) (request : Request) : d.addAll [request] = d.add request := rfl

theorem addAll_cons (d : Draws) (request : Request) (requests : List Request) :
    d.addAll (request :: requests) = (d.add request).addAll requests := by
  rw [← addAll_singleton, addAll_addAll, List.singleton_append]

/-- Requests, made one after another, with the numbers that answer them. -/
def numbered : Draws → List Request → List (Request × Nat)
  | _, [] => []
  | d, request :: requests =>
    (request, d.count request.source + 1) :: (d.add request).numbered requests

theorem numbered_append (d : Draws) (requests more : List Request) :
    d.numbered (requests ++ more) = d.numbered requests ++ (d.addAll requests).numbered more := by
  induction requests generalizing d with
  | nil => rw [List.nil_append, numbered, addAll_nil, List.nil_append]
  | cons request requests ih =>
    rw [List.cons_append, numbered, numbered, ih, List.cons_append, addAll_cons]

theorem length_numbered (d : Draws) (requests : List Request) :
    (d.numbered requests).length = requests.length := by
  induction requests generalizing d with
  | nil => rfl
  | cons request requests ih => rw [numbered, List.length_cons, List.length_cons, ih]

/-- The numbers by which a source answers the requests that go to it. -/
def numbersOf (d : Draws) (source : String) (requests : List Request) : List Nat :=
  ((d.numbered requests).filter fun x => x.1.source == source).map Prod.snd

/-- **The numbers of a source follow each other without a gap.** -/
theorem numbersOf_eq_range' (d : Draws) (source : String) (requests : List Request) :
    d.numbersOf source requests = List.range' (d.count source + 1)
      (requests.countP fun request => request.source == source) := by
  induction requests generalizing d with
  | nil => rfl
  | cons request requests ih =>
    have hcount := d.count_add request source
    have hrest := ih (d.add request)
    rw [numbersOf] at hrest ⊢
    rw [numbered]
    by_cases h : request.source = source
    · rw [if_pos h] at hcount
      rw [hcount] at hrest
      simp only [h, beq_self_eq_true, List.filter_cons_of_pos, List.map_cons, hrest,
        List.countP_cons_of_pos, List.range'_succ]
    · rw [if_neg h] at hcount
      rw [hcount] at hrest
      have hne : (request.source == source) = false := by simpa using h
      rw [List.filter_cons_of_neg (by simpa using h), List.countP_cons_of_neg (by simpa using h)]
      exact hrest

/-- If all requests go to one source, these are all the numbers there are. -/
theorem snd_numbered_eq_range' {source : String} {requests : List Request}
    (h : ∀ request ∈ requests, request.source = source) (d : Draws) :
    (d.numbered requests).map Prod.snd = List.range' (d.count source + 1) requests.length := by
  have hfst : ∀ x ∈ d.numbered requests, x.1 ∈ requests := by
    induction requests generalizing d with
    | nil => simp [numbered]
    | cons request requests ih =>
      simp only [numbered, List.forall_mem_cons]
      refine ⟨List.mem_cons_self, ?_⟩
      intro x hx
      exact List.mem_cons_of_mem _ (ih (fun r hr => h r (List.mem_cons_of_mem _ hr)) _ x hx)
  have hall := d.numbersOf_eq_range' source requests
  rw [numbersOf, List.filter_eq_self.mpr (by simpa using fun x n hx => h x (hfst _ hx)),
    List.countP_eq_length.mpr (by simpa using h)] at hall
  exact hall

end Draws

/-! ## What a chain of selects asks for -/

namespace Select

/-- Whether a select is not refused. -/
def passes (s : Select) : Bool := s.checkHaving.isOk

/-- The request for the name of the table of a select, if it has a text to begin with. -/
def request? (s : Select) : Option Request :=
  match s.options.aliasPrefix with
  | .text start => some ⟨s.aliases.name, start⟩
  | .bool _ | .int _ => none

/-- The requests of selects in their order, up to the first that cannot ask. -/
def requests : List Select → List Request
  | [] => []
  | s :: rest =>
    match s.request? with
    | some request => request :: requests rest
    | none => []

/-- What a chain of selects asks for, the outermost given first. -/
def chainAsks (levels : List Select) : List Request :=
  if levels.all passes then requests levels.dropLast.reverse else []

/-- Whether a chain of selects compiles. -/
def chainCompiles (levels : List Select) : Bool :=
  levels.all passes && levels.dropLast.all fun s => s.request?.isSome

theorem request?_eq_some_iff {s : Select} {request : Request} :
    s.request? = some request ↔ s.Asks request := by
  obtain ⟨source, start⟩ := request
  have hget : s.options.get? aliasPrefixKey = some s.options.aliasPrefix := rfl
  rw [request?, Asks, hget]
  cases s.options.aliasPrefix <;> simp [eq_comm]

theorem request?_eq (s : Select) :
    s.request? = (s.options.getText aliasPrefixKey).toOption.map fun start =>
      ⟨s.aliases.name, start⟩ := by
  rw [request?, Options.getText_aliasPrefix]
  cases s.options.aliasPrefix <;> rfl

theorem requests_append (ss rest : List Select) :
    requests (ss ++ rest)
      = requests ss ++ if ss.all fun s => s.request?.isSome then requests rest else [] := by
  induction ss with
  | nil => rfl
  | cons s ss ih =>
    rw [List.cons_append, requests, requests, List.all_cons]
    cases s.request? with
    | none => rfl
    | some request =>
      simp only [Option.isSome_some, Bool.true_and, List.cons_append]
      rw [ih]

/-- Where every select can ask, each does. -/
theorem forall₂_requests {ss : List Select} (h : ss.all fun s => s.request?.isSome) :
    List.Forall₂ Asks ss (requests ss) := by
  induction ss with
  | nil => exact .nil
  | cons s ss ih =>
    rw [List.all_cons, Bool.and_eq_true] at h
    obtain ⟨request, hrequest⟩ := Option.isSome_iff_exists.mp h.1
    rw [requests, hrequest]
    exact .cons (request?_eq_some_iff.mp hrequest) (ih h.2)

/-! ## A chain with one more select around -/

theorem chainAsks_of_refused {s : Select} (h : s.passes = false) (levels : List Select) :
    chainAsks (s :: levels) = [] ∧ chainCompiles (s :: levels) = false := by
  simp [chainAsks, chainCompiles, h]

/-- The select around asks last, and only if all that is inside compiles. -/
theorem chainAsks_cons {s : Select} (h : s.passes = true) {levels : List Select}
    (hne : levels ≠ []) :
    chainAsks (s :: levels)
      = chainAsks levels ++ if chainCompiles levels then s.request?.toList else [] := by
  have hone : requests [s] = s.request?.toList := by
    rw [requests]
    cases s.request? <;> rfl
  rw [chainAsks, chainAsks, chainCompiles, List.all_cons, h, Bool.true_and,
    List.dropLast_cons_of_ne_nil hne, List.reverse_cons, requests_append, List.all_reverse, hone]
  cases levels.all passes <;> simp

theorem chainCompiles_cons {s : Select} (h : s.passes = true) {levels : List Select}
    (hne : levels ≠ []) :
    chainCompiles (s :: levels) = (chainCompiles levels && s.request?.isSome) := by
  rw [chainCompiles, chainCompiles, List.all_cons, h, Bool.true_and,
    List.dropLast_cons_of_ne_nil hne, List.all_cons, Bool.and_comm s.request?.isSome,
    Bool.and_assoc]

/-- Of the outermost select only these two things matter. -/
theorem chainAsks_congr {s s' : Select} (hp : s'.passes = s.passes)
    (hr : s'.request? = s.request?) (levels : List Select) :
    chainAsks (s' :: levels) = chainAsks (s :: levels) := by
  cases levels with
  | nil => simp [chainAsks, hp]
  | cons level levels =>
    cases h : s.passes with
    | false => rw [(chainAsks_of_refused h _).1, (chainAsks_of_refused (hp.trans h) _).1]
    | true =>
      rw [chainAsks_cons h (List.cons_ne_nil _ _), chainAsks_cons (hp.trans h)
        (List.cons_ne_nil _ _), hr]

/-- A select on a table that is no query asks for nothing. -/
theorem chainAsks_singleton (s : Select) : chainAsks [s] = [] ∧ chainCompiles [s] = s.passes := by
  constructor
  · simp [chainAsks, requests]
  · simp [chainCompiles]

theorem isOk_checkHaving_map (s : Select) (f : Fragment) :
    (s.checkHaving.map fun _ => f).isOk = s.passes := by
  rw [passes]
  cases s.checkHaving <;> rfl

/-- **What is drawn by a compilation, and whether it succeeds.** -/
theorem run_compile_asks (s : Select) (t : Table) (d : Draws) :
    ((s.compile t).run d).2 = d.addAll (chainAsks (s :: t.levels)) ∧
      ((s.compile t).run d).1.isOk = chainCompiles (s :: t.levels) := by
  induction t generalizing s d with
  | name n =>
    rw [run_compile_name, Table.levels, (chainAsks_singleton s).1, (chainAsks_singleton s).2]
    exact ⟨d.addAll_nil.symm, isOk_checkHaving_map s _⟩
  | raw sql =>
    rw [run_compile_raw, Table.levels, (chainAsks_singleton s).1, (chainAsks_singleton s).2]
    exact ⟨d.addAll_nil.symm, isOk_checkHaving_map s _⟩
  | derived inner t ih =>
    obtain ⟨hdraws, hok⟩ := ih inner d
    have hlevels : (Table.derived inner t).levels = inner :: t.levels := rfl
    have hne : inner :: t.levels ≠ [] := List.cons_ne_nil _ _
    rw [run_compile_derived, hlevels]
    cases hc : s.checkHaving with
    | error x =>
      -- A select is refused before what is inside is compiled.
      have hp : s.passes = false := by rw [passes, hc]; rfl
      rw [(chainAsks_of_refused hp _).1, (chainAsks_of_refused hp _).2, Draws.addAll_nil]
      exact ⟨rfl, rfl⟩
    | ok _ =>
      have hp : s.passes = true := by rw [passes, hc]; rfl
      rw [chainAsks_cons hp hne, chainCompiles_cons hp hne, ← hok]
      rcases hrun : (inner.compile t).run d with ⟨r, e⟩
      rw [hrun] at hdraws
      -- Where compiling stops, only what is inside has asked.
      have hstopped : e = d.addAll (chainAsks (inner :: t.levels) ++ []) := by
        rw [List.append_nil]
        exact hdraws
      cases r with
      | error x => exact ⟨hstopped, rfl⟩
      | ok body =>
        rw [request?_eq]
        cases s.options.getText aliasPrefixKey with
        | error x => exact ⟨hstopped, rfl⟩
        | ok start =>
          refine ⟨?_, rfl⟩
          rw [← Draws.addAll_addAll, ← hdraws]
          rfl

/-! ## The names in a statement -/

/-- In a chain that compiles, each select on a query asks, the innermost first. -/
theorem forall₂_chainAsks {levels : List Select} (h : chainCompiles levels = true) :
    List.Forall₂ Asks levels.dropLast.reverse (chainAsks levels) := by
  rw [chainCompiles, Bool.and_eq_true] at h
  rw [chainAsks, if_pos h.1]
  refine forall₂_requests ?_
  rw [List.all_reverse]
  exact h.2

theorem length_chainAsks {levels : List Select} (h : chainCompiles levels = true) :
    (chainAsks levels).length = levels.length - 1 := by
  rw [← (forall₂_chainAsks h).length_eq, List.length_reverse, List.length_dropLast]

/-- Selects with one source ask that source. -/
theorem source_of_asks {source : String} {ss : List Select} {requests : List Request}
    (h : List.Forall₂ Asks ss requests) (hs : ∀ s ∈ ss, s.aliases.name = source) :
    ∀ request ∈ requests, request.source = source := by
  induction h with
  | nil => simp
  | cons hask _ ih =>
    obtain ⟨hs, hrest⟩ := List.forall_mem_cons.mp hs
    exact List.forall_mem_cons.mpr ⟨hask.1.trans hs, ih hrest⟩

/-- The names that selects get for their requests, each by the rule of its own source. -/
def spelled (selects : List Select) (answers : List (Request × Nat)) : List String :=
  List.zipWith (fun s answer => s.aliases.spell answer.1.start answer.2) selects answers

/-- The statement of a select on a table with these names for the derived tables, that of the
innermost one first. -/
def statementWith (s : Select) : Table → List String → Fragment
  | .name n, _ => s.statement (.name s.adapter n)
  | .raw sql, _ => s.statement (.sql sql)
  | .derived inner table, names =>
    s.statement (s.derivedTable (inner.statementWith table names.dropLast)
      (names.getLast?.getD ""))

/-- **Each derived table has the name that is spelled with the number its request gets.** -/
theorem Compiles.eq_statementWith {s : Select} {t : Table} {d e : Draws} {f : Fragment}
    (h : s.Compiles t d f e) :
    f = s.statementWith t
      (spelled (s :: t.levels).dropLast.reverse (d.numbered (chainAsks (s :: t.levels)))) := by
  induction h with
  | name n d check => rfl
  | raw sql d check => rfl
  | @derived s inner t d e body start check hbody hstart ih =>
    have hne : inner :: t.levels ≠ [] := List.cons_ne_nil _ _
    have hp : s.passes = true := by rw [passes, check]; rfl
    have hrequest : s.request? = some ⟨s.aliases.name, start⟩ := by
      rw [request?_eq, hstart]
      rfl
    obtain ⟨hdraws, hok⟩ := run_compile_asks inner t d
    rw [hbody.run] at hdraws hok
    have hcompiles : chainCompiles (inner :: t.levels) = true := hok.symm
    have hlength : (inner :: t.levels).dropLast.reverse.length
        = (d.numbered (chainAsks (inner :: t.levels))).length := by
      rw [Draws.length_numbered]
      exact (forall₂_chainAsks hcompiles).length_eq
    -- The request of `s` comes last, and so does its name.
    rw [Table.levels, chainAsks_cons hp hne, hcompiles, if_pos rfl, hrequest, Option.toList_some,
      Draws.numbered_append, List.dropLast_cons_of_ne_nil hne, List.reverse_cons, spelled,
      List.zipWith_append hlength, statementWith, ← hdraws]
    have hlast : List.zipWith (fun s answer => AliasSource.spell s.aliases answer.1.start answer.2)
        [s] (e.numbered [⟨s.aliases.name, start⟩])
          = [s.aliases.spell start (e.count s.aliases.name + 1)] := rfl
    rw [hlast, List.dropLast_concat, List.getLast?_concat, Option.getD_some, ← spelled, ← ih]

end Select

/-! ## What is asked for in a step -/

namespace Query

/-- What a query asks for when it is compiled. -/
def asks (q : Query) : List Request := Select.chainAsks q.levels

/-- What is asked for when the rows of a query are counted: if the query compiles, there is one more
request, for the query around. -/
def asksToCount (q : Query) : List Request :=
  q.asks ++ if Select.chainCompiles q.levels then q.request?.toList else []

theorem draws_compile (q : Query) (d : Draws) : (q.compile.run d).2 = d.addAll q.asks :=
  (Select.run_compile_asks q.toSelect q.table d).1

theorem asks_single (q : Query) : q.single.asks = q.asks := by
  have hpasses : q.single.passes = q.passes := rfl
  have hrequest : q.single.request? = q.request? := rfl
  exact Select.chainAsks_congr hpasses hrequest q.table.levels

theorem asks_counter (q : Query) : q.counter.asks = q.asksToCount :=
  Select.chainAsks_cons (s := q.counter.toSelect) rfl (List.cons_ne_nil _ _)

end Query

/-- What is asked for when a query is run. -/
def Entry.asks (q : Query) : Entry → List Request
  | .fetch | .get | .getOne => q.asks
  | .count => q.asksToCount

theorem Entry.asks_sends (q : Query) (entry : Entry) : (entry.sends q).asks = entry.asks q := by
  cases entry with
  | fetch | get => rfl
  | getOne => exact q.asks_single
  | count => exact q.asks_counter

/-- What is asked for when a query is changed: a query to look into is compiled then. -/
def Change.asks : Change → List Request
  | .filterIn _ _ (.query inner) => inner.asks
  | _ => []

theorem Change.draws_apply (c : Change) (q : Query) (d : Draws) :
    ((c.apply q).run d).2 = d.addAll c.asks := by
  cases c with
  | filterIn m column r =>
    rw [apply, Query.filterIn, Drawing.run_bind]
    cases r with
    | values vs => exact d.addAll_nil.symm
    | query inner =>
      have hdraws := inner.draws_compile d
      rw [Relation.fragment]
      rcases hrun : inner.compile.run d with ⟨r, e⟩
      rw [hrun] at hdraws
      cases r <;> exact hdraws
  | _ => exact d.addAll_nil.symm

/-- What a step asks for. -/
def Step.asks (queries : OrderedMap Query) : Step → List Request
  | .create _ _ _ _ | .sub _ _ _ | .copy _ _ | .readOption _ _ | .quote _ _ | .look _ => []
  | .call name c =>
    match c.resolve queries, (c.leave queries).get? name with
    | .ok change, some _ => change.asks
    | _, _ => []
  | .draw source start => [⟨source.name, start⟩]
  | .compile name => ((queries.get? name).map Query.asks).getD []
  | .compare name other =>
    match queries.get? name, queries.get? other with
    | some q, some o => q.asks ++ o.asks
    | _, _ => []
  | .run name entry _ => ((queries.get? name).map fun q => entry.asks q).getD []

namespace Session

/-- What steps ask for, one after another. -/
def asks (s : Session) : List Step → List Request
  | [] => []
  | step :: steps => step.asks s.queries ++ (s.step step).2.asks steps

theorem draws_answer {s : Session} {name : String} {reply : Query → Reply × Session}
    {asks : Query → List Request} (h : ∀ q, (reply q).2.draws = s.draws.addAll (asks q)) :
    (s.answer name reply).2.draws = s.draws.addAll (((s.queries.get? name).map asks).getD []) := by
  rw [answer]
  cases s.queries.get? name with
  | none => exact s.draws.addAll_nil.symm
  | some q => exact h q

/-- Answers that draw nothing. -/
theorem draws_answer_of_eq {s : Session} {name : String} {reply : Query → Reply × Session}
    (h : ∀ q, (reply q).2.draws = s.draws) : (s.answer name reply).2.draws = s.draws.addAll [] := by
  rw [answer, Draws.addAll_nil]
  cases s.queries.get? name with
  | none => rfl
  | some q => exact h q

theorem draws_make (s : Session) (name : String) (table : TableRef) (query : Table → Query) :
    (s.make name table query).2.draws = s.draws := by
  rw [make]
  split <;> rfl

theorem draws_compile (s : Session) (q : Query) :
    (s.compile q).2.draws = s.draws.addAll q.asks := q.draws_compile s.draws

theorem draws_compare (s : Session) (q other : Query) :
    (s.compare q other).2.draws = s.draws.addAll (q.asks ++ other.asks) := by
  have hsecond : ((s.compile q).2.compile other).2.draws
      = s.draws.addAll (q.asks ++ other.asks) := by
    rw [draws_compile, draws_compile, Draws.addAll_addAll]
  unfold compare
  dsimp only
  split <;> exact hsecond

theorem draws_execute (s : Session) (q : Query) (entry : Entry) (executor : Executor) :
    (s.execute q entry executor).2.draws = s.draws.addAll (entry.asks q) := by
  have hdraws := (entry.sends q).draws_compile s.draws
  rw [Entry.asks_sends] at hdraws
  rw [execute_eq]
  rcases hrun : (entry.sends q).compile.run s.draws with ⟨r, e⟩
  rw [hrun] at hdraws
  cases r <;> exact hdraws

theorem draws_change (s : Session) (name : String) (c : CallRef) :
    (s.change name c).2.draws = s.draws.addAll ((Step.call name c).asks s.queries) := by
  rw [change, Step.asks]
  cases c.resolve s.queries with
  | error missing => exact s.draws.addAll_nil.symm
  | ok change =>
    dsimp only
    rw [answer]
    cases (c.leave s.queries).get? name with
    | none => exact s.draws.addAll_nil.symm
    | some q =>
      have hdraws := change.draws_apply q s.draws
      dsimp only
      rcases hrun : (change.apply q).run s.draws with ⟨r, e⟩
      rw [hrun] at hdraws
      cases r <;> exact hdraws

/-- **A step draws what it asks for.** -/
theorem draws_step (s : Session) (step : Step) :
    (s.step step).2.draws = s.draws.addAll (step.asks s.queries) := by
  cases step with
  | create name a source table =>
    rw [Step.asks, Draws.addAll_nil]
    exact draws_make _ _ _ _
  | sub name of table => exact draws_answer_of_eq fun q => draws_make _ _ _ _
  | copy name of => exact draws_answer_of_eq fun q => rfl
  | call name c => exact draws_change s name c
  | draw source start => rfl
  | readOption name key =>
    refine draws_answer_of_eq fun q => ?_
    split <;> rfl
  | quote name identifier => exact draws_answer_of_eq fun q => rfl
  | look name => exact draws_answer_of_eq fun q => rfl
  | compile name =>
    refine draws_answer fun q => ?_
    have hdraws := s.draws_compile q
    rcases hc : s.compile q with ⟨result, after⟩
    rw [hc] at hdraws
    cases result <;> exact hdraws
  | compare name other =>
    rw [step, answer, Step.asks]
    cases s.queries.get? name with
    | none => exact s.draws.addAll_nil.symm
    | some q =>
      dsimp only
      rw [answer]
      cases s.queries.get? other with
      | none => exact s.draws.addAll_nil.symm
      | some o => exact draws_compare s q o
  | run name entry executor => exact draws_answer fun q => draws_execute s q entry executor

/-- **So do steps one after another.** -/
theorem draws_run (s : Session) (steps : List Step) :
    (s.run steps).2.draws = s.draws.addAll (s.asks steps) := by
  induction steps generalizing s with
  | nil => exact s.draws.addAll_nil.symm
  | cons step steps ih =>
    rw [asks, ← Draws.addAll_addAll, ← draws_step]
    exact ih (s.step step).2

/-- **Who draws which number.** A session draws what its steps ask for, and each source hands out
the numbers that follow each other; a name that is drawn by itself is spelled with the next one. The
text of a statement alone is drawn for as the statement is.
When a query compiles, each of its levels on a derived table has asked its own source with its own
prefix, the innermost first, and the names in the statement are spelled with the numbers that answer
these requests. If all of them go to one source, the numbers follow each other. -/
theorem numbers_drawn (s : Session) (steps : List Step) (source : String) :
    (s.run steps).2.draws = s.draws.addAll (s.asks steps) ∧
    s.draws.numbersOf source (s.asks steps) = List.range' (s.draws.count source + 1)
      ((s.asks steps).countP fun request => request.source == source) ∧
    (∀ (aliases : AliasSource) (start : String),
      s.step (.draw aliases start) =
        (.drawn (aliases.spell start (s.draws.count aliases.name + 1)),
          { s with draws := s.draws.add ⟨aliases.name, start⟩ })) ∧
    (∀ q : Query, s.toSql q
      = ((s.compile q).1.map toString, { s with draws := s.draws.addAll q.asks })) ∧
    ∀ (q : Query) (d e : Draws) (f : Fragment), q.compile.run d = (.ok f, e) →
      e = d.addAll q.asks ∧
      List.Forall₂ Select.Asks q.levels.dropLast.reverse q.asks ∧
      f = q.toSelect.statementWith q.table
        (Select.spelled q.levels.dropLast.reverse (d.numbered q.asks)) ∧
      ((∀ level ∈ q.levels.dropLast, level.aliases.name = source) →
        (d.numbered q.asks).map Prod.snd
          = List.range' (d.count source + 1) (q.levels.length - 1)) := by
  refine ⟨s.draws_run steps, s.draws.numbersOf_eq_range' source _, ?_, ?_, ?_⟩
  · intro aliases start
    rw [step, Drawing.run_draw]
  · intro q
    rw [toSql, q.run_toSql, q.draws_compile]
    rfl
  · intro q d e f h
    obtain ⟨hdraws, hok⟩ := Select.run_compile_asks q.toSelect q.table d
    have hrun : (q.toSelect.compile q.table).run d = (.ok f, e) := h
    rw [hrun] at hdraws hok
    have hcompiles : Select.chainCompiles q.levels = true := hok.symm
    have hasks : List.Forall₂ Select.Asks q.levels.dropLast.reverse q.asks :=
      Select.forall₂_chainAsks hcompiles
    refine ⟨hdraws, hasks, (Select.compiles_of_run hrun).eq_statementWith, ?_⟩
    intro hsource
    have hall := Select.source_of_asks hasks fun level hlevel =>
      hsource level (List.mem_reverse.mp hlevel)
    rw [Draws.snd_numbered_eq_range' hall, Query.asks, Select.length_chainAsks hcompiles]

/-- A query inside a predicate draws its one name when the predicate is asked for, a compilation of
the query around draws for its two derived tables, and a count draws for these and itself. -/
theorem numbers_drawn_nested :
    ∃ (q : Query) (steps : List Step) (f : Fragment),
      steps = [
        .create "a" .plain (.sequence "t") (.given (.name "a")),
        .create "b" .plain (.sequence "t") (.moveOf "a"),
        .create "c" .plain (.sequence "t") (.copyOf "b"),
        .call "c" (.setOption aliasPrefixKey (.text "u")),
        .call "c" (.filterIn .among "k" (.query "b")),
        .compile "c",
        .run "c" .count fun _ => .ok []] ∧
      (Session.run {} steps).2.queries.get? "c" = some q ∧
      Draws.numbersOf ∅ "t" (Session.asks {} steps) = [1, 2, 3, 4, 5, 6] ∧
      f = ⟨"SELECT * FROM (SELECT * FROM (SELECT * FROM a) AS t_2) AS u3".toList ++
        " WHERE (k IN (SELECT * FROM (SELECT * FROM a) AS t_1))".toList, []⟩ ∧
      q.compile.run ⟨[⟨"t", "t_"⟩]⟩ = (.ok f, ⟨[⟨"t", "t_"⟩, ⟨"t", "t_"⟩, ⟨"t", "u"⟩]⟩) ∧
      (Draws.numbered ⟨[⟨"t", "t_"⟩]⟩ q.asks).map Prod.snd = [2, 3] := by
  let a : Select := { adapter := .plain, aliases := .sequence "t" }
  let list : List Char := "SELECT * FROM (SELECT * FROM a) AS t_1".toList
  let q : Query :=
    { adapter := .plain, aliases := .sequence "t",
      options := Options.set {} aliasPrefixKey (.text "u"),
      predicates := [⟨"k IN (".toList ++ list ++ ")".toList, []⟩],
      table := .derived a (.derived a (.name "a")) }
  refine ⟨q, _, _, rfl, rfl, (numbers_drawn {} _ "t").2.1, rfl, ?compile,
    ((numbers_drawn {} [] "t").2.2.2.2 q _ _ _ ?compile).2.2.2 ?source⟩
  case compile =>
    show @Eq (Except Error Fragment × Draws) _ _
    decide +kernel
  case source => decide

end Session

end SqlSelect
