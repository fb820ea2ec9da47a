import Mathlib.Data.List.DropRight
import SqlSelect.Proofs.Outline

/-!
# A query as the summary of its history

The history of a query lists what was asked of it since it was made. An event of it is a change
together with the names that were drawn before: a predicate on the rows of another query is written
when it is asked for, with the names that come next then. Between two events anything else may
happen in the session.

A change takes part in one of three ways. The table, the source of names, the options and what is
done to the rows are replaced, and stay when the query is reset. The other clauses are replaced as
well, but a reset clears them. Predicates add up from the last reset on. A change that is refused
takes no part. So what a query is in the end can be read off its history (`Session.query_eq_summary`).
-/

namespace SqlSelect

/-- A change that was asked for, and the names drawn before. -/
structure Event where
  change : Change
  before : Draws

/-- The query after all events, one after another; a change that is refused leaves it as it is. -/
def Query.replay (q : Query) (history : List Event) : Query :=
  history.foldl (fun q e => q.after e.change e.before) q

theorem Query.replay_concat (q : Query) (history : List Event) (e : Event) :
    q.replay (history ++ [e]) = (q.replay history).after e.change e.before := by
  rw [replay, replay, List.foldl_concat]

/-! ## What an event sets -/

namespace Event

/-- Whether all clauses are cleared. -/
def isReset (e : Event) : Bool := e.change matches .reset

def table? (e : Event) : Option Table :=
  match e.change with
  | .setTable t => some t
  | _ => none

def aliases? (e : Event) : Option AliasSource :=
  match e.change with
  | .setAliases source => some source
  | _ => none

/-- The option that is set, and its value. -/
def option? (e : Event) : Option (String × OptionValue) :=
  match e.change with
  | .setOption key value => some (key, value)
  | _ => none

/-- The value that the option of this name is set to. -/
def valueOf? (key : String) (e : Event) : Option OptionValue :=
  match e.change with
  | .setOption other value => if other = key then some value else none
  | _ => none

def processor? (e : Event) : Option (Record → Record) :=
  match e.change with
  | .setProcessor f => some f
  | _ => none

def columns? (e : Event) : Option (List Column) :=
  match e.change with
  | .select cs => some cs.toList
  | _ => none

/-- The predicate that is added, as an adapter writes it; none if a query to look into does not
compile. -/
def predicate? (a : Adapter) (e : Event) : Option Fragment :=
  match e.change with
  | .filter sql vs => some ⟨sql.toList, vs.toList⟩
  | .filterIn m column r => (r.fragment.run e.before).1.toOption.map (m.predicate a column)
  | _ => none

/-- The columns to group by, with a predicate and its values or without one: an empty text is none. -/
def group? (e : Event) : Option Group :=
  match e.change with
  | .groupBy cs => some ⟨cs.toList, none⟩
  | .groupByHaving cs having vs =>
    some ⟨cs.toList, if having = "" then none else some ⟨having.toList, vs.toList⟩⟩
  | _ => none

/-- The order, if none of its terms is refused. -/
def order? (e : Event) : Option (List OrderItem) :=
  match e.change with
  | .orderBy terms => (Term.resolveAll terms.toList).toOption
  | _ => none

def limit? (e : Event) : Option UInt32 :=
  match e.change with
  | .setLimit n => some n.count
  | .paginate page => some page.limit
  | _ => none

def offset? (e : Event) : Option UInt32 :=
  match e.change with
  | .setOffset n => some n.count
  | .paginate page => some page.offset
  | _ => none

end Event

/-! ## One event -/

theorem Query.after_orderBy (q : Query) (terms : Items Term) (d : Draws) :
    q.after (.orderBy terms) d =
      { q with order := (Term.resolveAll terms.toList).toOption.getD q.order } := by
  rw [after, Change.apply, Drawing.run_lift, orderBy]
  cases Term.resolveAll terms.toList <;> rfl

/-- An event clears the clauses, or it sets what it speaks of and leaves the rest. -/
theorem Query.after_eq (q : Query) (e : Event) :
    q.after e.change e.before =
      if e.isReset then q.reset
      else
        { q with
          table := e.table?.getD q.table
          aliases := e.aliases?.getD q.aliases
          options := (e.option?.map fun x => q.options.set x.1 x.2).getD q.options
          processor := e.processor?.or q.processor
          columns := e.columns?.getD q.columns
          predicates := (e.predicate? q.adapter).elim q.predicates fun f => q.predicates ++ [f]
          group := e.group?.or q.group
          order := e.order?.getD q.order
          limit := e.limit?.getD q.limit
          offset := e.offset?.getD q.offset } := by
  -- Only a query to look into and the terms of an order can be refused.
  obtain ⟨change, before⟩ := e
  cases change with
  | filterIn m column r =>
    rw [after_filterIn]
    dsimp only [Event.predicate?]
    cases (r.fragment.run before).1 <;> rfl
  | orderBy terms =>
    rw [after_orderBy]
    rfl
  | _ => rfl

/-! ## Many events -/

/-- What the last event that sets something sets it to. -/
def lastOf {β : Type} (sets : Event → Option β) (history : List Event) : Option β :=
  (history.filterMap sets).getLast?

/-- The events after the last reset. -/
def sinceReset (history : List Event) : List Event := history.rtakeWhile fun e => !e.isReset

theorem sinceReset_concat_of_reset {e : Event} (h : e.isReset = true) (history : List Event) :
    sinceReset (history ++ [e]) = [] :=
  List.rtakeWhile_concat_neg _ _ _ (by simp [h])

theorem sinceReset_concat {e : Event} (h : ¬ e.isReset = true) (history : List Event) :
    sinceReset (history ++ [e]) = sinceReset history ++ [e] :=
  List.rtakeWhile_concat_pos _ _ _ (by simpa using h)

section Replaced

variable {β : Type} (sets : Event → Option β)

theorem lastOf_concat (history : List Event) (e : Event) :
    lastOf sets (history ++ [e]) = (sets e).or (lastOf sets history) := by
  rw [lastOf, lastOf, List.filterMap_append, List.getLast?_append]
  cases h : sets e <;> simp [h]

/-- What each event replaces, or leaves as it is, is in the end what was said last. -/
theorem read_replay (read : Query → Option β)
    (hstep : ∀ (q : Query) (e : Event), read (q.after e.change e.before) = (sets e).or (read q))
    (q : Query) (history : List Event) :
    read (q.replay history) = (lastOf sets history).or (read q) := by
  induction history using List.reverseRecOn with
  | nil => rfl
  | append_singleton history e ih =>
    rw [Query.replay_concat, hstep, ih, lastOf_concat, Option.or_assoc]

/-- What is cleared by a reset besides is what was said last since the last reset. -/
theorem read_replay_since (read : Query → Option β) {blank : Option β}
    (hstep : ∀ (q : Query) (e : Event),
      read (q.after e.change e.before) = if e.isReset then blank else (sets e).or (read q))
    {q : Query} (hq : read q = blank) (history : List Event) :
    read (q.replay history) = (lastOf sets (sinceReset history)).or blank := by
  induction history using List.reverseRecOn with
  | nil => exact hq
  | append_singleton history e ih =>
    rw [Query.replay_concat, hstep]
    by_cases he : e.isReset = true
    · rw [if_pos he, sinceReset_concat_of_reset he]
      rfl
    · rw [if_neg he, ih, sinceReset_concat he, lastOf_concat, Option.or_assoc]

/-- The same for what is always there. -/
theorem get_replay (get : Query → β)
    (hstep : ∀ (q : Query) (e : Event), get (q.after e.change e.before) = (sets e).getD (get q))
    (q : Query) (history : List Event) :
    get (q.replay history) = (lastOf sets history).getD (get q) := by
  have h := read_replay sets (fun q => some (get q)) (fun q e => by rw [hstep, Option.or_some])
    q history
  rw [Option.or_some] at h
  exact Option.some.inj h

theorem get_replay_since (get : Query → β) {blank : β}
    (hstep : ∀ (q : Query) (e : Event),
      get (q.after e.change e.before) = if e.isReset then blank else (sets e).getD (get q))
    {q : Query} (hq : get q = blank) (history : List Event) :
    get (q.replay history) = (lastOf sets (sinceReset history)).getD blank := by
  have h := read_replay_since sets (fun q => some (get q))
    (fun q e => by rw [hstep, apply_ite some, Option.or_some]) (by rw [hq]) history
  rw [Option.or_some] at h
  exact Option.some.inj h

end Replaced

theorem Query.adapter_replay (q : Query) (history : List Event) :
    (q.replay history).adapter = q.adapter := by
  induction history using List.reverseRecOn with
  | nil => rfl
  | append_singleton history e ih =>
    rw [replay_concat, after_eq]
    split <;> exact ih

/-- Predicates add up from the last reset on. -/
theorem Query.predicates_replay {q : Query} (hq : q.predicates = []) (history : List Event) :
    (q.replay history).predicates = (sinceReset history).filterMap (Event.predicate? q.adapter) := by
  induction history using List.reverseRecOn with
  | nil => exact hq
  | append_singleton history e ih =>
    rw [replay_concat, after_eq]
    by_cases he : e.isReset = true
    · rw [if_pos he, sinceReset_concat_of_reset he]
      rfl
    · rw [if_neg he, sinceReset_concat he, List.filterMap_append, ← ih]
      dsimp only
      rw [adapter_replay]
      cases h : e.predicate? q.adapter <;> simp [h]

/-- Options are set in the order of the events, resets or not. -/
theorem Query.options_replay (q : Query) (history : List Event) :
    (q.replay history).options =
      (history.filterMap Event.option?).foldl (fun o x => o.set x.1 x.2) q.options := by
  induction history using List.reverseRecOn with
  | nil => rfl
  | append_singleton history e ih =>
    rw [replay_concat, after_eq, List.filterMap_append, List.foldl_append, ← ih]
    by_cases he : e.isReset = true
    · -- A reset sets no option, and takes back none.
      have hnone : e.option? = none := by
        obtain ⟨change, before⟩ := e
        cases change <;> first | rfl | cases he
      rw [if_pos he]
      simp [hnone, reset]
    · rw [if_neg he]
      cases h : e.option? <;> simp [h]

/-- An option has the value it was set to last. -/
theorem Query.get?_options_replay (q : Query) (history : List Event) (key : String) :
    (q.replay history).options.get? key
      = (lastOf (Event.valueOf? key) history).or (q.options.get? key) := by
  refine read_replay (Event.valueOf? key) (fun q => q.options.get? key) ?_ q history
  rintro q ⟨change, before⟩
  rw [after_eq]
  cases change with
  | setOption other value =>
    show (q.options.set other value).get? key = _
    rw [Options.get?_set]
    dsimp only [Event.valueOf?]
    split <;> rfl
  | _ => rfl

/-! ## The whole history -/

/-- What a query without clauses becomes through its history. The table, the source of names and
what is done to the rows are those set last, and the options are set one after another. The other
clauses are those set last since the last reset, or absent. The predicates are those added since. -/
def Query.summary (q : Query) (history : List Event) : Query where
  adapter := q.adapter
  table := (lastOf Event.table? history).getD q.table
  aliases := (lastOf Event.aliases? history).getD q.aliases
  options := (history.filterMap Event.option?).foldl (fun o x => o.set x.1 x.2) q.options
  processor := (lastOf Event.processor? history).or q.processor
  columns := (lastOf Event.columns? (sinceReset history)).getD []
  predicates := (sinceReset history).filterMap (Event.predicate? q.adapter)
  group := lastOf Event.group? (sinceReset history)
  order := (lastOf Event.order? (sinceReset history)).getD []
  limit := (lastOf Event.limit? (sinceReset history)).getD 0
  offset := (lastOf Event.offset? (sinceReset history)).getD 0

/-- **A query without clauses becomes the summary of its history.** -/
theorem Query.replay_eq_summary {q : Query} (hq : q.reset = q) (history : List Event) :
    q.replay history = q.summary history := by
  -- The first three are not touched by a reset, so they are read off the whole history.
  have htable : (q.replay history).table = (q.summary history).table :=
    get_replay Event.table? Query.table
      (by rintro q ⟨change, before⟩; rw [after_eq]; cases change <;> rfl) q history
  have haliases : (q.replay history).aliases = (q.summary history).aliases :=
    get_replay Event.aliases? (fun q => q.aliases)
      (by rintro q ⟨change, before⟩; rw [after_eq]; cases change <;> rfl) q history
  have hprocessor : (q.replay history).processor = (q.summary history).processor :=
    read_replay Event.processor? (fun q => q.processor)
      (by rintro q ⟨change, before⟩; rw [after_eq]; cases change <;> rfl) q history
  have hcolumns : (q.replay history).columns = (q.summary history).columns :=
    get_replay_since Event.columns? (fun q => q.columns)
      (fun q e => by rw [after_eq]; split <;> rfl) (by rw [← hq]; rfl) history
  have hgroup : (q.replay history).group = (q.summary history).group := by
    have h := read_replay_since Event.group? (fun q => q.group) (q := q)
      (fun q e => by rw [after_eq]; split <;> rfl) (by rw [← hq]; rfl) history
    rwa [Option.or_none] at h
  have horder : (q.replay history).order = (q.summary history).order :=
    get_replay_since Event.order? (fun q => q.order)
      (fun q e => by rw [after_eq]; split <;> rfl) (by rw [← hq]; rfl) history
  have hlimit : (q.replay history).limit = (q.summary history).limit :=
    get_replay_since Event.limit? (fun q => q.limit)
      (fun q e => by rw [after_eq]; split <;> rfl) (by rw [← hq]; rfl) history
  have hoffset : (q.replay history).offset = (q.summary history).offset :=
    get_replay_since Event.offset? (fun q => q.offset)
      (fun q e => by rw [after_eq]; split <;> rfl) (by rw [← hq]; rfl) history
  have hpredicates : (q.replay history).predicates = (q.summary history).predicates :=
    predicates_replay (by rw [← hq]; rfl) history
  exact Query.ext (q.adapter_replay history) haliases (q.options_replay history) hcolumns
    hpredicates hgroup horder hlimit hoffset hprocessor htable

/-! ## Histories of sessions -/

/-- Whether the query of this name is not given up. -/
def TableRef.keeps (name : String) : TableRef → Bool
  | .moveOf other => other != name
  | .given _ | .copyOf _ | .tableOf _ => true

def CallRef.keeps (name : String) : CallRef → Bool
  | .setTable table => table.keeps name
  | _ => true

namespace Step

/-- Whether the name goes on to stand for the same query, changed or not. -/
def keeps (name : String) : Step → Bool
  | .create other _ _ table | .sub other _ table => other != name && table.keeps name
  | .copy other _ => other != name
  | .call _ c => c.keeps name
  | _ => true

/-- The change that a step asks for, if it asks for one of the query of this name. -/
def event? (name : String) (s : Session) : Step → Option Event
  | .call other c =>
    if other = name then (c.resolve s.queries).toOption.map fun change => ⟨change, s.draws⟩
    else none
  | _ => none

end Step

theorem TableRef.get?_leave {name : String} {table : TableRef} (h : table.keeps name = true)
    (queries : OrderedMap Query) : (table.leave queries).get? name = queries.get? name := by
  cases table with
  | moveOf other =>
    have hne : other ≠ name := by simpa [keeps] using h
    rw [leave, OrderedMap.get?_erase, if_neg hne]
  | _ => rfl

theorem CallRef.get?_leave {name : String} {c : CallRef} (h : c.keeps name = true)
    (queries : OrderedMap Query) : (c.leave queries).get? name = queries.get? name := by
  cases c with
  | setTable table => exact TableRef.get?_leave h queries
  | _ => rfl

namespace Session

variable {s : Session} {name : String} {q : Query}

/-- The changes that steps ask for of the query of this name, one after another. -/
def history (name : String) (s : Session) : List Step → List Event
  | [] => []
  | step :: steps => (step.event? name s).toList ++ history name (s.step step).2 steps

theorem get?_store_of_ne {other : String} (h : other ≠ name) (q : Query) :
    (s.store other q).queries.get? name = s.queries.get? name := by
  rw [store, OrderedMap.get?_insert, if_neg h]

theorem get?_make {other : String} {table : TableRef} (hother : other ≠ name)
    (htable : table.keeps name = true) (query : Table → Query) :
    (s.make other table query).2.queries.get? name = s.queries.get? name := by
  rw [make]
  split
  · rfl
  · exact (get?_store_of_ne hother _).trans (TableRef.get?_leave htable _)

/-- What is asked of a query is done to it, and to no other. -/
theorem get?_change {other : String} {c : CallRef} (hq : s.queries.get? name = some q)
    (hc : c.keeps name = true) :
    (s.change other c).2.queries.get? name
      = some (q.replay ((Step.call other c).event? name s).toList) := by
  have hleave := (CallRef.get?_leave hc s.queries).trans hq
  rw [change, Step.event?]
  cases c.resolve s.queries with
  | error missing =>
    rw [Except.toOption, Option.map_none, ite_self]
    exact hq
  | ok change =>
    -- A query that is given up as a table is not the one of this name.
    dsimp only
    rw [answer]
    by_cases h : other = name
    · subst h
      rw [if_pos rfl, hleave]
      show _ = some (q.after change s.draws)
      rw [Query.after]
      dsimp only
      rcases (change.apply q).run s.draws with ⟨result, draws⟩
      cases result with
      | error e => exact hleave
      | ok after => exact (OrderedMap.get?_insert _ _ _ _).trans (if_pos rfl)
    · rw [if_neg h]
      cases (c.leave s.queries).get? other with
      | none => exact hleave
      | some found =>
        dsimp only
        rcases (change.apply found).run s.draws with ⟨result, draws⟩
        cases result with
        | error e => exact hleave
        | ok after => exact (get?_store_of_ne h after).trans hleave

theorem get?_step_of_reads {step : Step} (hq : s.queries.get? name = some q) (h : step.Reads) :
    (s.step step).2.queries.get? name = some q := by
  rw [queries_step s h]
  exact hq

/-- **One step: a query is changed by what is asked of it, and by nothing else.** -/
theorem get?_step {step : Step} (hq : s.queries.get? name = some q)
    (hstep : step.keeps name = true) :
    (s.step step).2.queries.get? name = some (q.replay (step.event? name s).toList) := by
  cases step with
  | create other a source table =>
    obtain ⟨hother, htable⟩ := Bool.and_eq_true_iff.mp hstep
    exact (get?_make (by simpa using hother) htable _).trans hq
  | sub other of table =>
    obtain ⟨hother, htable⟩ := Bool.and_eq_true_iff.mp hstep
    rw [Session.step, answer]
    split
    · exact (get?_make (by simpa using hother) htable _).trans hq
    · exact hq
  | copy other of =>
    have hother : other ≠ name := by simpa [Step.keeps] using hstep
    rw [Session.step, answer]
    split
    · exact (get?_store_of_ne hother _).trans hq
    · exact hq
  | call other c => exact get?_change hq hstep
  | draw source start => exact hq
  | readOption | quote | look | compile | compare | run => exact get?_step_of_reads hq trivial

theorem get?_run {steps : List Step} (hq : s.queries.get? name = some q)
    (hsteps : steps.all (Step.keeps name) = true) :
    (s.run steps).2.queries.get? name = some (q.replay (s.history name steps)) := by
  induction steps generalizing s q with
  | nil => exact hq
  | cons step steps ih =>
    rw [List.all_cons, Bool.and_eq_true] at hsteps
    rw [history, Query.replay, List.foldl_append]
    exact ih (get?_step hq hsteps.1) hsteps.2

/-- **A query is the summary of its history.** Take a query without clauses, as it is when it is
made, and any steps after which its name still stands for it. What is done in between to other
queries does not matter: it is the summary of what was asked of it, and each of its options has the
value it was set to last, or the one it had at first. -/
theorem query_eq_summary {steps : List Step} (hq : s.queries.get? name = some q)
    (hblank : q.reset = q) (hsteps : steps.all (Step.keeps name) = true) :
    (s.run steps).2.queries.get? name = some (q.summary (s.history name steps)) ∧
      ∀ key, (q.summary (s.history name steps)).options.get? key
        = (lastOf (Event.valueOf? key) (s.history name steps)).or (q.options.get? key) := by
  have hrun := get?_run hq hsteps
  have hsummary := Query.replay_eq_summary hblank (s.history name steps)
  rw [hsummary] at hrun
  refine ⟨hrun, ?_⟩
  intro key
  rw [← hsummary]
  exact q.get?_options_replay _ key

/-- A reset takes back what was said before, and so does a group without a predicate; the group, the
page and the number of rows to skip are those said last. A refused order takes back nothing, and the
query to look into is the one of that moment. -/
theorem query_eq_summary_reset :
    ∃ (s : Session) (q : Query) (steps : List Step),
      s = (run {} [
        .create "q" .plain (.sequence "t") (.given (.name "a")),
        .create "r" .plain (.sequence "t") (.given (.name "b"))]).2 ∧
      steps = [
        .call "q" (.filter "x = ?" (.one (.int32 1))),
        .call "q" (.select (.given (.text "w"))),
        .call "q" (.setOption strictKey (.bool true)),
        .call "q" (.groupByHaving (.given (.text "g")) "y = ?" (.one (.int32 2))),
        .call "q" (.groupBy (.given (.text "h"))),
        .call "q" .reset,
        .call "q" (.select (.given (.columns (.many [.name "u", .raw "v"])))),
        .call "q" (.setLimit (5 : Int32)),
        .call "q" (.paginate ⟨3, 10⟩),
        .call "q" (.setOffset (-7 : Int32)),
        .call "q" (.groupBy (.given (.text "g"))),
        .call "q" (.groupByHaving (.given (.text "h")) "z > ?" (.one (.int32 3))),
        .call "q" (.orderBy (.one (.name "o"))),
        .call "q" (.orderBy (.one (.sort "" none))),
        .call "q" (.filterIn .among "k" (.query "r")),
        .call "r" (.filter "z" .none)] ∧
      s.queries.get? "q" = some q ∧
      (s.run steps).2.queries.get? "q" = some (q.summary (s.history "q" steps)) ∧
      q.summary (s.history "q" steps) =
        { adapter := .plain, aliases := .sequence "t", table := .name "a",
          options := Options.set {} strictKey (.bool true),
          columns := [.name "u", .raw "v"],
          predicates := [⟨"k IN (SELECT * FROM b)".toList, []⟩],
          group := some ⟨[.name "h"], some ⟨"z > ?".toList, [.int32 3]⟩⟩,
          order := [.column "o" .ascending], limit := 10, offset := 7 } ∧
      (q.summary (s.history "q" (steps.take 5))).group = some ⟨[.name "h"], none⟩ := by
  refine ⟨_, .new .plain (.sequence "t") (.name "a"), _, rfl, rfl, rfl, ?_, ?_, ?_⟩
  · exact (query_eq_summary rfl rfl (by decide)).1
  · rfl
  · rfl

end Session

end SqlSelect
