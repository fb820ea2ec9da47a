import SqlSelect.Proofs.History
import SqlSelect.Proofs.Redrawing

/-!
# Queries do not reach into each other

A query may be used in another one, as a table, for its columns or to look into, and it may be
copied. What is used is what the query is at that moment, so a step on one query does nothing to any
other, whichever of the two was made from which (`Session.get?_step_of_foreign`). A step that reads,
compiles or runs a query changes no query at all.

What such steps do is draw names. So a query that is compiled before and after any number of them
compiles to the same but for the names of its own derived tables (`Query.recompiled`).
-/

namespace SqlSelect

/-! ## Steps that leave a query alone -/

/-- The query that is taken for a table, its name given up. -/
def TableRef.taken? : TableRef → Option String
  | .moveOf name => some name
  | .given _ | .copyOf _ | .tableOf _ => none

theorem TableRef.keeps_of_taken? {name : String} {table : TableRef}
    (h : table.taken? ≠ some name) : table.keeps name = true := by
  cases table with
  | moveOf other =>
    have hne : other ≠ name := fun he => h (congrArg some he)
    simpa [keeps] using hne
  | given | copyOf | tableOf => rfl

namespace Step

/-- The query that a step is addressed to: the one that it makes, changes, reads or runs. -/
def addressee? : Step → Option String
  | .create name _ _ _ | .sub name _ _ | .copy name _ | .call name _ | .readOption name _
  | .quote name _ | .look name | .compile name | .compare name _ | .run name _ _ => some name
  | .draw _ _ => none

/-- The query that a step takes for a table. -/
def taken? : Step → Option String
  | .create _ _ _ table | .sub _ _ table | .call _ (.setTable table) => table.taken?
  | _ => none

/-- Whether a step only reads, or is addressed to another query and does not take this one. -/
def Spares (name : String) (step : Step) : Prop :=
  step.Reads ∨ (step.addressee? ≠ some name ∧ step.taken? ≠ some name)

variable {name : String} {step : Step}

theorem keeps_of_foreign (ha : step.addressee? ≠ some name) (ht : step.taken? ≠ some name) :
    step.keeps name = true := by
  cases step with
  | create other a source table | sub other of table =>
    have hother : other ≠ name := fun he => ha (congrArg some he)
    have htable : table.keeps name = true := TableRef.keeps_of_taken? ht
    simp [keeps, hother, htable]
  | copy other of =>
    have hother : other ≠ name := fun he => ha (congrArg some he)
    simp [keeps, hother]
  | call other c =>
    cases c with
    | setTable table => exact TableRef.keeps_of_taken? ht
    | _ => rfl
  | _ => rfl

/-- A step that is addressed to another query asks for no change of this one. -/
theorem event?_of_foreign (ha : step.addressee? ≠ some name) (s : Session) :
    step.event? name s = none := by
  cases step with
  | call other c =>
    have hother : other ≠ name := fun he => ha (congrArg some he)
    rw [event?, if_neg hother]
  | _ => rfl

end Step

namespace Session

variable {s : Session} {name : String} {q : Query}

/-- **A step that is addressed to another query leaves this one as it is**, unless it takes it. -/
theorem get?_step_of_foreign {step : Step} (hq : s.queries.get? name = some q)
    (ha : step.addressee? ≠ some name) (ht : step.taken? ≠ some name) :
    (s.step step).2.queries.get? name = some q := by
  have hstep := get?_step hq (Step.keeps_of_foreign ha ht)
  rw [Step.event?_of_foreign ha] at hstep
  exact hstep

/-- A step that only reads does nothing but draw names. -/
theorem step_of_reads {step : Step} (h : step.Reads) :
    (s.step step).2 = { s with draws := s.draws.addAll (step.asks s.queries) } := by
  rw [← draws_step, ← queries_step s h]

theorem get?_run_of_spares {steps : List Step} (hq : s.queries.get? name = some q)
    (h : ∀ step ∈ steps, step.Spares name) : (s.run steps).2.queries.get? name = some q := by
  induction steps generalizing s with
  | nil => exact hq
  | cons step steps ih =>
    obtain ⟨hstep, hsteps⟩ := List.forall_mem_cons.mp h
    have hnext : (s.step step).2.queries.get? name = some q := by
      rcases hstep with hreads | ⟨ha, ht⟩
      · exact get?_step_of_reads hq hreads
      · exact get?_step_of_foreign hq ha ht
    exact ih hnext hsteps

end Session

/-! ## Compiling again -/

/-- Replies to compiling a query twice: the same error, or the same values and texts that differ in
the names of the derived tables. -/
inductive Query.Recompiled (q : Query) : Reply → Reply → Prop
  | error (e : Error) : Recompiled q (.error e) (.error e)
  | statement (vs : List Value) {names names' : List String}
      (h : names.length = q.table.levels.length) (h' : names'.length = q.table.levels.length) :
      Recompiled q (.statement ⟨q.textWith names, vs⟩) (.statement ⟨q.textWith names', vs⟩)

/-- The reply to compiling a query. -/
theorem Session.reply_compile {s : Session} {name : String} {q : Query}
    (hq : s.queries.get? name = some q) :
    (s.step (.compile name)).1 =
      match (q.compile.run s.draws).1 with
      | .ok statement => .statement statement
      | .error e => .error e := by
  rw [step, answer, hq]
  dsimp only [compile]
  rcases q.compile.run s.draws with ⟨result, d⟩
  cases result <;> rfl

/-- Where a name stands for the same query, compiling it gives the same but for the names drawn. -/
theorem Query.recompiled {s s' : Session} {name : String} {q : Query}
    (hq : s.queries.get? name = some q) (hq' : s'.queries.get? name = some q) :
    q.Recompiled (s.step (.compile name)).1 (s'.step (.compile name)).1 := by
  obtain ⟨vs, hrun⟩ := q.exists_run_compile
  rw [Session.reply_compile hq, Session.reply_compile hq', hrun, hrun]
  cases hverdict : q.verdict q.table with
  | error e => exact .error e
  | ok _ => exact .statement vs (length_names hverdict _) (length_names hverdict _)

namespace Session

/-- **Queries do not reach into each other.** A step that is addressed to another query and does not
take this one leaves it as it is, whatever the step does to queries that this one was made from or
that were made from it. A step that reads, compiles or runs a query does nothing but draw names, and
to ask for the text of a statement alone does what compiling does. So after any number of such steps
the query is still there, and compiles as before: with the same error, or to the same values and a
text in which nothing but the names of its own derived tables is another. -/
theorem isolated {s : Session} {name : String} {q : Query} (hq : s.queries.get? name = some q) :
    (∀ step : Step, step.addressee? ≠ some name → step.taken? ≠ some name →
      (s.step step).2.queries.get? name = some q) ∧
    (∀ step : Step, step.Reads →
      (s.step step).2 = { s with draws := s.draws.addAll (step.asks s.queries) }) ∧
    s.toSql q = ((s.compile q).1.map toString, (s.step (.compile name)).2) ∧
    ∀ steps : List Step, (∀ step ∈ steps, step.Spares name) →
      (s.run steps).2.queries.get? name = some q ∧
      q.Recompiled (s.step (.compile name)).1 ((s.run steps).2.step (.compile name)).1 := by
  refine ⟨?_, ?_, toSql_eq_step_compile hq, ?_⟩
  · intro step ha ht
    exact get?_step_of_foreign hq ha ht
  · intro step h
    exact step_of_reads h
  · intro steps h
    have hlast := get?_run_of_spares hq h
    exact ⟨hlast, Query.recompiled hq hlast⟩

/-- The table, the source of a copy, the query looked into and the copy are changed or taken, and
the query is counted. Compiled again, only its derived table has another name. -/
theorem isolated_copy :
    ∃ (s : Session) (q : Query) (steps : List Step),
      s = (run {} [
        .create "a" .plain (.sequence "t") (.given (.name "a")),
        .create "b" .plain (.sequence "t") (.copyOf "a"),
        .call "b" (.filterIn .among "k" (.query "a")),
        .copy "c" "b"]).2 ∧
      steps = [
        .call "a" (.filter "x = ?" (.one (.int32 1))),
        .call "c" (.setTable (.moveOf "a")),
        .call "c" .reset,
        .run "b" .count fun _ => .ok []] ∧
      s.queries.get? "b" = some q ∧
      (∀ step ∈ steps, step.Spares "b") ∧
      (s.run steps).2.queries.get? "b" = some q ∧
      q.Recompiled (s.step (.compile "b")).1 ((s.run steps).2.step (.compile "b")).1 ∧
      (s.step (.compile "b")).1 = .statement
        ⟨"SELECT * FROM (SELECT * FROM a) AS t_1 WHERE (k IN (SELECT * FROM a))".toList, []⟩ ∧
      ((s.run steps).2.step (.compile "b")).1 = .statement
        ⟨"SELECT * FROM (SELECT * FROM a) AS t_3 WHERE (k IN (SELECT * FROM a))".toList, []⟩ := by
  have hspares : ∀ step ∈ ([
      .call "a" (.filter "x = ?" (.one (.int32 1))),
      .call "c" (.setTable (.moveOf "a")),
      .call "c" .reset,
      .run "b" .count fun _ => .ok []] : List Step), step.Spares "b" := by
    simp only [List.forall_mem_cons, Step.Spares, Step.addressee?, Step.taken?, TableRef.taken?]
    simp [Step.Reads]
  have hq : (run {} [
      .create "a" .plain (.sequence "t") (.given (.name "a")),
      .create "b" .plain (.sequence "t") (.copyOf "a"),
      .call "b" (.filterIn .among "k" (.query "a")),
      .copy "c" "b"]).2.queries.get? "b" = some _ := rfl
  obtain ⟨hlast, hcompiled⟩ := (isolated hq).2.2.2 _ hspares
  exact ⟨_, _, _, rfl, rfl, hq, hspares, hlast, hcompiled, by rfl, by rfl⟩

end Session

end SqlSelect
