import SqlSelect.Proofs.Processors

/-!
# A query that is reset is as good as new

A query that is reset keeps its table and what steers it, and so does a new query that is made of it
on its own table. The two differ in one thing: what is done to the rows stays with the first and is
not taken over by the second. No statement depends on that, so nobody who only reads statements can
tell the two apart (`Session.reset_fresh`).
-/

namespace SqlSelect

namespace Query

/-- The clauses that a reset clears are those that a new query does not have. -/
theorem reset_eq_sub (q : Query) : q.reset = { q.sub q.table with processor := q.processor } := rfl

theorem unprocessed_reset (q : Query) : q.reset.unprocessed = (q.sub q.table).unprocessed := rfl

theorem compile_reset (q : Query) : q.reset.compile = (q.sub q.table).compile := by
  rw [← q.reset.compile_unprocessed, unprocessed_reset, compile_unprocessed]

theorem statement_reset (q : Query) (source : Fragment) :
    q.reset.statement source = .sql "SELECT * FROM " ++ source := by
  ext1 <;> simp [reset, Select.statement, Select.whereClause, Select.groupClause,
    Select.countClause, Column.selected, OrderItem.clause]

/-- After a reset nothing is written but what is selected from. -/
theorem run_compile_reset (q : Query) (d : Draws) :
    q.reset.compile.run d =
      (((q.toSelect.source q.table).run d).1.map (.sql "SELECT * FROM " ++ ·),
        ((q.toSelect.source q.table).run d).2) := by
  have hsource : q.reset.toSelect.source q.table = q.toSelect.source q.table := by
    cases q.table <;> rfl
  have hstatement : q.reset.toSelect.statement = (.sql "SELECT * FROM " ++ ·) := by
    funext source
    exact q.statement_reset source
  rw [← hsource, ← hstatement]
  exact q.reset.toSelect.run_compile_source q.table d

end Query

namespace Session

/-- **A query that is reset is as good as new.** It is the query that can be made of it on its own
table, but that what is done to the rows stays. To reset it once more does nothing. The strict check
passes it, and whatever names were drawn before, it compiles as the new query does, to what is
selected from and nothing else. And if the new query takes its place, then whatever steps follow, the
replies are the same but for what is done to the rows, and every query of the session compiles to the
same in the end, with the same names drawn. -/
theorem reset_fresh {s : Session} {name : String} {q : Query} (hq : s.queries.get? name = some q) :
    s.step (.call name .reset) = (.query q.reset, s.store name q.reset) ∧
    s.step (.sub name name (.tableOf name))
      = (.query (q.sub q.table), s.store name (q.sub q.table)) ∧
    q.reset = { q.sub q.table with processor := q.processor } ∧
    (q.reset.adapter = q.adapter ∧ q.reset.table = q.table ∧ q.reset.options = q.options ∧
      q.reset.aliases = q.aliases ∧ q.reset.processor = q.processor) ∧
    q.reset.reset = q.reset ∧
    q.reset.checkHaving = .ok () ∧
    (∀ d : Draws, q.reset.compile.run d = (q.sub q.table).compile.run d ∧
      q.reset.compile.run d =
        (((q.toSelect.source q.table).run d).1.map (.sql "SELECT * FROM " ++ ·),
          ((q.toSelect.source q.table).run d).2)) ∧
    ∀ steps : List Step,
      let x := (s.step (.call name .reset)).2.run steps
      let y := (s.step (.sub name name (.tableOf name))).2.run steps
      x.1.map Reply.unprocessed = y.1.map Reply.unprocessed ∧
      ∀ other : String, (x.2.step (.compile other)).1 = (y.2.step (.compile other)).1 ∧
        (x.2.step (.compile other)).2.draws = (y.2.step (.compile other)).2.draws := by
  have hreset : s.step (.call name .reset) = (.query q.reset, s.store name q.reset) := by
    have hresolve : CallRef.resolve s.queries .reset = .ok .reset := rfl
    rw [step_call hq hresolve rfl]
    rfl
  have hsub : s.step (.sub name name (.tableOf name))
      = (.query (q.sub q.table), s.store name (q.sub q.table)) := by
    rw [step, answer, hq]
    dsimp only
    rw [make, TableRef.resolve, findQuery, hq]
    rfl
  refine ⟨hreset, hsub, q.reset_eq_sub, ⟨rfl, rfl, rfl, rfl, rfl⟩, rfl, rfl,
    fun d => ⟨by rw [q.compile_reset], q.run_compile_reset d⟩, ?_⟩
  intro steps
  dsimp only
  rw [hreset, hsub]
  have hstart : (s.store name q.reset).unprocessed = (s.store name (q.sub q.table)).unprocessed := by
    rw [store_unprocessed, store_unprocessed, q.unprocessed_reset]
  obtain ⟨hreplies, hlast⟩ := run_congr hstart steps
  exact ⟨hreplies, fun other => step_compile_congr hlast other⟩

/-- A query that the strict check refuses, on a query with a value. After the reset it looks into
itself. -/
theorem reset_fresh_strict :
    ∃ (s : Session) (q : Query) (steps : List Step),
      s = (run {} [
        .create "a" .plain (.sequence "t") (.given (.name "a")),
        .call "a" (.filter "x = ?" (.one (.int32 1))),
        .create "b" .plain (.sequence "t") (.copyOf "a"),
        .call "b" (.setOption strictKey (.bool true)),
        .call "b" (.groupByHaving (.given .all) "n > ?" (.one (.int32 2))),
        .call "b" (.setLimit (3 : Int32)),
        .call "b" (.setProcessor fun _ => ∅)]).2 ∧
      steps = [.call "b" (.filterIn .among "k" (.query "b")), .run "b" .get fun _ => .ok [∅]] ∧
      s.queries.get? "b" = some q ∧
      (s.step (.compile "b")).1 = .error .orphanHaving ∧
      q.reset.compile.run s.draws = (q.sub q.table).compile.run s.draws ∧
      ((s.step (.call "b" .reset)).2.step (.compile "b")).1 = .statement
        ⟨"SELECT * FROM (SELECT * FROM a WHERE (x = ?)) AS t_1".toList, [.int32 1]⟩ ∧
      (((s.step (.call "b" .reset)).2.run steps).2.step (.compile "b")).1
        = (((s.step (.sub "b" "b" (.tableOf "b"))).2.run steps).2.step (.compile "b")).1 ∧
      ∃ text, (((s.step (.call "b" .reset)).2.run steps).2.step (.compile "b")).1
        = .statement ⟨text, [.int32 1, .int32 1]⟩ := by
  have hq : (run {} [
      .create "a" .plain (.sequence "t") (.given (.name "a")),
      .call "a" (.filter "x = ?" (.one (.int32 1))),
      .create "b" .plain (.sequence "t") (.copyOf "a"),
      .call "b" (.setOption strictKey (.bool true)),
      .call "b" (.groupByHaving (.given .all) "n > ?" (.one (.int32 2))),
      .call "b" (.setLimit (3 : Int32)),
      .call "b" (.setProcessor fun _ => ∅)]).2.queries.get? "b" = some _ := rfl
  obtain ⟨-, -, -, -, -, -, hcompile, hsteps⟩ := reset_fresh hq
  exact ⟨_, _, _, rfl, rfl, hq, by rfl, (hcompile _).1, by rfl, ((hsteps _).2 "b").1, _, by rfl⟩

end Session

end SqlSelect
