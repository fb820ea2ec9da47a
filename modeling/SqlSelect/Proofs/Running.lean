import SqlSelect.Session

/-!
# What a run does

Each way to run a query compiles one query, hands over its statement if there is one, and reads the
answer: the query itself, the query for one row, or the query that counts. So a run is said by two
functions, the query that is sent (`Entry.sends`) and what is read from the rows (`Entry.read`), and
by what fetching does (`Query.run_fetch`, `Session.execute_eq`).
-/

namespace SqlSelect

/-! ## Fetching -/

/-- The second computation runs from where the first ended, unless the first failed. -/
theorem Running.run_bind {α β : Type} (x : Running α) (f : α → Running β) (t : Trace) :
    (x >>= f).run t =
      match x.run t with
      | (.ok a, t) => (f a).run t
      | (.error e, t) => (.error e, t) := by
  show ((x.run >>= ExceptT.bindCont f : StateM Trace _) t) = _
  show (match x.run t with | (r, t) => (ExceptT.bindCont f r : StateM Trace _) t) = _
  rcases x.run t with ⟨r, t⟩
  cases r <;> rfl

theorem Running.run_lift {α : Type} (x : Except Error α) (t : Trace) :
    (liftM x : Running α).run t = (x, t) := rfl

theorem Running.run_drawing {α : Type} (x : Drawing α) (t : Trace) :
    (Running.drawing x).run t = ((x.run t.draws).1, { t with draws := (x.run t.draws).2 }) := by
  have hget : (get : Running Trace).run t = (.ok t, t) := rfl
  rw [Running.drawing, Running.run_bind, hget]
  dsimp only
  rcases x.run t.draws with ⟨r, d⟩
  cases r <;> rfl

/-- A query that does not compile sends nothing; one that does sends its statement. -/
theorem Query.run_fetch (q : Query) (executor : Executor) (t : Trace) :
    (q.fetch executor).run t =
      match q.compile.run t.draws with
      | (.error e, d) => (.error e, { t with draws := d })
      | (.ok s, d) => (executor s, { draws := d, sent := t.sent ++ [s] }) := by
  rw [Query.fetch, Running.run_bind, Running.run_drawing]
  rcases q.compile.run t.draws with ⟨r, d⟩
  cases r <;> rfl

/-! ## Ways to run -/

/-- The query whose statement is sent. -/
def Entry.sends (q : Query) : Entry → Query
  | .fetch | .get => q
  | .getOne => q.single
  | .count => q.counter

/-- What is read from the rows. -/
def Entry.read (q : Query) (rows : List Record) : Entry → Except Error Outcome
  | .fetch => .ok (.rows rows)
  | .get => .ok (.rows (rows.map q.process))
  | .getOne => .ok (.row (rows.map q.process).head?)
  | .count => (Query.readCount rows).map .count

/-- **Every way to run a query fetches once and reads the rows.** -/
theorem Session.run_outcome (q : Query) (executor : Executor) (entry : Entry) (t : Trace) :
    (outcome q executor entry).run t =
      match ((entry.sends q).fetch executor).run t with
      | (.ok rows, t) => (entry.read q rows, t)
      | (.error e, t) => (.error e, t) := by
  cases entry with
  | fetch =>
    rw [outcome, Running.run_bind, Entry.sends]
    rcases (q.fetch executor).run t with ⟨r, t⟩
    cases r <;> rfl
  | get =>
    rw [outcome, Query.get, Running.run_bind, Running.run_bind, Entry.sends]
    rcases (q.fetch executor).run t with ⟨r, t⟩
    cases r <;> rfl
  | getOne =>
    rw [outcome, Query.getOne, Query.get, Running.run_bind, Running.run_bind, Running.run_bind,
      Entry.sends]
    rcases (q.single.fetch executor).run t with ⟨r, t⟩
    cases r <;> rfl
  | count =>
    rw [outcome, Query.count, Running.run_bind, Running.run_bind, Entry.sends]
    rcases (q.counter.fetch executor).run t with ⟨r, t⟩
    cases r with
    | error e => rfl
    | ok rows =>
      dsimp only [Entry.read]
      rw [Running.run_lift]
      cases Query.readCount rows <;> rfl

/-- **What is sent and what is answered.** The executor gets nothing if there is no statement. -/
theorem Session.execute_eq (s : Session) (q : Query) (entry : Entry) (executor : Executor) :
    s.execute q entry executor =
      match (entry.sends q).compile.run s.draws with
      | (.error e, d) => (.ran (.error e) [] q, { s with draws := d })
      | (.ok f, d) => (.ran (executor f >>= fun rows => entry.read q rows) [f] q,
          { s with draws := d }) := by
  unfold execute
  rw [run_outcome, Query.run_fetch]
  dsimp only
  rcases (entry.sends q).compile.run s.draws with ⟨result, d⟩
  cases result with
  | error e => rfl
  | ok f =>
    dsimp only [List.nil_append]
    cases executor f <;> rfl

end SqlSelect
