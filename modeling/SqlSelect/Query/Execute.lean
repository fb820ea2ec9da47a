import SqlSelect.Query.Compile

/-!
# Running queries

A query runs by handing its statement to an executor, which answers with rows or with an error. What
was handed over, and which names were asked for, is kept beside the result: a run that fails before
its statement is complete hands over nothing.

Counting wraps the query: the whole of it, limit and offset included, becomes a derived table whose
rows are counted.
-/

namespace SqlSelect

/-- Answers a statement with rows or with an error. -/
abbrev Executor := Fragment → Except Error (List Record)

/-- What running queries leaves behind. -/
structure Trace where
  draws : Draws
  /-- The statements that were handed over, in order. -/
  sent : List Fragment := []

/-- A computation that may draw names and hand over statements, and may fail. -/
abbrev Running := ExceptT Error (StateM Trace)

namespace Running

/-- Draws names as part of a run. -/
def drawing {α : Type} (x : Drawing α) : Running α := do
  let (result, draws) := x.run (← get).draws
  modify fun t => { t with draws }
  result

/-- Hands a statement over and takes the answer. -/
def send (executor : Executor) (statement : Fragment) : Running (List Record) := do
  modify fun t => { t with sent := t.sent ++ [statement] }
  executor statement

end Running

namespace Query

/-! ## Rows -/

/-- The rows as the executor gives them. -/
def fetch (q : Query) (executor : Executor) : Running (List Record) := do
  Running.send executor (← Running.drawing q.compile)

/-- A row as the query gives it. -/
def process (q : Query) (row : Record) : Record :=
  match q.processor with
  | none => row
  | some f => f row

/-- The rows as the query gives them. -/
def get (q : Query) (executor : Executor) : Running (List Record) := do
  return (← q.fetch executor).map q.process

/-- The query for one row. -/
def single (q : Query) : Query := { q with limit := 1 }

/-- The first row, as the query gives it, if there is one. -/
def getOne (q : Query) (executor : Executor) : Running (Option Record) := do
  return (← q.single.get executor).head?

/-! ## Counting -/

/-- The query for the number of rows. -/
def counter (q : Query) : Query :=
  (q.sub q.asTable).select (.columns (.one (.raw "count(*)")))

/-- The number that the first column of the first row holds, zero if there is no row. -/
def readCount : List Record → Except Error Int64
  | [] => .ok 0
  | row :: _ =>
    match row.values with
    | [] => .error .countWithoutColumn
    | value :: _ =>
      match value.asInt64 with
      | some n => .ok n
      | none => .error (.countNotInteger value)

/-- How many rows there are. -/
def count (q : Query) (executor : Executor) : Running Int64 := do
  readCount (← q.counter.fetch executor)

end Query

end SqlSelect
