import SqlSelect.Query.Call
import SqlSelect.Query.Execute

/-!
# Sessions

A session holds queries under names. Its steps make queries, change them and run them, and a query
may be used in another one: as a table, for its columns, or as a relation. What is used is what the
name stands for at that moment; from then on the two have nothing to do with each other.

All queries of a session draw from the same sources of names. That, and the queries themselves, is
all a step can change.
-/

namespace SqlSelect

/-! ## References -/

/-- A table of a step. A query comes in by its name only. -/
inductive TableRef where
  | given (table : BaseTable)
  /-- A query as a table. -/
  | copyOf (query : String)
  /-- A query as a table, its name given up. -/
  | moveOf (query : String)
  /-- The table of a query. -/
  | tableOf (query : String)

/-- Columns of a step. -/
inductive SelectionRef where
  | given (columns : Selection)
  /-- The columns of a query. -/
  | columnsOf (query : String)

/-- A relation of a step. -/
inductive RelationRef where
  | values (vs : Items Value)
  /-- A query to look into. -/
  | query (query : String)

/-- The query of a name, or else the name. -/
def findQuery (queries : OrderedMap Query) (name : String) : Except String Query :=
  match queries.get? name with
  | some q => .ok q
  | none => .error name

/-- The table that is meant. -/
def TableRef.resolve (queries : OrderedMap Query) : TableRef → Except String Table
  | .given table => .ok table.toTable
  | .copyOf name | .moveOf name => (findQuery queries name).map Query.asTable
  | .tableOf name => (findQuery queries name).map Query.table

/-- The queries that are left when a table was taken. -/
def TableRef.leave (queries : OrderedMap Query) : TableRef → OrderedMap Query
  | .moveOf name => queries.erase name
  | .given _ | .copyOf _ | .tableOf _ => queries

/-- The columns that are meant. -/
def SelectionRef.resolve (queries : OrderedMap Query) : SelectionRef → Except String Selection
  | .given columns => .ok columns
  | .columnsOf name =>
    (findQuery queries name).map fun q => .columns (.many q.columns)

/-- The relation that is meant. -/
def RelationRef.resolve (queries : OrderedMap Query) : RelationRef → Except String Relation
  | .values vs => .ok (.values vs)
  | .query name => (findQuery queries name).map .query

/-- A call of a step. -/
abbrev CallRef := Call TableRef SelectionRef RelationRef

/-- The change that is meant. -/
def CallRef.resolve (queries : OrderedMap Query) (c : CallRef) : Except String Change :=
  c.traverse (TableRef.resolve queries) (SelectionRef.resolve queries)
    (RelationRef.resolve queries)

/-- The queries that are left when the arguments of a call were taken. -/
def CallRef.leave (queries : OrderedMap Query) : CallRef → OrderedMap Query
  | .setTable table => table.leave queries
  | _ => queries

/-! ## Steps and replies -/

/-- The ways to run a query. -/
inductive Entry where
  | fetch
  | get
  | getOne
  | count
  deriving DecidableEq, Repr

/-- What a run gives. -/
inductive Outcome where
  | rows (rs : List Record)
  | row (r : Option Record)
  | count (n : Int64)

/-- One step of a session. The query it is about is named first. -/
inductive Step where
  /-- A new query. -/
  | create (name : String) (adapter : Adapter) (aliases : AliasSource) (table : TableRef)
  /-- A new query that is steered as another one. -/
  | sub (name of : String) (table : TableRef)
  /-- A copy of another query. -/
  | copy (name of : String)
  | call (name : String) (c : CallRef)
  /-- A name from a source, drawn for no query. -/
  | draw (aliases : AliasSource) (start : String)
  | readOption (name key : String)
  | quote (name : String) (identifier : String)
  /-- The query as it is. -/
  | look (name : String)
  | compile (name : String)
  /-- Whether two queries compile to equal statements. -/
  | compare (name other : String)
  | run (name : String) (entry : Entry) (executor : Executor)

/-- What a step answers. -/
inductive Reply where
  | query (q : Query)
  | drawn (name : String)
  | option (value : OptionValue)
  | quoted (text : List Char)
  | statement (s : Fragment)
  | equal (b : Bool)
  /-- The outcome of a run, the statements it handed over and the query after it. -/
  | ran (result : Except Error Outcome) (sent : List Fragment) (after : Query)
  | error (e : Error)
  /-- There is no query of that name. -/
  | unknown (name : String)

/-! ## Taking steps -/

/-- Queries by name, and the requests for names that were made. -/
structure Session where
  queries : OrderedMap Query := ∅
  draws : Draws := ∅

namespace Session

/-- A query under a name, in place of the one it stood for. -/
def store (s : Session) (name : String) (q : Query) : Session :=
  { s with queries := s.queries.insert name q }

/-- Answers by a query, if there is one of that name. -/
def answer (s : Session) (name : String) (reply : Query → Reply × Session) : Reply × Session :=
  match s.queries.get? name with
  | some q => reply q
  | none => (.unknown name, s)

/-- Stores a new query on a table. -/
def make (s : Session) (name : String) (table : TableRef) (query : Table → Query) :
    Reply × Session :=
  match table.resolve s.queries with
  | .error missing => (.unknown missing, s)
  | .ok t => (.query (query t), { s with queries := table.leave s.queries }.store name (query t))

/-- Does something to a query. A refused change leaves it as it is. -/
def change (s : Session) (name : String) (c : CallRef) : Reply × Session :=
  match c.resolve s.queries with
  | .error missing => (.unknown missing, s)
  | .ok change =>
    { s with queries := c.leave s.queries }.answer name fun q =>
      match (change.apply q).run s.draws with
      | (.ok after, draws) =>
        (.query after, { queries := c.leave s.queries, draws : Session }.store name after)
      | (.error e, draws) => (.error e, { queries := c.leave s.queries, draws })

/-- Compiles a query. -/
def compile (s : Session) (q : Query) : Except Error Fragment × Session :=
  let (result, draws) := q.compile.run s.draws
  (result, { s with draws })

/-- Compiles a query for the text of its statement alone. -/
def toSql (s : Session) (q : Query) : Except Error String × Session :=
  let (result, draws) := q.toSql.run s.draws
  (result, { s with draws })

/-- Compiles two queries one after the other and compares the statements. -/
def compare (s : Session) (q other : Query) : Reply × Session :=
  let (first, s) := s.compile q
  let (second, s) := s.compile other
  match first, second with
  | .ok a, .ok b => (.equal (a.equal b), s)
  | .error e, _ | .ok _, .error e => (.error e, s)

/-- What running a query in one of the ways gives. -/
def outcome (q : Query) (executor : Executor) : Entry → Running Outcome
  | .fetch => return .rows (← q.fetch executor)
  | .get => return .rows (← q.get executor)
  | .getOne => return .row (← q.getOne executor)
  | .count => return .count (← q.count executor)

/-- Runs a query. -/
def execute (s : Session) (q : Query) (entry : Entry) (executor : Executor) : Reply × Session :=
  let (result, trace) := (outcome q executor entry).run { draws := s.draws }
  (.ran result trace.sent q, { s with draws := trace.draws })

/-- Takes one step. -/
def step (s : Session) : Step → Reply × Session
  | .create name adapter aliases table => s.make name table (Query.new adapter aliases)
  | .sub name of table => s.answer of fun q => s.make name table q.sub
  | .copy name of => s.answer of fun q => (.query q, s.store name q)
  | .call name c => s.change name c
  | .draw aliases start =>
    match (aliases.draw start).run s.draws with
    | (.ok name, draws) => (.drawn name, { s with draws })
    | (.error e, draws) => (.error e, { s with draws })
  | .readOption name key => s.answer name fun q =>
    match q.options.get key with
    | .ok value => (.option value, s)
    | .error e => (.error e, s)
  | .quote name identifier => s.answer name fun q =>
    (.quoted (q.adapter.quote identifier.toList), s)
  | .look name => s.answer name fun q => (.query q, s)
  | .compile name => s.answer name fun q =>
    match s.compile q with
    | (.ok statement, s) => (.statement statement, s)
    | (.error e, s) => (.error e, s)
  | .compare name other => s.answer name fun q => s.answer other fun o => s.compare q o
  | .run name entry executor => s.answer name fun q => s.execute q entry executor

/-- To ask for the text alone is to compile: the statement is shown by the text, and the same names
are drawn. -/
theorem toSql_eq_step_compile {s : Session} {name : String} {q : Query}
    (hq : s.queries.get? name = some q) :
    s.toSql q = ((s.compile q).1.map toString, (s.step (.compile name)).2) := by
  have hrun := q.run_toSql s.draws
  simp only [toSql, step, answer, hq, compile, hrun]
  rcases q.compile.run s.draws with ⟨x | f, e⟩ <;> rfl

/-- A call whose arguments are at hand, and that takes none of the queries away. -/
theorem step_call {s : Session} {name : String} {q : Query} {c : CallRef} {change : Change}
    (hq : s.queries.get? name = some q) (hresolve : c.resolve s.queries = .ok change)
    (hleave : c.leave s.queries = s.queries) :
    s.step (.call name c) =
      match (change.apply q).run s.draws with
      | (.ok after, draws) => (.query after, { s with draws }.store name after)
      | (.error e, draws) => (.error e, { s with draws }) := by
  show s.change name c = _
  rcases hrun : (change.apply q).run s.draws with ⟨x | after, draws⟩ <;>
    simp only [Session.change, hresolve, hleave, answer, hq, hrun]

/-- Takes steps in order, with a reply to each. -/
def run (s : Session) : List Step → List Reply × Session
  | [] => ([], s)
  | step :: steps =>
    let (reply, s) := s.step step
    let (replies, s) := s.run steps
    (reply :: replies, s)

end Session

end SqlSelect
