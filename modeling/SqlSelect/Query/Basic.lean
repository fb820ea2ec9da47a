import SqlSelect.Drawing
import SqlSelect.Group
import SqlSelect.Options
import SqlSelect.Order
import SqlSelect.Page
import SqlSelect.Quantity
import SqlSelect.Record

/-!
# Queries

A query selects rows from a table. What it says about the rows, its clauses, is a `Select`; what it
selects from is a `Table`: a name, a piece of SQL, or another query, then a derived table. A table
is therefore a chain of selects that ends in a name or a piece of SQL, and a query is one more
select in front of such a chain.

## Changes

Each function here changes a query and leaves the rest of it alone. Most clauses are replaced; only
predicates add up. The clauses keep lists: in which shape their items arrived is forgotten.
-/

namespace SqlSelect

/-! ## Parts of a query -/

/-- The clauses of a query, and what steers writing and running it. -/
structure Select where
  /-- How names are written. -/
  adapter : Adapter
  /-- Where the name of a derived table comes from. -/
  aliases : AliasSource
  options : Options := {}
  /-- The columns selected, none of them for every column. -/
  columns : List Column := []
  /-- What rows have to satisfy, all of it at once. -/
  predicates : List Fragment := []
  group : Option Group := none
  order : List OrderItem := []
  /-- How many rows are taken at most, zero for all. -/
  limit : UInt32 := 0
  /-- How many rows are skipped. -/
  offset : UInt32 := 0
  /-- What is done to each row that comes back. -/
  processor : Option (Record → Record) := none
  deriving Inhabited

/-- What a query selects from. -/
inductive Table where
  | name (n : String)
  | raw (sql : String)
  /-- A query as a table: its clauses and its own table. -/
  | derived (inner : Select) (table : Table)
  deriving Inhabited

/-- Whether a table is a query. -/
def Table.isDerived (t : Table) : Bool := t matches .derived _ _

/-- A table that is not a query. -/
inductive BaseTable where
  | name (n : String)
  | raw (sql : String)
  deriving DecidableEq, Inhabited

/-- What a query selects from when it selects from such a table. -/
def BaseTable.toTable : BaseTable → Table
  | .name n => .name n
  | .raw sql => .raw sql

/-- A select and its table. -/
@[ext] structure Query extends Select where
  table : Table
  deriving Inhabited

namespace Query

/-! ## Making queries -/

/-- A query without clauses. -/
def new (adapter : Adapter) (aliases : AliasSource) (table : Table) : Query :=
  { adapter, aliases, table }

/-- The query as a table for another one. -/
def asTable (q : Query) : Table := .derived q.toSelect q.table

/--
A query without clauses on a table, which writes names, draws aliases and is steered as this one.
It does not take over what is done to the rows.
-/
def sub (q : Query) (table : Table) : Query :=
  { new q.adapter q.aliases table with options := q.options }

/-! ## Changing one thing -/

/-- Another table. -/
def setTable (q : Query) (table : Table) : Query := { q with table }

/-- Another source of names for derived tables. -/
def setAliases (q : Query) (aliases : AliasSource) : Query := { q with aliases }

/-- Other columns. -/
def select (q : Query) (columns : Selection) : Query := { q with columns := columns.toList }

/-- One more predicate. -/
def addPredicate (q : Query) (predicate : Fragment) : Query :=
  { q with predicates := q.predicates ++ [predicate] }

/-- One more predicate, its text as it is. -/
def filter (q : Query) (sql : String) (values : Items Value) : Query :=
  q.addPredicate ⟨sql.toList, values.toList⟩

/-- Other columns to group by, without a predicate on the groups. -/
def groupBy (q : Query) (columns : Selection) : Query :=
  { q with group := some (.ofColumns columns.toList) }

/-- Other columns to group by, with a predicate on the groups. -/
def groupByHaving (q : Query) (columns : Selection) (having : String) (values : Items Value) :
    Query :=
  { q with group := some ((Group.ofColumns columns.toList).withHaving having values.toList) }

/-- Another order, unless one of its terms is refused. -/
def orderBy (q : Query) (terms : Items Term) : Except Error Query := do
  return { q with order := ← Term.resolveAll terms.toList }

/-- Another number of rows to take. -/
def setLimit (q : Query) (n : Quantity) : Query := { q with limit := n.count }

/-- Another number of rows to skip. -/
def setOffset (q : Query) (n : Quantity) : Query := { q with offset := n.count }

/-- The rows of one page. -/
def paginate (q : Query) (page : Page) : Query :=
  { q with limit := page.limit, offset := page.offset }

/-- An option set to a value. -/
def setOption (q : Query) (key : String) (value : OptionValue) : Query :=
  { q with options := q.options.set key value }

/-- Something else to be done to each row that comes back. -/
def setProcessor (q : Query) (processor : Record → Record) : Query :=
  { q with processor := some processor }

/-- No clauses any more. What steers writing and running the query stays, and so does its table. -/
def reset (q : Query) : Query :=
  { q with
    columns := []
    predicates := []
    group := none
    order := []
    limit := 0
    offset := 0 }

end Query

end SqlSelect
