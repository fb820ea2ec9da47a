import SqlSelect.Query.Membership

/-!
# Calls as data

Whatever can be done to a query is a `Call`. Where a call takes a table, columns or a relation, the
type of that argument is a parameter: a call whose arguments are at hand is a `Change`, one whose
arguments still have to be looked up is turned into a change by `Call.traverse`.

A change that is refused leaves the query as it was; only names drawn on the way stay drawn.
-/

namespace SqlSelect

/-- Something done to a query, its arguments of the types `τ`, `κ` and `ρ`. -/
inductive Call (τ κ ρ : Type) where
  | setTable (table : τ)
  | setAliases (aliases : AliasSource)
  | select (columns : κ)
  | filter (sql : String) (values : Items Value)
  | filterIn (m : Membership) (column : String) (relation : ρ)
  | groupBy (columns : κ)
  | groupByHaving (columns : κ) (having : String) (values : Items Value)
  | orderBy (terms : Items Term)
  | setLimit (n : Quantity)
  | setOffset (n : Quantity)
  | paginate (page : Page)
  | setOption (key : String) (value : OptionValue)
  | setProcessor (processor : Record → Record)
  | reset
  deriving Inhabited

/-- A call with its arguments at hand. -/
abbrev Change := Call Table Selection Relation

/-- Looks up the arguments of a call, each kind by a function of its own. -/
def Call.traverse {m : Type → Type} [Monad m] {τ κ ρ τ' κ' ρ' : Type} (table : τ → m τ')
    (columns : κ → m κ') (relation : ρ → m ρ') : Call τ κ ρ → m (Call τ' κ' ρ')
  | .setTable t => return .setTable (← table t)
  | .setAliases source => return .setAliases source
  | .select cs => return .select (← columns cs)
  | .filter sql vs => return .filter sql vs
  | .filterIn m column r => return .filterIn m column (← relation r)
  | .groupBy cs => return .groupBy (← columns cs)
  | .groupByHaving cs having vs => return .groupByHaving (← columns cs) having vs
  | .orderBy terms => return .orderBy terms
  | .setLimit n => return .setLimit n
  | .setOffset n => return .setOffset n
  | .paginate page => return .paginate page
  | .setOption key value => return .setOption key value
  | .setProcessor f => return .setProcessor f
  | .reset => return .reset

/-- The query after a change. -/
def Change.apply : Change → Query → Drawing Query
  | .setTable t, q => return q.setTable t
  | .setAliases source, q => return q.setAliases source
  | .select cs, q => return q.select cs
  | .filter sql vs, q => return q.filter sql vs
  | .filterIn m column r, q => q.filterIn m column r
  | .groupBy cs, q => return q.groupBy cs
  | .groupByHaving cs having vs, q => return q.groupByHaving cs having vs
  | .orderBy terms, q => q.orderBy terms
  | .setLimit n, q => return q.setLimit n
  | .setOffset n, q => return q.setOffset n
  | .paginate page, q => return q.paginate page
  | .setOption key value, q => return q.setOption key value
  | .setProcessor f, q => return q.setProcessor f
  | .reset, q => return q.reset

end SqlSelect
