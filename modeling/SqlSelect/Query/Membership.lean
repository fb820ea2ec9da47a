import SqlSelect.Query.Compile

/-!
# Predicates on membership

A column can be required to be, or not to be, among some values or among the rows of a query. The
predicate is written when it is asked for: a query is compiled then, its derived tables get their
names then, and what happens to it later has no effect. If it does not compile there is no
predicate, but the names stay drawn.
-/

namespace SqlSelect

/-- Whether the column has to be among the others or must not be. -/
inductive Membership where
  | among
  | notAmong
  deriving DecidableEq, Repr, Inhabited

/-- The operator as it is written. -/
def Membership.operator : Membership → String
  | .among => "IN"
  | .notAmong => "NOT IN"

/-- What a column is looked up in. -/
inductive Relation where
  | values (vs : Items Value)
  | query (q : Query)
  deriving Inhabited

namespace Relation

/-- Whether there is nothing to look up; a query may always have rows. -/
def isEmpty : Relation → Bool
  | .values vs => vs.isEmpty
  | .query _ => false

/-- What stands between the parentheses. A query is written by its own adapter. -/
def fragment : Relation → Drawing Fragment
  | .values vs => return .placeholders vs.toList
  | .query q => q.compile

end Relation

/-- The predicate as an adapter writes it. -/
def Membership.predicate (m : Membership) (a : Adapter) (column : String) (list : Fragment) :
    Fragment :=
  .name a column ++ .sql " " ++ .sql m.operator ++ .sql " (" ++ list ++ .sql ")"

/-- One more predicate: a column is, or is not, in a relation. -/
def Query.filterIn (q : Query) (m : Membership) (column : String) (relation : Relation) :
    Drawing Query := do
  return q.addPredicate (m.predicate q.adapter column (← relation.fragment))

end SqlSelect
