/-!
# Names for derived tables

A derived table needs a name. Names come from a source that counts how often it was asked: the
`n`-th name of a sequence is a prefix and the number `n`. A prefix is given with each request, so
one sequence serves queries with different prefixes, and every request counts.

Sources are told apart by their names. The requests made so far, to all sources, are one `Draws`;
how often a source was asked is read off from it.

Numbers have no bound here. A counter that is a word of 64 bits gives the same ones as long as fewer
than `2 ^ 64` requests go to one source.
-/

namespace SqlSelect

/-! ## Sources -/

/-- Where names of derived tables come from. -/
inductive AliasSource where
  /-- A prefix and a number that counts the requests from one on. -/
  | sequence (name : String)
  /-- Any other rule: it gets the prefix and the number of the request. -/
  | custom (name : String) (spell : String → Nat → String)
  deriving Inhabited

namespace AliasSource

/-- What tells a source from others. -/
def name : AliasSource → String
  | .sequence n => n
  | .custom n _ => n

/-- The name that answers the `n`-th request. -/
def spell : AliasSource → String → Nat → String
  | .sequence _, start, n => start ++ toString n
  | .custom _ rule, start, n => rule start n

end AliasSource

/-! ## Requests -/

/-- One request: to which source it went, and the prefix it gave. -/
structure Request where
  source : String
  start : String
  deriving DecidableEq, Repr

/-- All requests so far, in order. -/
structure Draws where
  requests : List Request
  deriving DecidableEq, Inhabited

namespace Draws

/-- Nothing was asked for yet. -/
def empty : Draws := ⟨[]⟩

instance : EmptyCollection Draws := ⟨empty⟩

/-- How often a source was asked. -/
def count (d : Draws) (source : String) : Nat :=
  d.requests.countP fun request => request.source == source

/-- One more request. -/
def add (d : Draws) (request : Request) : Draws := ⟨d.requests ++ [request]⟩

theorem count_add (d : Draws) (request : Request) (source : String) :
    (d.add request).count source
      = if request.source = source then d.count source + 1 else d.count source := by
  by_cases h : request.source = source <;> simp [count, add, h]

end Draws

end SqlSelect
