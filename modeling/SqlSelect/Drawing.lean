import SqlSelect.Alias
import SqlSelect.Error

/-!
# Computations that draw names

Writing a statement may need names for derived tables and may fail. The requests for names are
state: those made before a failure stay made, so no number is given out twice.

What such a computation does is said by its `run` from the requests made before it: a result or an
error, and the requests made after it. There is one equation for each way to build a computation.
-/

namespace SqlSelect

/-- A computation that may ask for names and may fail; what was asked for stays asked for. -/
abbrev Drawing := ExceptT Error (StateM Draws)

/-- The next name from a source. -/
def AliasSource.draw (source : AliasSource) (start : String) : Drawing String := do
  modify fun d => d.add ⟨source.name, start⟩
  return source.spell start ((← get).count source.name)

namespace Drawing

/-! ## Running -/

theorem run_pure {α : Type} (a : α) (d : Draws) : (pure a : Drawing α).run d = (.ok a, d) := rfl

theorem run_lift {α : Type} (x : Except Error α) (d : Draws) :
    (liftM x : Drawing α).run d = (x, d) := rfl

/-- The second computation runs from where the first ended, unless the first failed. -/
theorem run_bind {α β : Type} (x : Drawing α) (f : α → Drawing β) (d : Draws) :
    (x >>= f).run d =
      match x.run d with
      | (.ok a, d) => (f a).run d
      | (.error e, d) => (.error e, d) := by
  show ((x.run >>= ExceptT.bindCont f : StateM Draws _) d) = _
  show (match x.run d with | (r, d) => (ExceptT.bindCont f r : StateM Draws _) d) = _
  rcases x.run d with ⟨r, d⟩
  cases r <;> rfl

/-- A source answers with the name of the number that comes next, and the request is kept. -/
theorem run_draw (source : AliasSource) (start : String) (d : Draws) :
    (source.draw start).run d
      = (.ok (source.spell start (d.count source.name + 1)), d.add ⟨source.name, start⟩) := by
  have h := Draws.count_add d ⟨source.name, start⟩ source.name
  rw [if_pos rfl] at h
  rw [← h]
  rfl

end Drawing

end SqlSelect
