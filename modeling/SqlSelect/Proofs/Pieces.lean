import Mathlib.Data.List.Infix
import SqlSelect.Query.Compile

/-!
# Pieces of statements

A piece of SQL stands in another one if that one is made by putting something before it and something
after it (`Fragment.Within`). Then its text is found there unbroken, and its values among the values
at the places of its placeholders. In the statement of a query stand what it selects from and each of
its predicates.
-/

namespace SqlSelect

namespace Fragment

/-- A piece stands in another one, its values at their places. -/
def Within (a f : Fragment) : Prop := ∃ before after, f = before ++ a ++ after

variable {a f : Fragment}

theorem within_self (a : Fragment) : a.Within a := ⟨∅, ∅, by ext1 <;> simp⟩

theorem Within.left (h : a.Within f) (g : Fragment) : a.Within (f ++ g) := by
  obtain ⟨before, after, rfl⟩ := h
  exact ⟨before, after ++ g, by ext1 <;> simp⟩

theorem Within.right (h : a.Within f) (g : Fragment) : a.Within (g ++ f) := by
  obtain ⟨before, after, rfl⟩ := h
  exact ⟨g ++ before, after, by ext1 <;> simp⟩

theorem Within.trans {g : Fragment} (h : a.Within f) (hf : f.Within g) : a.Within g := by
  obtain ⟨before, after, rfl⟩ := hf
  exact (h.right before).left after

theorem Within.isInfix_text (h : a.Within f) : a.text <:+: f.text := by
  obtain ⟨before, after, rfl⟩ := h
  exact List.infix_append before.text a.text after.text

theorem within_join (separator : String) : ∀ {fs : List Fragment}, a ∈ fs →
    a.Within (join separator fs)
  | [f], h => by
    rw [join_singleton, List.mem_singleton.mp h]
    exact within_self f
  | f :: g :: fs, h => by
    rw [join_cons_cons]
    rcases List.mem_cons.mp h with rfl | h
    · exact ((within_self a).left _).left _
    · exact (within_join separator h).right _

end Fragment

namespace Select

/-- What is selected from and the predicates stand in the statement, one behind the other. -/
theorem within_statement (s : Select) (source : Fragment) :
    (source ++ s.whereClause).Within (s.statement source) := by
  refine ⟨.sql "SELECT " ++ Column.selected s.adapter s.columns ++ .sql " FROM ",
    s.groupClause ++ OrderItem.clause s.adapter s.order ++ countClause " LIMIT " s.limit ++
      countClause " OFFSET " s.offset, ?_⟩
  ext1 <;> simp [statement]

theorem source_within_statement (s : Select) (source : Fragment) :
    source.Within (s.statement source) :=
  ((Fragment.within_self source).left _).trans (s.within_statement source)

theorem predicate_within_statement {s : Select} {predicate : Fragment}
    (h : predicate ∈ s.predicates) (source : Fragment) :
    predicate.Within (s.statement source) := by
  have hclause : predicate.Within s.whereClause := by
    rw [whereClause, if_neg (by simpa using List.ne_nil_of_mem h)]
    exact ((Fragment.within_join _ h).right _).left _
  exact (hclause.right _).trans (s.within_statement source)

end Select

/-- Each predicate of a query stands in its statement. -/
theorem Query.predicate_within_compile {q : Query} {predicate : Fragment}
    (h : predicate ∈ q.predicates) {before after : Draws} {f : Fragment}
    (hf : q.compile.run before = (.ok f, after)) : predicate.Within f := by
  obtain ⟨s, t⟩ := q
  cases Select.compiles_of_run hf <;> exact Select.predicate_within_statement h _

end SqlSelect
