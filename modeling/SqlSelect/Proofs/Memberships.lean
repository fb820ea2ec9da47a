import SqlSelect.Proofs.Collecting
import SqlSelect.Proofs.Pieces
import SqlSelect.Proofs.Shapes

/-!
# Membership written by hand

A predicate on membership can be written by hand: the column as the adapter of the query writes it,
the operator, and in parentheses a question mark for each value or the statement of another query.
Asking for membership does just that (`filterIn_eq_filter`). The query ends up as after a filter with
the text written by hand and the values of the list, or those of the statement. If the other query
does not compile, that is the error, and the same names are drawn as when it is compiled.

So what is added is a text, and it stays as it is: whatever happens later to the other query, each
later statement holds the one of that moment, until the clauses are cleared.
-/

namespace SqlSelect

/-! ## The predicate by hand -/

/-- What stands between a column and a list. -/
def Membership.words : Membership → String
  | .among => " IN ("
  | .notAmong => " NOT IN ("

/-- A predicate on membership around what stands in the parentheses. -/
def Membership.byHand (m : Membership) (a : Adapter) (column : String) (list : List Char) : String :=
  String.ofList (a.quote column.toList ++ m.words.toList ++ list ++ [')'])

/-- So many question marks with commas between them. -/
def questionMarks (n : Nat) : List Char := ", ".toList.intercalate (List.replicate n ['?'])

theorem Fragment.placeholders_eq (vs : List Value) :
    placeholders vs = ⟨questionMarks vs.length, vs⟩ := by
  ext1
  · simp [placeholders, placeholder, questionMarks, Function.comp_def]
  · exact values_placeholders vs

theorem Membership.predicate_eq_byHand (m : Membership) (a : Adapter) (column : String)
    (list : Fragment) :
    m.predicate a column list = ⟨(m.byHand a column list.text).toList, list.values⟩ := by
  ext1 <;> cases m <;> simp [predicate, byHand, words, operator]

example : Membership.among.byHand .plain "k" (questionMarks 3) = "k IN (?, ?, ?)" := by decide

example : Membership.notAmong.byHand .plain "k" (questionMarks 0) = "k NOT IN ()" := by decide

/-! ## Asking for membership -/

namespace Query

theorem run_filterIn_values (q : Query) (m : Membership) (column : String) (vs : Items Value)
    (d : Draws) :
    (q.filterIn m column (.values vs)).run d
      = (.ok (q.filter (m.byHand q.adapter column (questionMarks vs.length)) vs), d) := by
  show (Except.ok (q.addPredicate (m.predicate q.adapter column (.placeholders vs.toList))), d) = _
  rw [m.predicate_eq_byHand, Fragment.placeholders_eq, vs.length_eq]
  rfl

theorem run_filterIn_query (q : Query) (m : Membership) (column : String) (r : Query) (d : Draws) :
    (q.filterIn m column (.query r)).run d =
      match r.compile.run d with
      | (.ok f, e) => (.ok (q.filter (m.byHand q.adapter column f.text) (.many f.values)), e)
      | (.error x, e) => (.error x, e) := by
  rw [filterIn, Drawing.run_bind, Relation.fragment]
  rcases r.compile.run d with ⟨x | f, e⟩
  · rfl
  · dsimp only
    rw [m.predicate_eq_byHand]
    rfl

end Query

/-! ## With the shapes kept -/

namespace Shaped

open Draft

/-- Values that are put behind others one by one keep the shape fitting. -/
theorem fitting_list (separator : String) : ∀ (vs : List Value) {w : Draft}, w.values.Fitting →
    (w.list placeholder separator vs).values.Fitting
  | [], _, h => h
  | [v], _, h => h.append (Items.fitting_ofList [v])
  | v :: v' :: vs, _, h => fitting_list separator (v' :: vs) (h.append (Items.fitting_ofList [v]))

/-- A predicate out of a draft is what was written, if the shape in the draft fits. -/
theorem Predicate.ofDraft_eq {write : Draft → Draft} {f : Fragment} (h : Writes write f)
    (hfits : (write {}).values.Fitting) : ofDraft (write {}) = ⟨f.text, .ofList f.values⟩ := by
  rw [← h.finish, ofDraft]
  exact congrArg (Predicate.mk (write {}).text) hfits

namespace Query

/-- Written into a draft, a predicate on membership is the one by hand. -/
theorem ofDraft_membership (a : Adapter) (m : Membership) (column : String)
    {write : Draft → Draft} {list : Fragment} (h : Writes write list)
    (hfits : (write (writeMembership a m column {})).values.Fitting) :
    Predicate.ofDraft ((write (writeMembership a m column {})).sql ")")
      = ⟨(m.byHand a column list.text).toList, .ofList list.values⟩ := by
  have hwrites : Writes (fun w => (write (writeMembership a m column w)).sql ")")
      (m.predicate a column list) :=
    ((writes_membership a m column).comp h).comp (writes_sql ")")
  rw [Predicate.ofDraft_eq hwrites hfits, m.predicate_eq_byHand]

theorem run_filterIn_values (q : Query) (m : Membership) (column : String) (vs : Items Value)
    (d : Draws) :
    (q.filterIn m column (.values vs)).run d
      = (q.change (.filter (m.byHand q.adapter column (questionMarks vs.length))
          (.ofList vs.toList))).run d := by
  have hwrites : Writes (list placeholder ", " vs.toList) ⟨questionMarks vs.length, vs.toList⟩ := by
    rw [Items.length_eq, ← Fragment.placeholders_eq]
    exact writes_list ", " writes_placeholder vs.toList
  have hfits := fitting_list ", " vs.toList (w := writeMembership q.adapter m column {}) rfl
  have h := ofDraft_membership q.adapter m column hwrites hfits
  dsimp only at h
  show (Except.ok (q.addPredicate (.ofDraft _)), d) = (.ok (q.addPredicate ⟨_, _⟩), d)
  rw [h]

theorem run_filterIn_query (q : Query) (m : Membership) (column : String) (r : Query) (d : Draws) :
    (q.filterIn m column (.query r)).run d =
      match r.compile.run d with
      | (.ok f, e) =>
        (q.change (.filter (m.byHand q.adapter column f.text) (.ofList f.values))).run e
      | (.error x, e) => (.error x, e) := by
  simp only [filterIn, Relation.write, Drawing.run_bind]
  rcases r.compile.run d with ⟨x | f, e⟩
  · rfl
  · have hfits : ((writeMembership q.adapter m column {}).statement f).values.Fitting :=
      Items.fitting_ofList f.values
    have h := ofDraft_membership q.adapter m column (writes_statement f) hfits
    show (Except.ok (q.addPredicate (.ofDraft _)), e) = (.ok (q.addPredicate ⟨_, _⟩), e)
    rw [h]

end Query

end Shaped

/-! ## In a session -/

namespace Session

variable {s : Session} {name other : String} {q r : Query}

/-- A filter is never refused and draws no names. -/
theorem step_filter (hq : s.queries.get? name = some q) (sql : String) (vs : Items Value) :
    s.step (.call name (.filter sql vs))
      = (.query (q.filter sql vs), s.store name (q.filter sql vs)) := by
  have hresolve : CallRef.resolve s.queries (.filter sql vs) = .ok (.filter sql vs) := rfl
  rw [step_call hq hresolve rfl]
  rfl

theorem step_filterIn_values (hq : s.queries.get? name = some q) (m : Membership) (column : String)
    (vs : Items Value) :
    s.step (.call name (.filterIn m column (.values vs)))
      = s.step (.call name
          (.filter (m.byHand q.adapter column (questionMarks vs.length)) vs)) := by
  have hresolve : CallRef.resolve s.queries (.filterIn m column (.values vs))
      = .ok (.filterIn m column (.values vs)) := rfl
  rw [step_call hq hresolve rfl, step_filter hq, Change.apply, q.run_filterIn_values]

theorem step_filterIn_query (hq : s.queries.get? name = some q)
    (hr : s.queries.get? other = some r) (m : Membership) (column : String) :
    s.step (.call name (.filterIn m column (.query other))) =
      match r.compile.run s.draws with
      | (.ok f, e) =>
        { s with draws := e }.step (.call name
          (.filter (m.byHand q.adapter column f.text) (.many f.values)))
      | (.error x, e) => (.error x, { s with draws := e }) := by
  have hresolve : CallRef.resolve s.queries (.filterIn m column (.query other))
      = .ok (.filterIn m column (.query r)) := by
    rw [CallRef.resolve, Call.traverse, RelationRef.resolve, findQuery, hr]
    rfl
  rw [step_call hq hresolve rfl, Change.apply, q.run_filterIn_query]
  rcases r.compile.run s.draws with ⟨x | f, e⟩
  · rfl
  · have hq' : { s with draws := e }.queries.get? name = some q := hq
    exact (step_filter hq' _ _).symm

end Session

/-! ## In later statements -/

/-- Predicates stay until the clauses are cleared. -/
theorem Query.mem_predicates_replay {q : Query} {predicate : Fragment} (h : predicate ∈ q.predicates)
    {history : List Event} (hreset : ∀ e ∈ history, e.isReset = false) :
    predicate ∈ (q.replay history).predicates := by
  induction history using List.reverseRecOn with
  | nil => exact h
  | append_singleton history e ih =>
    have hkept := ih fun e he => hreset e (List.mem_append_left _ he)
    have he : e.isReset = false := hreset e (List.mem_append_right _ (List.mem_singleton_self e))
    rw [replay_concat, after_eq, he]
    cases hp : e.predicate? (q.replay history).adapter with
    | none => exact hkept
    | some f => exact List.mem_append_left _ hkept

/--
**Membership is the filter written by hand.** Among values, the query ends up as if the predicate
with a question mark for each value had been added, with these values. With another query it ends up
as if the statement of that one had been put into the parentheses, with its values; if that one does
not compile, its error is the error. The same names are drawn as when it is compiled.

Kept with its shape, the list of values is as after the filter too, in the shape that fits. In a
session a call for membership is a call for that filter, so whatever follows is the same after both.
And each later statement holds the text of that moment until the clauses are cleared.
-/
theorem filterIn_eq_filter (m : Membership) (column : String) :
    (∀ (q : Query) (vs : Items Value) (d : Draws),
      (q.filterIn m column (.values vs)).run d
        = (.ok (q.filter (m.byHand q.adapter column (questionMarks vs.length)) vs), d)) ∧
    (∀ (q r : Query) (d : Draws),
      (q.filterIn m column (.query r)).run d =
        match r.compile.run d with
        | (.ok f, e) => (.ok (q.filter (m.byHand q.adapter column f.text) (.many f.values)), e)
        | (.error x, e) => (.error x, e)) ∧
    (∀ (q : Shaped.Query) (vs : Items Value) (d : Draws),
      (q.filterIn m column (.values vs)).run d
        = (q.change (.filter (m.byHand q.adapter column (questionMarks vs.length))
            (.ofList vs.toList))).run d) ∧
    (∀ (q r : Shaped.Query) (d : Draws),
      (q.filterIn m column (.query r)).run d =
        match r.compile.run d with
        | (.ok f, e) =>
          (q.change (.filter (m.byHand q.adapter column f.text) (.ofList f.values))).run e
        | (.error x, e) => (.error x, e)) ∧
    (∀ (s : Session) (name : String) (q : Query), s.queries.get? name = some q →
      (∀ vs : Items Value,
        s.step (.call name (.filterIn m column (.values vs)))
          = s.step (.call name
              (.filter (m.byHand q.adapter column (questionMarks vs.length)) vs))) ∧
      ∀ (other : String) (r : Query), s.queries.get? other = some r →
        s.step (.call name (.filterIn m column (.query other))) =
          match r.compile.run s.draws with
          | (.ok f, e) =>
            { s with draws := e }.step (.call name
              (.filter (m.byHand q.adapter column f.text) (.many f.values)))
          | (.error x, e) => (.error x, { s with draws := e })) ∧
    ∀ (q r : Query) (d e : Draws) (f : Fragment), r.compile.run d = (.ok f, e) →
      ∀ history : List Event, (∀ e ∈ history, e.isReset = false) →
        ∀ (before after : Draws) (statement : Fragment),
          ((q.after (.filterIn m column (.query r)) d).replay history).compile.run before
              = (.ok statement, after) →
            Fragment.Within ⟨(m.byHand q.adapter column f.text).toList, f.values⟩ statement := by
  refine ⟨fun q => q.run_filterIn_values m column, fun q => q.run_filterIn_query m column,
    fun q => q.run_filterIn_values m column, fun q => q.run_filterIn_query m column, ?_, ?_⟩
  · intro s name q hq
    constructor
    · intro vs
      exact s.step_filterIn_values hq m column vs
    · intro other r hr
      exact s.step_filterIn_query hq hr m column
  · intro q r d e f hf history hreset before after statement hstatement
    have hafter : q.after (.filterIn m column (.query r)) d
        = q.filter (m.byHand q.adapter column f.text) (.many f.values) := by
      rw [Query.after, Change.apply, q.run_filterIn_query, hf]
    rw [hafter] at hstatement
    refine Query.predicate_within_compile (Query.mem_predicates_replay ?_ hreset) hstatement
    exact List.mem_append_right _ (List.mem_singleton_self _)

/-- A query in the quotes of its own dialect, and later columns and a limit around it. -/
theorem filterIn_eq_filter_later :
    let q : Query := { adapter := .dialect .postgres, aliases := .sequence "t", table := .name "a" }
    let r : Query := { q with adapter := .dialect .mySql, predicates := [⟨"y = ?".toList, [.null]⟩] }
    let s : Session := (({} : Session).store "q" q).store "r" r
    let body : Fragment := ⟨"SELECT * FROM `a` WHERE (y = ?)".toList, [.null]⟩
    let predicate := "\x22k\x22 NOT IN (SELECT * FROM `a` WHERE (y = ?))"
    let history : List Event := [⟨.select (.text "b"), ∅⟩, ⟨.setLimit (.integer 2), ∅⟩]
    let later : Fragment :=
      ⟨("SELECT \x22b\x22 FROM \x22a\x22 WHERE (" ++ predicate ++ ") LIMIT 2").toList, [.null]⟩
    s.queries.get? "q" = some q ∧ s.queries.get? "r" = some r ∧
      r.compile.run ∅ = (.ok body, ∅) ∧
      s.step (.call "q" (.filterIn .notAmong "k" (.query "r")))
        = s.step (.call "q" (.filter predicate (.many [.null]))) ∧
      (∀ e ∈ history, e.isReset = false) ∧
      ((q.after (.filterIn .notAmong "k" (.query r)) ∅).replay history).compile.run ∅
        = (.ok later, ∅) ∧
      Fragment.Within ⟨predicate.toList, [.null]⟩ later := by
  intro q r s body predicate history later
  have hq : s.queries.get? "q" = some q := rfl
  have hr : s.queries.get? "r" = some r := rfl
  have hbody : r.compile.run ∅ = (.ok body, ∅) := by
    show @Eq (Except Error Fragment × Draws) _ _
    decide +kernel
  have hreset : ∀ e ∈ history, e.isReset = false := by simp [history, Event.isReset]
  have hlater : ((q.after (.filterIn .notAmong "k" (.query r)) ∅).replay history).compile.run ∅
      = (.ok later, ∅) := by
    show @Eq (Except Error Fragment × Draws) _ _
    decide +kernel
  have hpredicate : Membership.notAmong.byHand q.adapter "k" body.text = predicate := by
    decide +kernel
  obtain ⟨-, -, -, -, hsession, hkept⟩ := filterIn_eq_filter .notAmong "k"
  have hstep := (hsession s "q" q hq).2 "r" r hr
  have hwithin := hkept q r ∅ ∅ body hbody history hreset ∅ ∅ later hlater
  rw [hpredicate] at hwithin
  refine ⟨hq, hr, hbody, ?_, hreset, hlater, hwithin⟩
  rw [hstep, show s.draws = ∅ from rfl, hbody]
  dsimp only
  rw [hpredicate]
  rfl

end SqlSelect
