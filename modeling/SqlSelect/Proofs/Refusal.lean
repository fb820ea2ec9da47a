import SqlSelect.Proofs.Reachable

/-!
# Refused calls

Only two kinds of calls can be refused: an order with a term that is refused, and a predicate on the
rows of a query that does not compile. A refused call leaves every query of the session as it is,
the query it looks into included. A refused order draws no name; a refused predicate draws the names
that compiling the query drew before it failed (`Session.refused_call`).

So a refused call that draws no name does nothing at all, and a session goes on as if it had not
been asked for: without all such calls the other steps get the same replies
(`Session.run_effective`).
-/

namespace SqlSelect

/-! ## Which calls are refused -/

/-- What a refused change is, and what is drawn until it is refused. -/
theorem Change.eq_of_apply_error {change : Change} {q : Query} {d d' : Draws} {e : Error}
    (h : (change.apply q).run d = (.error e, d')) :
    (∃ terms, change = .orderBy terms ∧ d' = d) ∨
    ∃ m column inner, change = .filterIn m column (.query inner) ∧
      inner.compile.run d = (.error e, d') := by
  cases change with
  | orderBy terms =>
    rw [apply, Drawing.run_lift] at h
    obtain ⟨-, hd⟩ := Prod.mk.inj h
    exact .inl ⟨terms, rfl, hd.symm⟩
  | filterIn m column r =>
    rw [apply, Query.filterIn, Drawing.run_bind] at h
    cases r with
    | values vs => cases h
    | query inner =>
      rw [Relation.fragment] at h
      rcases hrun : inner.compile.run d with ⟨result, e'⟩
      rw [hrun] at h
      cases result with
      | ok list => cases h
      | error x =>
        cases h
        exact .inr ⟨m, column, inner, rfl, hrun⟩
  | _ => cases h

namespace CallRef

variable {queries : OrderedMap Query} {c : CallRef}

/-- A call that stands for an order is one. -/
theorem eq_orderBy_of_resolve {terms : Items Term} (h : c.resolve queries = .ok (.orderBy terms)) :
    c = .orderBy terms := by
  cases c with
  | orderBy terms' =>
    cases h
    rfl
  | setTable t | filterIn _ _ r | select cs | groupBy cs | groupByHaving cs _ _ =>
    obtain ⟨a, -, h⟩ := exists_of_bind_ok h
    cases h
  | _ => cases h

/-- A call that stands for a predicate on the rows of a query names that query. -/
theorem eq_filterIn_of_resolve {m : Membership} {column : String} {inner : Query}
    (h : c.resolve queries = .ok (.filterIn m column (.query inner))) :
    ∃ name, c = .filterIn m column (.query name) ∧ queries.get? name = some inner := by
  cases c with
  | filterIn m' column' r =>
    obtain ⟨relation, hr, h⟩ := exists_of_bind_ok h
    cases h
    cases r with
    | values vs => cases hr
    | query name =>
      refine ⟨name, rfl, ?_⟩
      rw [RelationRef.resolve, findQuery] at hr
      cases hget : queries.get? name with
      | none =>
        rw [hget] at hr
        cases hr
      | some found =>
        rw [hget] at hr
        cases hr
        rfl
  | setTable t | select cs | groupBy cs | groupByHaving cs _ _ =>
    obtain ⟨a, -, h⟩ := exists_of_bind_ok h
    cases h
  | _ => cases h

end CallRef

namespace Session

variable {s after : Session} {name : String} {c : CallRef} {e : Error}

/-- A call is refused because the change it stands for is refused. -/
theorem exists_change_of_error (h : s.change name c = (.error e, after)) :
    ∃ (change : Change) (q : Query), c.resolve s.queries = .ok change ∧
      (change.apply q).run s.draws = (.error e, after.draws) ∧
      after.queries = c.leave s.queries := by
  rw [change] at h
  split at h
  · cases h
  · next change hc =>
    rw [answer] at h
    split at h
    · next q hq =>
      rcases hrun : (change.apply q).run s.draws with ⟨result, draws⟩
      rw [hrun] at h
      cases result with
      | ok made => cases h
      | error x =>
        cases h
        exact ⟨change, q, hc, hrun, rfl⟩
    · cases h

/-- **A refused call changes no query.** It is an order, which draws no name, or a predicate on the
rows of a query, which draws what compiling that query draws until it fails. -/
theorem refused_call (h : s.step (.call name c) = (.error e, after)) :
    after.queries = s.queries ∧
    ((∃ terms, c = .orderBy terms ∧ after.draws = s.draws) ∨
      ∃ m column other inner, c = .filterIn m column (.query other) ∧
        s.queries.get? other = some inner ∧
        inner.compile.run s.draws = (.error e, after.draws)) := by
  obtain ⟨change, q, hc, hrun, hqueries⟩ := exists_change_of_error h
  rcases Change.eq_of_apply_error hrun with
    ⟨terms, rfl, hdraws⟩ | ⟨m, column, inner, rfl, hcompile⟩
  · obtain rfl := CallRef.eq_orderBy_of_resolve hc
    exact ⟨hqueries, .inl ⟨terms, rfl, hdraws⟩⟩
  · obtain ⟨other, rfl, hother⟩ := CallRef.eq_filterIn_of_resolve hc
    exact ⟨hqueries, .inr ⟨m, column, other, inner, rfl, hother, hcompile⟩⟩

/-! ## Leaving refused calls out -/

/-- Whether a step is an order that is refused, or a predicate on membership that is refused and
draws no name. -/
def isIdle (s : Session) (step : Step) : Bool :=
  match step, s.step step with
  | .call _ (.orderBy _), (.error _, _) => true
  | .call _ (.filterIn _ _ _), (.error _, after) => decide (after.draws = s.draws)
  | _, _ => false

/-- The steps that are not idle, each with the reply that it gets when all steps are taken. -/
def effective (s : Session) : List Step → List (Step × Reply)
  | [] => []
  | step :: steps =>
    if s.isIdle step then (s.step step).2.effective steps
    else (step, (s.step step).1) :: (s.step step).2.effective steps

theorem run_cons (s : Session) (step : Step) (steps : List Step) :
    s.run (step :: steps)
      = ((s.step step).1 :: ((s.step step).2.run steps).1, ((s.step step).2.run steps).2) := rfl

theorem eq_of_fields (hqueries : after.queries = s.queries) (hdraws : after.draws = s.draws) :
    after = s := by
  cases s
  cases after
  cases hqueries
  cases hdraws
  rfl

/-- An idle step does nothing. -/
theorem step_of_isIdle {step : Step} (h : s.isIdle step = true) : (s.step step).2 = s := by
  unfold isIdle at h
  split at h
  · next name terms e after hstep =>
    rw [hstep]
    obtain ⟨hqueries, hkind⟩ := refused_call hstep
    rcases hkind with ⟨-, -, hdraws⟩ | ⟨_, _, _, _, hc, _⟩
    · exact eq_of_fields hqueries hdraws
    · cases hc
  · next name m column r e after hstep =>
    rw [hstep]
    obtain ⟨hqueries, -⟩ := refused_call hstep
    exact eq_of_fields hqueries (of_decide_eq_true h)
  · cases h

/-- The replies are those that the steps get when all steps are taken. -/
theorem effective_sublist (s : Session) (steps : List Step) :
    (s.effective steps).Sublist (steps.zip (s.run steps).1) := by
  induction steps generalizing s with
  | nil => exact List.Sublist.refl []
  | cons step steps ih =>
    have hrest := ih (s.step step).2
    rw [effective, run_cons, List.zip_cons_cons]
    split
    · exact hrest.cons _
    · exact hrest.cons_cons _

/-- Without the idle steps a session gives the same replies and ends as it did. -/
theorem run_effective (s : Session) (steps : List Step) :
    s.run ((s.effective steps).map Prod.fst)
      = ((s.effective steps).map Prod.snd, (s.run steps).2) := by
  induction steps generalizing s with
  | nil => rfl
  | cons step steps ih =>
    have hrest := ih (s.step step).2
    rw [effective, run_cons]
    by_cases hidle : s.isIdle step = true
    · rw [if_pos hidle]
      rw [step_of_isIdle hidle] at hrest ⊢
      exact hrest
    · rw [if_neg hidle, List.map_cons, List.map_cons, run_cons, hrest]

/-- **Refused calls change nothing.** A call that is refused leaves every query of the session as it
is, in every part. It is an order, and then no name is drawn, or a predicate on the rows of a query,
and then the names are drawn that compiling this query drew before it failed. So all refused orders,
and all refused predicates that draw no name, can be left out of a session: the other steps get the
replies that they got, and the session ends as it did. -/
theorem refused_calls_change_nothing (s : Session) :
    (∀ (name : String) (c : CallRef) (e : Error) (after : Session),
      s.step (.call name c) = (.error e, after) →
        after.queries = s.queries ∧
        ((∃ terms, c = .orderBy terms ∧ after.draws = s.draws) ∨
          ∃ m column other inner, c = .filterIn m column (.query other) ∧
            s.queries.get? other = some inner ∧
            inner.compile.run s.draws = (.error e, after.draws))) ∧
    ∀ steps : List Step,
      (s.effective steps).Sublist (steps.zip (s.run steps).1) ∧
      s.run ((s.effective steps).map Prod.fst)
        = ((s.effective steps).map Prod.snd, (s.run steps).2) := by
  refine ⟨?_, ?_⟩
  · intro name c e after h
    exact refused_call h
  · intro steps
    exact ⟨s.effective_sublist steps, s.run_effective steps⟩

/-- The query looked into fails on the way out, when its derived table has drawn a name. This call
is kept, the refused order before it is not. -/
theorem refused_calls_change_nothing_drawn :
    ∃ (s after : Session) (inner : Query) (steps : List Step),
      s = (run {} [
        .create "a" .plain (.sequence "t") (.given (.name "a")),
        .create "b" .plain (.sequence "t") (.copyOf "a"),
        .create "c" .plain (.sequence "t") (.copyOf "b"),
        .call "c" (.setOption aliasPrefixKey (.int 5))]).2 ∧
      after = (s.step (.call "a" (.filterIn .among "k" (.query "c")))).2 ∧
      s.step (.call "a" (.filterIn .among "k" (.query "c")))
        = (.error (.optionNotText aliasPrefixKey (.int 5)), after) ∧
      after.queries = s.queries ∧
      s.queries.get? "c" = some inner ∧
      inner.compile.run ∅
        = (.error (.optionNotText aliasPrefixKey (.int 5)), ⟨[⟨"t", "t_"⟩]⟩) ∧
      steps = [
        .call "a" (.orderBy (.many [.name "x", .sort "" none])),
        .call "a" (.filterIn .among "k" (.query "c")),
        .compile "b"] ∧
      s.run [.call "a" (.filterIn .among "k" (.query "c")), .compile "b"]
        = ([.error (.optionNotText aliasPrefixKey (.int 5)),
            .statement ⟨"SELECT * FROM (SELECT * FROM a) AS t_2".toList, []⟩],
          (s.run steps).2) := by
  refine ⟨_, _, _, _, rfl, rfl, rfl, ?kept, rfl, rfl, rfl, ?rest⟩
  case kept =>
    exact ((refused_calls_change_nothing _).1 "a" (.filterIn .among "k" (.query "c"))
      (.optionNotText aliasPrefixKey (.int 5)) _ rfl).1
  case rest =>
    exact ((refused_calls_change_nothing _).2 [
      .call "a" (.orderBy (.many [.name "x", .sort "" none])),
      .call "a" (.filterIn .among "k" (.query "c")),
      .compile "b"]).2

end Session

end SqlSelect
