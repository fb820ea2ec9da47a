import SqlSelect.Proofs.Redrawing

/-!
# What is sent, and what is made of the rows

A query that does not compile is never sent, however it is run: the run ends with the error of the
compilation. One that compiles is compiled once and sent once.

* For its rows the statement of the query itself is sent. For one row it is the same statement but
  for the clause that limits the rows, and that clause of the outermost level alone
  (`Select.Compiles.withLimit`).
* For the number of rows the statement is sent in parentheses, with a name that is drawn when it is
  complete (`Query.run_compile_counter`). The first column of the first row is the answer, if it is
  an integer.
-/

namespace SqlSelect

open Select (countText)

/-! ## Another limit -/

namespace Select

/-- A statement without the clauses that say which of the rows are taken. -/
def unpaged (s : Select) (source : Fragment) : Fragment :=
  .sql "SELECT " ++ Column.selected s.adapter s.columns ++ .sql " FROM " ++ source ++
    s.whereClause ++ s.groupClause ++ OrderItem.clause s.adapter s.order

/-- **With another limit a select compiles as before**, and only the clause of that limit is
another. What is inside does not see it. -/
theorem Compiles.withLimit {s : Select} {t : Table} {d e : Draws} {f : Fragment}
    (h : s.Compiles t d f e) (limit : UInt32) :
    ∃ unpaged : Fragment,
      f = unpaged ++ countClause " LIMIT " s.limit ++ countClause " OFFSET " s.offset ∧
      Compiles { s with limit } t d
        (unpaged ++ countClause " LIMIT " limit ++ countClause " OFFSET " s.offset) e := by
  cases h with
  | name n d check => exact ⟨s.unpaged (.name s.adapter n), rfl, .name n d check⟩
  | raw sql d check => exact ⟨s.unpaged (.sql sql), rfl, .raw sql d check⟩
  | @derived s inner t d e body start check hbody hstart =>
    let called := s.aliases.spell start (e.count s.aliases.name + 1)
    exact ⟨s.unpaged (s.derivedTable body called), rfl, .derived check hbody hstart⟩

/-- The limit does not decide whether a select compiles. -/
theorem verdict_withLimit (s : Select) (limit : UInt32) (t : Table) :
    verdict { s with limit } t = s.verdict t := by
  cases t <;> rfl

end Select

namespace Query

variable {q : Query} {d d' : Draws}

/-- Where a query fails to compile, so does the query for one row, at the same point. -/
theorem run_compile_single_of_error {e : Error} (h : q.compile.run d = (.error e, d')) :
    q.single.compile.run d = (.error e, d') := by
  -- Neither the error nor what is drawn until then depends on the limit.
  have hverdict : q.single.verdict q.table = .error e := by
    have hq := q.toSelect.verdict_of_run_compile q.table d
    have hrun : (q.toSelect.compile q.table).run d = (.error e, d') := h
    rw [hrun] at hq
    exact (q.toSelect.verdict_withLimit 1 q.table).trans hq
  have hdraws : (q.single.compile.run d).2 = d' := by
    rw [draws_compile, asks_single, ← draws_compile, h]
  obtain ⟨vs, hrun⟩ := q.single.exists_run_compile
  have htable : q.single.table = q.table := rfl
  have hresult : (q.single.compile.run d).1 = .error e := by
    rw [hrun, htable, hverdict]
    rfl
  exact Prod.ext hresult hdraws

/-- Where a query compiles, so does the query for one row, to the same statement but for the limit
of the outermost level. -/
theorem run_compile_single_of_ok {f : Fragment} (h : q.compile.run d = (.ok f, d')) :
    ∃ (before : List Char) (one : Fragment),
      f.text = before ++ countText " LIMIT " q.limit ++ countText " OFFSET " q.offset ∧
      one = ⟨before ++ " LIMIT 1".toList ++ countText " OFFSET " q.offset, f.values⟩ ∧
      q.single.compile.run d = (.ok one, d') := by
  obtain ⟨unpaged, rfl, hone⟩ := (Select.compiles_of_run h).withLimit 1
  refine ⟨unpaged.text, _, ?_, ?_, hone.run⟩
  · rw [Fragment.text_append, Fragment.text_append, Select.text_countClause,
      Select.text_countClause]
  · ext1
    · rw [Fragment.text_append, Fragment.text_append, Select.text_countClause,
        Select.text_countClause]
      rfl
    · simp only [Fragment.values_append, Select.values_countClause]

theorem process_eq (q : Query) : q.process = q.processor.getD id := by
  funext row
  rw [process]
  cases q.processor <;> rfl

/-! ## Counting -/

/-- **Counting compiles the query first**, and then draws a name for it. -/
theorem run_compile_counter (q : Query) (d : Draws) :
    q.counter.compile.run d =
      match q.compile.run d with
      | (.error e, d) => (.error e, d)
      | (.ok body, d) =>
        match q.options.getText aliasPrefixKey with
        | .error e => (.error e, d)
        | .ok start =>
          (.ok (q.counter.statement (q.derivedTable body
            (q.aliases.spell start (d.count q.aliases.name + 1)))),
            d.add ⟨q.aliases.name, start⟩) :=
  q.counter.toSelect.run_compile_derived q.toSelect q.table d

/-- The statement that counts has nothing of the query outside of the parentheses. -/
theorem statement_counter (q : Query) (body : Fragment) (called : String) :
    q.counter.statement (q.derivedTable body called)
      = ⟨"SELECT count(*) FROM (".toList ++ body.text ++ ") AS ".toList ++
          q.adapter.quote called.toList, body.values⟩ := by
  have hopening : q.counter.opening = .sql "SELECT count(*) FROM " := by
    ext1 <;> rfl
  have hclosing : q.counter.closing = ∅ := by
    ext1 <;> rfl
  have hwords : "SELECT count(*) FROM (".toList
      = "SELECT count(*) FROM ".toList ++ "(".toList := rfl
  rw [Select.statement_eq, hopening, hclosing, hwords]
  ext1
  · unfold Select.derivedTable
    simp only [Fragment.text_append, Fragment.text_sql, Fragment.text_name, Fragment.text_empty,
      List.append_assoc, List.append_nil]
  · simp only [Fragment.values_append, Fragment.values_sql, Select.values_derivedTable,
      Fragment.values_empty, List.nil_append, List.append_nil]

/-- What counting answers to the rows it gets: the first column of the first row decides, and
nothing else does. -/
inductive Counts : List Record → Except Error Int64 → Prop
  | noRow : Counts [] (.ok 0)
  | noColumn {row : Record} {rows : List Record} (hrow : row.entries = []) :
      Counts (row :: rows) (.error .countWithoutColumn)
  | integer {row : Record} {rows : List Record} {column : String} {value : Value}
      {rest : List (String × Value)} {n : Int64} (hrow : row.entries = (column, value) :: rest)
      (hn : value.asInt64 = some n) : Counts (row :: rows) (.ok n)
  | notInteger {row : Record} {rows : List Record} {column : String} {value : Value}
      {rest : List (String × Value)} (hrow : row.entries = (column, value) :: rest)
      (hn : value.asInt64 = none) : Counts (row :: rows) (.error (.countNotInteger value))

theorem counts_readCount : ∀ rows : List Record, Counts rows (readCount rows)
  | [] => .noRow
  | row :: rows => by
    rw [readCount, OrderedMap.values]
    rcases hrow : row.entries with - | ⟨⟨column, value⟩, rest⟩
    · exact .noColumn hrow
    · rw [List.map_cons]
      dsimp only
      cases hn : value.asInt64 with
      | none => exact .notInteger hrow hn
      | some n => exact .integer hrow hn

/-- Where there is no number, a row could not be read. -/
theorem Counts.kind_of_error {rows : List Record} {e : Error} (h : Counts rows (.error e)) :
    e.kind = .decode := by
  cases h <;> rfl

end Query

/-! ## Runs -/

namespace Session

variable {s : Session} {name : String} {q : Query}

theorem step_run (hq : s.queries.get? name = some q) (entry : Entry) (executor : Executor) :
    s.step (.run name entry executor) = s.execute q entry executor := by
  rw [step, answer, hq]

/-- A query that does not compile is not sent. -/
theorem execute_of_error (entry : Entry) {d : Draws} {e : Error}
    (h : (entry.sends q).compile.run s.draws = (.error e, d)) (executor : Executor) :
    s.execute q entry executor = (.ran (.error e) [] q, { s with draws := d }) := by
  rw [execute_eq, h]

/-- A query that compiles is sent once, and what is read from the rows is the answer. -/
theorem execute_of_ok (entry : Entry) {d : Draws} {f : Fragment}
    (h : (entry.sends q).compile.run s.draws = (.ok f, d)) (executor : Executor) :
    s.execute q entry executor
      = (.ran (executor f >>= fun rows => entry.read q rows) [f] q, { s with draws := d }) := by
  rw [execute_eq, h]

/-- **Running for rows.** A query that does not compile is not sent, and the run ends with the error
of the compilation. One that compiles is compiled and sent once. Fetched, the rows and the errors of
the executor come back as they are; got, each row comes back as the processor makes it, all of them
in order. For one row the statement is sent with the limit one at its outermost level, with the same
values and all else as it was, and the first row comes back as the processor makes it, if there is
one. No query of the session changes. -/
theorem run_rows (hq : s.queries.get? name = some q) (executor : Executor) :
    (∀ (e : Error) (d : Draws), q.compile.run s.draws = (.error e, d) →
      ∀ entry : Entry, entry ≠ .count →
        s.step (.run name entry executor) = (.ran (.error e) [] q, { s with draws := d })) ∧
    ∀ (f : Fragment) (d : Draws), q.compile.run s.draws = (.ok f, d) →
      s.step (.run name .fetch executor)
        = (.ran ((executor f).map .rows) [f] q, { s with draws := d }) ∧
      s.step (.run name .get executor)
        = (.ran ((executor f).map fun rows => .rows (rows.map (q.processor.getD id))) [f] q,
            { s with draws := d }) ∧
      ∃ (before : List Char) (one : Fragment),
        f.text = before ++ countText " LIMIT " q.limit ++ countText " OFFSET " q.offset ∧
        one = ⟨before ++ " LIMIT 1".toList ++ countText " OFFSET " q.offset, f.values⟩ ∧
        ({ q with limit := 1 } : Query).compile.run s.draws = (.ok one, d) ∧
        s.step (.run name .getOne executor)
          = (.ran ((executor one).map fun rows => .row (rows.head?.map (q.processor.getD id)))
              [one] q, { s with draws := d }) := by
  simp only [step_run hq, ← Query.process_eq]
  constructor
  · intro e d h entry hentry
    cases entry with
    | fetch => exact execute_of_error .fetch h executor
    | get => exact execute_of_error .get h executor
    | getOne => exact execute_of_error .getOne (Query.run_compile_single_of_error h) executor
    | count => exact absurd rfl hentry
  · intro f d h
    obtain ⟨before, one, htext, hone, hsingle⟩ := Query.run_compile_single_of_ok h
    refine ⟨?_, ?_, before, one, htext, hone, hsingle, ?_⟩
    · rw [execute_of_ok .fetch h]
      cases executor f <;> rfl
    · rw [execute_of_ok .get h]
      cases executor f <;> rfl
    · rw [execute_of_ok .getOne hsingle]
      simp only [Entry.read, List.head?_map]
      cases executor one <;> rfl

/-- The limit inside stays, the one outside gives way to the limit one; both rows are processed, and
then the first one alone. -/
theorem run_rows_paged :
    ∃ (s : Session) (q : Query) (f one : Fragment) (executor : Executor) (d : Draws),
      s = (run {} [
        .create "a" .plain (.sequence "t") (.given (.name "a")),
        .call "a" (.filter "x = ?" (.one (.int32 5))),
        .call "a" (.setLimit (.integer 9)),
        .create "b" .plain (.sequence "t") (.moveOf "a"),
        .call "b" (.setLimit (.integer 7)),
        .call "b" (.setOffset (.integer 2)),
        .call "b" (.setProcessor fun row => row.insert "m" (.bool true))]).2 ∧
      executor = (fun _ => .ok [(∅ : Record).insert "n" (.int32 1),
        (∅ : Record).insert "n" (.int32 2)]) ∧
      s.queries.get? "b" = some q ∧
      q.compile.run s.draws = (.ok f, d) ∧
      f = ⟨"SELECT * FROM (SELECT * FROM a WHERE (x = ?) LIMIT 9) AS t_1".toList ++
        " LIMIT 7 OFFSET 2".toList, [.int32 5]⟩ ∧
      one = ⟨"SELECT * FROM (SELECT * FROM a WHERE (x = ?) LIMIT 9) AS t_1".toList ++
        " LIMIT 1 OFFSET 2".toList, [.int32 5]⟩ ∧
      ({ q with limit := 1 } : Query).compile.run s.draws = (.ok one, d) ∧
      s.step (.run "b" .get executor)
        = (.ran (.ok (.rows [((∅ : Record).insert "n" (.int32 1)).insert "m" (.bool true),
            ((∅ : Record).insert "n" (.int32 2)).insert "m" (.bool true)])) [f] q,
          { s with draws := d }) ∧
      s.step (.run "b" .getOne executor)
        = (.ran (.ok (.row (some (((∅ : Record).insert "n" (.int32 1)).insert "m" (.bool true)))))
            [one] q, { s with draws := d }) := by
  let a : Select :=
    { adapter := .plain, aliases := .sequence "t",
      predicates := [⟨"x = ?".toList, [.int32 5]⟩], limit := 9 }
  let q : Query :=
    { adapter := .plain, aliases := .sequence "t", limit := 7, offset := 2,
      processor := some fun row => row.insert "m" (.bool true), table := .derived a (.name "a") }
  refine ⟨_, q, _, _, _, ⟨[⟨"t", "t_"⟩]⟩, rfl, rfl, ?store, ?compile, rfl, rfl, ?single, ?get,
    ?getOne⟩
  case get => exact ((run_rows ?store _).2 _ _ ?compile).2.1
  case getOne =>
    obtain ⟨_, one, -, -, hsingle, hrun⟩ := ((run_rows ?store _).2 _ _ ?compile).2.2
    have heq := hsingle.symm.trans ?single
    cases heq
    exact hrun
  case store => rfl
  all_goals
    show @Eq (Except Error Fragment × Draws) _ _
    decide +kernel

/-- **Running for the number of rows.** A query that does not compile is not sent, and the run ends
with the error of the compilation. If it compiles, a name is drawn after that, for which the option
has to be a text; if it is not, nothing is sent either. Else the statement of the query is sent
once, all of it in parentheses with that name behind them, with the values of the query. The first
column of the first row decides, and no processor sees it; errors of the executor come back as they
are. No query of the session changes. -/
theorem run_count (hq : s.queries.get? name = some q) (executor : Executor) :
    (∀ (e : Error) (d : Draws), q.compile.run s.draws = (.error e, d) →
      s.step (.run name .count executor) = (.ran (.error e) [] q, { s with draws := d })) ∧
    ∀ (f : Fragment) (d : Draws), q.compile.run s.draws = (.ok f, d) →
      ((∀ start, q.options.aliasPrefix ≠ .text start) →
        ∃ e : Error, e = .optionNotText aliasPrefixKey q.options.aliasPrefix ∧
          e.kind = .invalidArgument ∧
          s.step (.run name .count executor) = (.ran (.error e) [] q, { s with draws := d })) ∧
      ∀ start, q.options.aliasPrefix = .text start →
        ∃ (sent : Fragment) (result : Except Error Outcome),
          sent = ⟨"SELECT count(*) FROM (".toList ++ f.text ++ ") AS ".toList ++
            q.adapter.quote (q.aliases.spell start (d.count q.aliases.name + 1)).toList,
            f.values⟩ ∧
          s.step (.run name .count executor)
            = (.ran result [sent] q, { s with draws := d.add ⟨q.aliases.name, start⟩ }) ∧
          (∀ e, executor sent = .error e → result = .error e) ∧
          ∀ rows, executor sent = .ok rows →
            ∃ answer, Query.Counts rows answer ∧ result = answer.map .count ∧
              ∀ e, answer = .error e → e.kind = .decode := by
  simp only [step_run hq]
  refine ⟨?_, ?_⟩
  · intro e d h
    refine execute_of_error .count ?_ executor
    rw [Entry.sends, Query.run_compile_counter, h]
  · intro f d h
    -- The query inside is done; what is left to go wrong is the option that its name begins with.
    have hcounter := q.run_compile_counter s.draws
    rw [h, Options.getText_aliasPrefix] at hcounter
    refine ⟨?_, ?_⟩
    · intro hstart
      refine ⟨_, rfl, rfl, execute_of_error .count ?_ executor⟩
      rw [Entry.sends, hcounter]
      cases hp : q.options.aliasPrefix with
      | text start => exact absurd hp (hstart start)
      | bool b | int n => rfl
    · intro start hstart
      rw [hstart] at hcounter
      dsimp only at hcounter
      rw [Query.statement_counter] at hcounter
      refine ⟨_, _, rfl, execute_of_ok .count hcounter executor, ?_, ?_⟩
      · intro e he
        rw [he]
        rfl
      · intro rows hrows
        refine ⟨Query.readCount rows, Query.counts_readCount rows, ?_, ?_⟩
        · rw [hrows]
          rfl
        · intro e he
          exact Query.Counts.kind_of_error (he ▸ Query.counts_readCount rows)

/-- The limit stays inside, the name is written by the adapter of the query that is counted, and the
processor, which would leave no column, is not asked. -/
theorem run_count_limited :
    ∃ (s : Session) (q : Query) (f sent : Fragment) (executor : Executor),
      s = (run {} [
        .create "a" .plain (.sequence "t") (.given (.name "a")),
        .call "a" (.filter "x = ?" (.one (.int32 5))),
        .create "b" (.dialect .mySql) (.sequence "t") (.moveOf "a"),
        .call "b" (.setLimit (.integer 3)),
        .call "b" (.setOption aliasPrefixKey (.text "u")),
        .call "b" (.setProcessor fun _ => ∅)]).2 ∧
      executor = (fun _ => .ok [(∅ : Record).insert "n" (.text "12")]) ∧
      s.queries.get? "b" = some q ∧
      q.compile.run s.draws = (.ok f, ⟨[⟨"t", "u"⟩]⟩) ∧
      f = ⟨"SELECT * FROM (SELECT * FROM a WHERE (x = ?)) AS `u1` LIMIT 3".toList, [.int32 5]⟩ ∧
      sent = ⟨"SELECT count(*) FROM (".toList ++
        "SELECT * FROM (SELECT * FROM a WHERE (x = ?)) AS `u1` LIMIT 3".toList ++
        ") AS `u2`".toList, [.int32 5]⟩ ∧
      s.step (.run "b" .count executor)
        = (.ran (.ok (.count 12)) [sent] q,
          { s with draws := ⟨[⟨"t", "u"⟩, ⟨"t", "u"⟩]⟩ }) := by
  let a : Select :=
    { adapter := .plain, aliases := .sequence "t", predicates := [⟨"x = ?".toList, [.int32 5]⟩] }
  let q : Query :=
    { adapter := .dialect .mySql, aliases := .sequence "t", limit := 3,
      options := Options.set {} aliasPrefixKey (.text "u"), processor := some fun _ => ∅,
      table := .derived a (.name "a") }
  refine ⟨_, q, _, _, _, rfl, rfl, ?store, ?compile, rfl, rfl, ?count⟩
  case count =>
    obtain ⟨sent, result, hsent, hrun, -, hrows⟩ :=
      ((run_count ?store fun _ => .ok [(∅ : Record).insert "n" (.text "12")]).2 _ _ ?compile).2 "u"
        rfl
    obtain ⟨answer, hanswer, hresult, -⟩ := hrows _ rfl
    have hcalled : (") AS ".toList ++ q.adapter.quote (q.aliases.spell "u" 2).toList : List Char)
        = ") AS `u2`".toList := by
      decide +kernel
    have htwelve : (Value.text "12").asInt64 = some 12 := by decide
    cases hanswer with
    | noColumn hrow => cases hrow
    | integer hrow hn =>
      cases hrow
      cases htwelve.symm.trans hn
      rw [hrun, hresult, hsent, List.append_assoc, ← hcalled]
      rfl
    | notInteger hrow hn =>
      cases hrow
      cases htwelve.symm.trans hn
  case store => rfl
  case compile =>
    show @Eq (Except Error Fragment × Draws) _ _
    decide +kernel

end Session

end SqlSelect
