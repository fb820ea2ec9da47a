import SqlSelect.Proofs.Numbering

/-!
# Compiling with other names drawn before

The names drawn before a query is compiled decide which names its derived tables get, and nothing
else. Whether the query compiles, and the error if it does not, can be read off its levels
(`Select.verdict`). The text is cut where a name is written: one piece up to the end of the
innermost derived table, and for each level around it the words `) AS `, a name and the clauses that
follow (`Query.textWith`). The pieces and the values are the same whatever was drawn
(`Query.exists_run_compile`).
-/

namespace SqlSelect

namespace Select

/-! ## Whether a select compiles -/

/-- Whether a select on a table compiles, and the error if it does not. -/
def verdict (s : Select) : Table → Except Error Unit
  | .name _ | .raw _ => s.checkHaving
  | .derived inner table => do
    s.checkHaving
    inner.verdict table
    discard (s.options.getText aliasPrefixKey)

/-- A compilation ends as its verdict says, whatever was drawn before. -/
theorem verdict_of_run_compile (s : Select) (t : Table) (d : Draws) :
    s.verdict t = ((s.compile t).run d).1.map fun _ => () := by
  induction t generalizing s d with
  | name n =>
    rw [run_compile_name, verdict]
    cases s.checkHaving <;> rfl
  | raw sql =>
    rw [run_compile_raw, verdict]
    cases s.checkHaving <;> rfl
  | derived inner t ih =>
    have hinner := ih inner d
    rw [run_compile_derived, verdict, hinner]
    cases s.checkHaving with
    | error e => rfl
    | ok _ =>
      dsimp only
      rcases (inner.compile t).run d with ⟨result, e⟩
      cases result with
      | error x => rfl
      | ok body => cases s.options.getText aliasPrefixKey <;> rfl

/-! ## The text around the names -/

/-- What stands before what is selected from. -/
def opening (s : Select) : Fragment :=
  .sql "SELECT " ++ Column.selected s.adapter s.columns ++ .sql " FROM "

/-- What stands behind what is selected from. -/
def closing (s : Select) : Fragment :=
  s.whereClause ++ s.groupClause ++ OrderItem.clause s.adapter s.order ++
    countClause " LIMIT " s.limit ++ countClause " OFFSET " s.offset

theorem statement_eq (s : Select) (source : Fragment) :
    s.statement source = s.opening ++ source ++ s.closing := by
  rw [statement, opening, closing]
  ext1
  · simp only [Fragment.text_append, List.append_assoc]
  · simp only [Fragment.values_append, List.append_assoc]

/-- The text up to the end of the innermost select, the openings of the selects around it first. -/
def core (s : Select) : Table → List Char
  | .name n => s.opening.text ++ s.adapter.quote n.toList ++ s.closing.text
  | .raw sql => s.opening.text ++ sql.toList ++ s.closing.text
  | .derived inner table => s.opening.text ++ "(".toList ++ inner.core table

/-- The text from the end of a derived table to the end of the select around it. -/
def naming (s : Select) (called : String) : List Char :=
  ") AS ".toList ++ s.adapter.quote called.toList ++ s.closing.text

theorem text_derivedTable (s : Select) (body : Fragment) (called : String) :
    (s.statement (s.derivedTable body called)).text
      = s.opening.text ++ "(".toList ++ body.text ++ s.naming called := by
  unfold derivedTable naming
  rw [statement_eq]
  simp only [Fragment.text_append, Fragment.text_sql, Fragment.text_name, List.append_assoc]

/-- A statement with names is its core, and then each name with what stands around it. -/
theorem text_statementWith (s : Select) (t : Table) {names : List String}
    (h : names.length = t.levels.length) :
    (s.statementWith t names).text
      = s.core t ++ (List.zipWith naming (s :: t.levels).dropLast.reverse names).flatten := by
  induction t generalizing s names with
  | name n =>
    have hnames : names = [] := List.eq_nil_of_length_eq_zero h
    simp [hnames, statementWith, statement_eq, core, Table.levels]
  | raw sql =>
    have hnames : names = [] := List.eq_nil_of_length_eq_zero h
    simp [hnames, statementWith, statement_eq, core, Table.levels]
  | derived inner t ih =>
    rw [Table.levels, List.length_cons] at h
    -- The name of the table of `s` comes last.
    have hne : names ≠ [] := by
      rintro rfl
      simp at h
    obtain ⟨first, called, rfl⟩ := (List.eq_nil_or_concat' names).resolve_left hne
    have hfirst : first.length = t.levels.length := by simpa using h
    have hlength : (inner :: t.levels).dropLast.reverse.length = first.length := by
      simp [hfirst]
    rw [statementWith, List.dropLast_concat, List.getLast?_concat, Option.getD_some,
      text_derivedTable, ih inner hfirst, Table.levels,
      List.dropLast_cons_of_ne_nil (List.cons_ne_nil _ _), List.reverse_cons,
      List.zipWith_append hlength, List.flatten_append, core]
    simp only [List.zipWith_cons_cons, List.zipWith_nil_left, List.flatten_cons, List.flatten_nil,
      List.append_nil, List.append_assoc]

theorem values_statement_congr (s : Select) {source source' : Fragment}
    (h : source.values = source'.values) :
    (s.statement source).values = (s.statement source').values := by
  rw [statement_eq, statement_eq, Fragment.values_append, Fragment.values_append, h]
  rfl

/-- No value depends on a name. -/
theorem values_statementWith (s : Select) (t : Table) (names names' : List String) :
    (s.statementWith t names).values = (s.statementWith t names').values := by
  induction t generalizing s names names' with
  | name n => rfl
  | raw sql => rfl
  | derived inner t ih =>
    rw [statementWith, statementWith]
    refine s.values_statement_congr ?_
    rw [values_derivedTable, values_derivedTable]
    exact ih inner _ _

end Select

/-! ## Queries -/

namespace Query

/-- The text of a query with these names for its derived tables, that of the innermost first. -/
def textWith (q : Query) (names : List String) : List Char :=
  q.core q.table ++ (List.zipWith Select.naming q.levels.dropLast.reverse names).flatten

/-- The names that the derived tables of a query get, that of the innermost first. -/
def names (q : Query) (d : Draws) : List String :=
  Select.spelled q.levels.dropLast.reverse (d.numbered q.asks)

/-- A query compiles as its levels say. -/
theorem chainCompiles_of_verdict {q : Query} (h : q.verdict q.table = .ok ()) :
    Select.chainCompiles q.levels = true := by
  obtain ⟨-, hok⟩ := q.toSelect.run_compile_asks q.table ∅
  rw [q.toSelect.verdict_of_run_compile q.table ∅] at h
  rcases hrun : (q.toSelect.compile q.table).run ∅ with ⟨result, e⟩
  rw [hrun] at h hok
  cases result with
  | error x => cases h
  | ok f => exact hok.symm

/-- A query that compiles has a name for each derived table. -/
theorem length_names {q : Query} (h : q.verdict q.table = .ok ()) (d : Draws) :
    (q.names d).length = q.table.levels.length := by
  have hasks : q.asks.length = q.levels.length - 1 :=
    Select.length_chainAsks (chainCompiles_of_verdict h)
  have hlevels : q.levels.length = q.table.levels.length + 1 := List.length_cons
  rw [names, Select.spelled, List.length_zipWith, Draws.length_numbered, hasks,
    List.length_reverse, List.length_dropLast, hlevels]
  omega

/-- **What was drawn before decides the names and nothing else.** -/
theorem exists_run_compile (q : Query) : ∃ vs : List Value, ∀ d : Draws,
    (q.compile.run d).1 = (q.verdict q.table).map fun _ => ⟨q.textWith (q.names d), vs⟩ := by
  refine ⟨(q.toSelect.statementWith q.table []).values, ?_⟩
  intro d
  have hverdict := q.toSelect.verdict_of_run_compile q.table d
  rw [compile]
  rcases hrun : (q.toSelect.compile q.table).run d with ⟨result, e⟩
  rw [hrun] at hverdict
  rw [hverdict]
  cases result with
  | error x => rfl
  | ok f =>
    have hlength : (q.names d).length = q.table.levels.length := length_names hverdict d
    have hf : f = q.toSelect.statementWith q.table (q.names d) :=
      (Select.compiles_of_run hrun).eq_statementWith
    refine congrArg Except.ok ?_
    rw [hf]
    ext1
    · exact q.toSelect.text_statementWith q.table hlength
    · exact q.toSelect.values_statementWith q.table _ _

end Query

end SqlSelect
