import SqlSelect.Query.Basic

/-!
# Statements

A query compiles to a statement: one text with a placeholder for each value, and the values. The
clauses are written one after another, each only if there is something to write, and their values
come in the same order as their texts.

## Derived tables

A query that is a table is compiled first, by its own rules, and stands in parentheses with a name
drawn for it. So names are drawn from the innermost derived table outwards. Before that, on the way
in, each level is checked for a predicate on groups without columns: where this is not allowed,
nothing is drawn at all.
-/

namespace SqlSelect

namespace Select

/-! ## Clauses -/

/-- The predicates, each in parentheses of its own. -/
def whereClause (s : Select) : Fragment :=
  if s.predicates.isEmpty then ∅
  else .sql " WHERE (" ++ .join ") AND (" s.predicates ++ .sql ")"

/-- The columns to group by and the predicate on the groups. -/
def groupClause (s : Select) : Fragment :=
  match s.group with
  | none => ∅
  | some g => g.clause s.adapter

/-- A count of rows after a keyword, left out if it is zero. -/
def countClause (keyword : String) (n : UInt32) : Fragment :=
  if n = 0 then ∅ else .sql (keyword ++ toString n.toNat)

/-- All clauses around what is selected from. -/
def statement (s : Select) (source : Fragment) : Fragment :=
  .sql "SELECT " ++ Column.selected s.adapter s.columns ++ .sql " FROM " ++ source ++
    s.whereClause ++ s.groupClause ++ OrderItem.clause s.adapter s.order ++
    countClause " LIMIT " s.limit ++ countClause " OFFSET " s.offset

/-! ## Checks -/

/-- Whether there is a predicate on groups without columns to group by. -/
def hasOrphanHaving (s : Select) : Bool := s.group.any Group.hasOrphanHaving

/--
Refuses a predicate on groups without columns if the option `strict` is on. The option is read only
when there is such a predicate.
-/
def checkHaving (s : Select) : Except Error Unit :=
  if s.hasOrphanHaving then do
    if ← s.options.getBool strictKey then throw .orphanHaving
  else pure ()

/-! ## Compiling -/

/-- A statement in parentheses with the name by which the query around it knows it. -/
def derivedTable (s : Select) (body : Fragment) (called : String) : Fragment :=
  .sql "(" ++ body ++ .sql ") AS " ++ .name s.adapter called

/-- The statement of a select on a table. -/
def compile (s : Select) : Table → Drawing Fragment
  | .name n => do
    s.checkHaving
    return s.statement (.name s.adapter n)
  | .raw sql => do
    s.checkHaving
    return s.statement (.sql sql)
  | .derived inner table => do
    s.checkHaving
    let body ← inner.compile table
    let start ← s.options.getText aliasPrefixKey
    let called ← s.aliases.draw start
    return s.statement (s.derivedTable body called)

/-! ## Running a compilation -/

theorem run_compile_name (s : Select) (n : String) (d : Draws) :
    (s.compile (.name n)).run d =
      (s.checkHaving.map fun _ => s.statement (.name s.adapter n), d) := by
  rw [compile, Drawing.run_bind, Drawing.run_lift]
  cases s.checkHaving <;> rfl

theorem run_compile_raw (s : Select) (sql : String) (d : Draws) :
    (s.compile (.raw sql)).run d = (s.checkHaving.map fun _ => s.statement (.sql sql), d) := by
  rw [compile, Drawing.run_bind, Drawing.run_lift]
  cases s.checkHaving <;> rfl

/--
On a derived table the check comes first, then the statement inside, then the option, and a name is
drawn only when nothing can fail any more.
-/
theorem run_compile_derived (s inner : Select) (table : Table) (d : Draws) :
    (s.compile (.derived inner table)).run d =
      match s.checkHaving with
      | .error e => (.error e, d)
      | .ok () =>
        match (inner.compile table).run d with
        | (.error e, d) => (.error e, d)
        | (.ok body, d) =>
          match s.options.getText aliasPrefixKey with
          | .error e => (.error e, d)
          | .ok start =>
            (.ok (s.statement (s.derivedTable body
              (s.aliases.spell start (d.count s.aliases.name + 1)))),
              d.add ⟨s.aliases.name, start⟩) := by
  rw [compile]
  simp only [Drawing.run_bind, Drawing.run_lift, Drawing.run_pure, Drawing.run_draw]
  cases s.checkHaving with
  | error e => rfl
  | ok _ =>
    dsimp only
    rcases (inner.compile table).run d with ⟨r, d⟩
    cases r with
    | error e => rfl
    | ok body => cases s.options.getText aliasPrefixKey <;> rfl

/-- What is selected from, as a statement names it. No clause takes part in it. -/
def source (s : Select) : Table → Drawing Fragment
  | .name n => return .name s.adapter n
  | .raw sql => return .sql sql
  | .derived inner table => do
    let body ← inner.compile table
    let start ← s.options.getText aliasPrefixKey
    let called ← s.aliases.draw start
    return s.derivedTable body called

/-- Where the check passes, the clauses are written around what is selected from. -/
theorem run_compile_source (s : Select) (t : Table) (d : Draws) :
    (s.compile t).run d =
      match s.checkHaving with
      | .error e => (.error e, d)
      | .ok () => (((s.source t).run d).1.map s.statement, ((s.source t).run d).2) := by
  cases t with
  | name n =>
    rw [run_compile_name]
    cases s.checkHaving <;> rfl
  | raw sql =>
    rw [run_compile_raw]
    cases s.checkHaving <;> rfl
  | derived inner table =>
    rw [run_compile_derived, source]
    simp only [Drawing.run_bind, Drawing.run_lift, Drawing.run_pure, Drawing.run_draw]
    cases s.checkHaving with
    | error e => rfl
    | ok _ =>
      rcases (inner.compile table).run d with ⟨result, d⟩
      cases result with
      | error e => rfl
      | ok body => cases s.options.getText aliasPrefixKey <;> rfl

/-! ## Compilations that succeed -/

/--
How a compilation comes to its statement: the check passes, and on a derived table the statement
inside is there, the option is a text, and a name is drawn after that.
-/
inductive Compiles : Select → Table → Draws → Fragment → Draws → Prop
  | name {s : Select} (n : String) (d : Draws) (check : s.checkHaving = .ok ()) :
      Compiles s (.name n) d (s.statement (.name s.adapter n)) d
  | raw {s : Select} (sql : String) (d : Draws) (check : s.checkHaving = .ok ()) :
      Compiles s (.raw sql) d (s.statement (.sql sql)) d
  | derived {s inner : Select} {table : Table} {d e : Draws} {body : Fragment} {start : String}
      (check : s.checkHaving = .ok ()) (hbody : Compiles inner table d body e)
      (hstart : s.options.getText aliasPrefixKey = .ok start) :
      Compiles s (.derived inner table) d
        (s.statement (s.derivedTable body (s.aliases.spell start (e.count s.aliases.name + 1))))
        (e.add ⟨s.aliases.name, start⟩)

theorem Compiles.run {s : Select} {t : Table} {d e : Draws} {f : Fragment}
    (h : s.Compiles t d f e) : (s.compile t).run d = (.ok f, e) := by
  induction h with
  | name n d check =>
    rw [run_compile_name, check]
    rfl
  | raw sql d check =>
    rw [run_compile_raw, check]
    rfl
  | derived check _ hstart ih => rw [run_compile_derived, check, ih, hstart]

/-- There is no other way to a statement. -/
theorem compiles_of_run : ∀ {t : Table} {s : Select} {d e : Draws} {f : Fragment},
    (s.compile t).run d = (.ok f, e) → s.Compiles t d f e
  | .name n, s, d, e, f, h => by
    rw [run_compile_name] at h
    cases check : s.checkHaving with
    | error x =>
      rw [check] at h
      cases h
    | ok _ =>
      rw [check] at h
      cases h
      exact .name n d check
  | .raw sql, s, d, e, f, h => by
    rw [run_compile_raw] at h
    cases check : s.checkHaving with
    | error x =>
      rw [check] at h
      cases h
    | ok _ =>
      rw [check] at h
      cases h
      exact .raw sql d check
  | .derived inner table, s, d, e, f, h => by
    rw [run_compile_derived] at h
    split at h
    · cases h
    · next check =>
      split at h
      · cases h
      · next body e' hbody =>
        split at h
        · cases h
        · next start hstart =>
          cases h
          exact .derived check (compiles_of_run hbody) hstart

end Select

namespace Query

/-- The statement of a query. -/
def compile (q : Query) : Drawing Fragment := q.toSelect.compile q.table

/-- The text of the statement alone. -/
def toSql (q : Query) : Drawing String := return String.ofList (← q.compile).text

/-- It is what the statement is shown by, and takes a whole compilation. -/
theorem run_toSql (q : Query) (d : Draws) :
    q.toSql.run d = ((q.compile.run d).1.map toString, (q.compile.run d).2) := by
  rw [toSql, Drawing.run_bind]
  rcases q.compile.run d with ⟨x | f, e⟩ <;> rfl

end Query

end SqlSelect
