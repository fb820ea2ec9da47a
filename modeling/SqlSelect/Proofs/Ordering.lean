import Mathlib
import SqlSelect.Proofs.Grammar
import SqlSelect.Proofs.Shapes

/-!
# What rows are ordered by

An order is given as terms, and it is taken as a whole or not at all. A sort descriptor with an empty
column is refused wherever it stands among the terms, and nothing else is
(`Term.resolveAll_eq_error_iff`). If none is refused, each term gives one item, and the items stand in
the order of the terms.

How a term is written is a relation of its own (`Term.Written`), as is the word that turns an order
round (`SpellsDesc`): four letters, each in one of its two cases. With another order a query compiles
as before, and only what stands between the groups and the limit is another
(`Select.exists_run_compile_withEnd`).
-/

namespace SqlSelect

open Select (countText)

/-! ## The word for down -/

/-- A letter is what it is in lower case, or the capital of that. -/
theorem toLower_eq_iff {c letter : Char} (h : ¬ letter.isUpper) :
    c.toLower = letter ↔ c = letter ∨ c = letter.toUpper := by
  have hletter : letter.toLower = letter := Char.toLower_eq_of_not_isUpper h
  constructor
  · rintro rfl
    by_cases hc : c.isUpper
    · have hcapital : c.toUpper = c :=
        Char.toUpper_eq_of_not_isLower (Char.not_isLower_of_isUpper hc)
      exact .inr (by rw [Char.toUpper_toLower_eq_toUpper, hcapital])
    · exact .inl (Char.toLower_eq_of_not_isUpper hc).symm
  · rintro (rfl | rfl)
    · exact hletter
    · rw [Char.toLower_toUpper_eq_toLower, hletter]

/-- The letters of a word, each of them as it is or as a capital. -/
def SpellsWord (word letters : List Char) : Prop :=
  List.Forall₂ (fun letter c => c = letter ∨ c = letter.toUpper) word letters

instance (word letters : List Char) : Decidable (SpellsWord word letters) :=
  inferInstanceAs (Decidable (List.Forall₂ _ _ _))

theorem map_toLower_eq_iff {word : List Char} (h : ∀ letter ∈ word, ¬ letter.isUpper)
    {letters : List Char} : letters.map Char.toLower = word ↔ SpellsWord word letters := by
  induction word generalizing letters with
  | nil => simp [SpellsWord]
  | cons letter word ih =>
    obtain ⟨hletter, hword⟩ := List.forall_mem_cons.mp h
    cases letters with
    | nil => simp [SpellsWord]
    | cons c letters =>
      rw [List.map_cons, List.cons.injEq, toLower_eq_iff hletter, ih hword, SpellsWord, SpellsWord,
        List.forall₂_cons]

/-- Whether a text is `desc`, each letter as it is or as a capital. -/
def SpellsDesc (s : String) : Prop := SpellsWord "desc".toList s.toList

instance (s : String) : Decidable (SpellsDesc s) := inferInstanceAs (Decidable (SpellsWord _ _))

theorem Direction.parse_eq (s : String) :
    Direction.parse s = if SpellsDesc s then .descending else .ascending := by
  have hword : ∀ letter ∈ "desc".toList, ¬ letter.isUpper := by simp
  rw [parse]
  exact if_congr (map_toLower_eq_iff hword) rfl rfl

/-- No beginning of the word, nothing longer, and no letter that only looks like one of it. -/
example : SpellsDesc "dESc" ∧ ¬ SpellsDesc "des" ∧ ¬ SpellsDesc "descending" ∧
    ¬ SpellsDesc "deſc" := by decide

/-! ## Terms and what is written of them -/

/-- What an adapter writes of a term. -/
inductive Term.Written (a : Adapter) : Term → List Char → Prop
  | name (n : String) : Written a (.name n) (a.quote n.toList)
  | raw (sql : String) : Written a (.raw sql) sql.toList
  | sort (column : String) : Written a (.sort column none) (a.quote column.toList)
  | sortDown (column : String) {direction : String} (h : SpellsDesc direction) :
      Written a (.sort column (some direction)) (a.quote column.toList ++ " DESC".toList)
  | sortUp (column : String) {direction : String} (h : ¬ SpellsDesc direction) :
      Written a (.sort column (some direction)) (a.quote column.toList)
  | itemRaw (sql : String) : Written a (.item (.raw sql)) sql.toList
  | itemUp (n : String) : Written a (.item (.column n .ascending)) (a.quote n.toList)
  | itemDown (n : String) :
      Written a (.item (.column n .descending)) (a.quote n.toList ++ " DESC".toList)

/-- There is one way to write a term. -/
theorem Term.rightUnique_written {a : Adapter} : Relator.RightUnique (Written a) := by
  intro t text text' h h'
  cases h with
  | sortDown column hdown =>
    cases h' with
    | sortDown _ _ => rfl
    | sortUp _ hup => exact absurd hdown hup
  | sortUp column hup =>
    cases h' with
    | sortDown _ hdown => exact absurd hdown hup
    | sortUp _ _ => rfl
  | name | raw | sort | itemRaw | itemUp | itemDown =>
    cases h'
    rfl

namespace Term

/-- A sort descriptor with an empty column is refused, and nothing else. -/
theorem resolve_eq_error_iff {t : Term} {e : Error} :
    t.resolve = .error e ↔ e = .sortWithoutColumn ∧ ∃ direction, t = .sort "" direction := by
  cases t with
  | sort column direction =>
    rw [resolve]
    split
    · next h =>
      subst h
      constructor
      · rintro ⟨⟩
        exact ⟨rfl, direction, rfl⟩
      · rintro ⟨rfl, -⟩
        rfl
    · next h =>
      constructor
      · rintro ⟨⟩
      · rintro ⟨-, _, ⟨⟩⟩
        exact absurd rfl h
  | name | raw | item => simp [resolve]

/-- The item of a term is written as the term says. -/
theorem written_of_resolve {t : Term} {i : OrderItem} (h : t.resolve = .ok i) (a : Adapter) :
    t.Written a (i.text a) := by
  cases t with
  | name n =>
    cases h
    exact .name n
  | raw sql =>
    cases h
    exact .raw sql
  | item i =>
    cases h
    match i with
    | .raw sql => exact .itemRaw sql
    | .column n .ascending => exact .itemUp n
    | .column n .descending => exact .itemDown n
  | sort column direction =>
    rw [resolve] at h
    split at h
    · cases h
    · cases h
      cases direction with
      | none => exact .sort column
      | some direction =>
        rw [Option.elim_some, Direction.parse_eq]
        split
        · next hdown => exact .sortDown column hdown
        · next hup => exact .sortUp column hup

/-- **Terms are refused together.** One sort descriptor with an empty column is enough, wherever it
stands. -/
theorem resolveAll_eq_error_iff {ts : List Term} {e : Error} :
    resolveAll ts = .error e ↔
      e = .sortWithoutColumn ∧ ∃ direction, Term.sort "" direction ∈ ts := by
  induction ts with
  | nil =>
    constructor
    · rintro ⟨⟩
    · rintro ⟨-, direction, h⟩
      cases h
  | cons t ts ih =>
    rw [resolveAll_cons]
    cases ht : t.resolve with
    | error x =>
      obtain ⟨rfl, direction, rfl⟩ := resolve_eq_error_iff.mp ht
      constructor
      · rintro ⟨⟩
        exact ⟨rfl, direction, List.mem_cons_self⟩
      · rintro ⟨rfl, -⟩
        rfl
    | ok i =>
      -- This term is taken, so it is not the one that is refused.
      have hhere : ∀ direction, Term.sort "" direction ≠ t := by
        rintro direction rfl
        cases ht
      have hmap : (resolveAll ts).map (i :: ·) = .error e ↔ resolveAll ts = .error e := by
        cases resolveAll ts with
        | error x => simp [Except.map]
        | ok is => simp [Except.map]
      have hmem : (∃ direction, Term.sort "" direction ∈ t :: ts) ↔
          ∃ direction, Term.sort "" direction ∈ ts :=
        exists_congr fun direction => List.mem_cons.trans (or_iff_right (hhere direction))
      rw [hmem, ← ih]
      exact hmap

/-- Terms are taken if and only if none of them is refused. -/
theorem exists_resolveAll_iff {ts : List Term} :
    (∃ is, resolveAll ts = .ok is) ↔ ∀ direction, Term.sort "" direction ∉ ts := by
  constructor
  · rintro ⟨is, h⟩ direction hmem
    rw [resolveAll_eq_error_iff.mpr ⟨rfl, direction, hmem⟩] at h
    cases h
  · intro h
    cases hts : resolveAll ts with
    | ok is => exact ⟨is, rfl⟩
    | error e =>
      obtain ⟨-, direction, hmem⟩ := resolveAll_eq_error_iff.mp hts
      exact absurd hmem (h direction)

end Term

/-! ## An order as it is written -/

/-- What is written of an order: the texts of its items with commas between them, and nothing if there
are none. -/
def orderedBy (texts : List (List Char)) : List Char :=
  if texts = [] then [] else " ORDER BY ".toList ++ commaSeparated texts

theorem orderedBy_eq_nil_iff {texts : List (List Char)} : orderedBy texts = [] ↔ texts = [] := by
  rw [orderedBy]
  split <;> simp_all

namespace Select

/-- A statement up to what rows are ordered by. -/
def unordered (s : Select) (source : Fragment) : Fragment :=
  .sql "SELECT " ++ Column.selected s.adapter s.columns ++ .sql " FROM " ++ source ++
    s.whereClause ++ s.groupClause

theorem statement_eq_unordered (s : Select) (source : Fragment) :
    s.statement source =
      ⟨(s.unordered source).text ++ orderedBy (s.order.map (OrderItem.text s.adapter)) ++
        countText " LIMIT " s.limit ++ countText " OFFSET " s.offset,
        (s.unordered source).values⟩ := by
  have horder : s.orderText = orderedBy (s.order.map (OrderItem.text s.adapter)) := by
    rw [orderText, orderedBy]
    cases s.order <;> rfl
  have hstatement : s.statement source = s.unordered source ++ OrderItem.clause s.adapter s.order ++
      countClause " LIMIT " s.limit ++ countClause " OFFSET " s.offset := rfl
  rw [hstatement]
  ext1
  · rw [Fragment.text_append, Fragment.text_append, Fragment.text_append, text_orderClause,
      text_countClause, text_countClause, horder]
  · simp only [Fragment.values_append, values_orderClause, values_countClause, List.append_nil]

/-- **With another end a select compiles as before,** or fails as before, and draws the same names.
Only what is written of the order, the limit and the offset is another. -/
theorem exists_run_compile_withEnd (s : Select) (t : Table) (d : Draws) :
    ∃ (before : Except Error Fragment) (e : Draws),
      ∀ (is : List OrderItem) (limit offset : UInt32),
        (compile { s with order := is, limit, offset } t).run d =
          (before.map fun f => ⟨f.text ++ orderedBy (is.map (OrderItem.text s.adapter)) ++
            countText " LIMIT " limit ++ countText " OFFSET " offset, f.values⟩, e) := by
  have hcheck : ∀ (is : List OrderItem) (limit offset : UInt32),
      checkHaving { s with order := is, limit, offset } = s.checkHaving := fun _ _ _ => rfl
  have hsource : ∀ (is : List OrderItem) (limit offset : UInt32),
      source { s with order := is, limit, offset } t = s.source t := by
    intro is limit offset
    cases t <;> rfl
  simp only [run_compile_source, hcheck, hsource]
  cases s.checkHaving with
  | error x => exact ⟨.error x, d, fun is limit offset => rfl⟩
  | ok _ =>
    rcases (s.source t).run d with ⟨x | f, e⟩
    · exact ⟨.error x, e, fun is limit offset => rfl⟩
    · refine ⟨.ok (s.unordered f), e, fun is limit offset => ?_⟩
      exact congrArg (fun g => (Except.ok g, e)) (statement_eq_unordered _ f)

end Select

/-! ## Giving a query an order -/

namespace Query

variable {q after : Query}

theorem orderBy_eq_ok_iff {terms : Items Term} :
    q.orderBy terms = .ok after ↔
      ∃ is, Term.resolveAll terms.toList = .ok is ∧ after = { q with order := is } := by
  rw [orderBy]
  cases Term.resolveAll terms.toList with
  | error e =>
    constructor
    · rintro ⟨⟩
    · rintro ⟨_, ⟨⟩, -⟩
  | ok is =>
    constructor
    · rintro ⟨⟩
      exact ⟨is, rfl, rfl⟩
    · rintro ⟨_, ⟨⟩, rfl⟩
      rfl

theorem orderBy_eq_error_iff {terms : Items Term} {e : Error} :
    q.orderBy terms = .error e ↔ Term.resolveAll terms.toList = .error e := by
  rw [orderBy]
  cases Term.resolveAll terms.toList with
  | error x =>
    constructor
    · rintro ⟨⟩
      rfl
    · rintro ⟨⟩
      rfl
  | ok is =>
    constructor
    · rintro ⟨⟩
    · rintro ⟨⟩

/-- What is written of the terms of an order, and around it. -/
theorem exists_run_compile_orderBy {terms : Items Term} (h : q.orderBy terms = .ok after) :
    ∃ texts : List (List Char), List.Forall₂ (Term.Written q.adapter) terms.toList texts ∧
      ∀ d : Draws, ∃ (before : Except Error Fragment) (e : Draws),
        ({ q with order := [] } : Query).compile.run d = (before.map fun f =>
          ⟨f.text ++ countText " LIMIT " q.limit ++ countText " OFFSET " q.offset, f.values⟩, e) ∧
        after.compile.run d = (before.map fun f =>
          ⟨f.text ++ orderedBy texts ++ countText " LIMIT " q.limit ++
            countText " OFFSET " q.offset, f.values⟩, e) := by
  obtain ⟨is, his, rfl⟩ := orderBy_eq_ok_iff.mp h
  refine ⟨is.map (OrderItem.text q.adapter), ?_, fun d => ?_⟩
  · rw [List.forall₂_map_right_iff]
    exact (Term.forall₂_of_resolveAll his).imp fun t i ht => Term.written_of_resolve ht q.adapter
  · obtain ⟨before, e, hrun⟩ := q.toSelect.exists_run_compile_withEnd q.table d
    have hnone := hrun [] q.limit q.offset
    simp only [List.map_nil, orderedBy, if_pos, List.append_nil] at hnone
    exact ⟨before, e, hnone, hrun is q.limit q.offset⟩

end Query

/-! ## The step of a session -/

namespace Session

variable {s : Session} {name : String} {q : Query}

theorem step_orderBy (hq : s.queries.get? name = some q) (terms : Items Term) :
    s.step (.call name (.orderBy terms)) =
      match q.orderBy terms with
      | .ok after => (.query after, s.store name after)
      | .error e => (.error e, s) := by
  have hresolve : CallRef.resolve s.queries (.orderBy terms) = .ok (.orderBy terms) := rfl
  rw [step_call hq hresolve rfl, Change.apply, Drawing.run_lift]
  cases q.orderBy terms <;> rfl

/-- **An order is taken as a whole, and it keeps its terms.** In whatever shape terms are handed in,
they are refused if and only if one of them is a sort descriptor with an empty column; that is an
invalid argument, and the session stays as it is. Else the query gets another order and is the same in
everything else. It compiles, or fails to, as it does without an order, but for one clause before the
limit: an item for each term, in their order, and no clause if there are no terms. -/
theorem orderBy_all_or_nothing (hq : s.queries.get? name = some q) (c : Container Term) :
    ((∃ after, q.orderBy c.toItems = .ok after) ↔ ∀ direction, Term.sort "" direction ∉ c.toList) ∧
    (∀ e, q.orderBy c.toItems = .error e →
      e = .sortWithoutColumn ∧ e.kind = .invalidArgument ∧
        s.step (.call name (.orderBy c.toItems)) = (.error e, s)) ∧
    ∀ after, q.orderBy c.toItems = .ok after →
      s.step (.call name (.orderBy c.toItems)) = (.query after, s.store name after) ∧
      after = { q with order := after.order } ∧
      ∃ texts : List (List Char),
        (∀ others, List.Forall₂ (Term.Written q.adapter) c.toList others ↔ others = texts) ∧
        (orderedBy texts = [] ↔ c.toList = []) ∧
        ∀ d : Draws, ∃ (before : Except Error Fragment) (e : Draws),
          ({ q with order := [] } : Query).compile.run d = (before.map fun f =>
            ⟨f.text ++ countText " LIMIT " q.limit ++ countText " OFFSET " q.offset, f.values⟩, e) ∧
          after.compile.run d = (before.map fun f =>
            ⟨f.text ++ orderedBy texts ++ countText " LIMIT " q.limit ++
              countText " OFFSET " q.offset, f.values⟩, e) := by
  rw [← c.toList_toItems]
  refine ⟨?taken, ?refused, ?made⟩
  case taken =>
    rw [← Term.exists_resolveAll_iff]
    constructor
    · rintro ⟨after, h⟩
      obtain ⟨is, his, -⟩ := Query.orderBy_eq_ok_iff.mp h
      exact ⟨is, his⟩
    · rintro ⟨is, his⟩
      exact ⟨_, Query.orderBy_eq_ok_iff.mpr ⟨is, his, rfl⟩⟩
  case refused =>
    intro e h
    obtain ⟨rfl, -⟩ := Term.resolveAll_eq_error_iff.mp (Query.orderBy_eq_error_iff.mp h)
    refine ⟨rfl, rfl, ?_⟩
    rw [step_orderBy hq, h]
  case made =>
    intro after h
    obtain ⟨is, -, hafter⟩ := Query.orderBy_eq_ok_iff.mp h
    obtain ⟨texts, hwritten, hrun⟩ := Query.exists_run_compile_orderBy h
    refine ⟨?_, by rw [hafter], texts, ?_, ?_, hrun⟩
    · rw [step_orderBy hq, h]
    · intro others
      constructor
      · intro hothers
        exact Term.rightUnique_written.forall₂ hothers hwritten
      · rintro rfl
        exact hwritten
    · rw [orderedBy_eq_nil_iff, ← List.length_eq_zero_iff, ← hwritten.length_eq,
        List.length_eq_zero_iff]

/-- Terms of each kind, in a list. An empty name is a name; a descriptor without a column is found at
the end. -/
theorem orderBy_all_or_nothing_mixed :
    ∃ (s : Session) (q after : Query) (terms refused : List Term) (texts : List (List Char)),
      s = (run {} [
        .create "q" (.dialect .mySql) (.sequence "t") (.given (.name "a")),
        .call "q" (.setLimit (.integer 3)),
        .call "q" (.orderBy (.one (.name "old")))]).2 ∧
      s.queries.get? "q" = some q ∧
      terms = [.raw "x asc", .name "", .sort "b" (some "DeSc"), .sort "c" (some "descending"),
        .item (.column "d" .descending)] ∧
      q.orderBy (Container.sequence terms).toItems = .ok after ∧
      s.step (.call "q" (.orderBy (Container.sequence terms).toItems))
        = (.query after, s.store "q" after) ∧
      texts = ["x asc".toList, "``".toList, "`b` DESC".toList, "`c`".toList,
        "`d` DESC".toList] ∧
      List.Forall₂ (Term.Written q.adapter) terms texts ∧
      after.compile.run ∅
        = (.ok ⟨"SELECT * FROM `a` ORDER BY x asc, ``, `b` DESC, ".toList ++
            "`c`, `d` DESC LIMIT 3".toList, []⟩, ∅) ∧
      refused = terms ++ [.sort "" none] ∧
      s.step (.call "q" (.orderBy (Container.sequence refused).toItems))
        = (.error .sortWithoutColumn, s) := by
  let terms : List Term := [.raw "x asc", .name "", .sort "b" (some "DeSc"),
    .sort "c" (some "descending"), .item (.column "d" .descending)]
  let q : Query :=
    { adapter := .dialect .mySql, aliases := .sequence "t", table := .name "a", limit := 3,
      order := [.column "old" .ascending] }
  let after : Query :=
    { q with order := [.raw "x asc", .column "" .ascending, .column "b" .descending,
      .column "c" .ascending, .column "d" .descending] }
  refine ⟨_, q, after, terms, _, _, rfl, ?store, rfl, ?order, ?step, rfl, ?written, ?compile, rfl,
    ?refused⟩
  case step => exact ((orderBy_all_or_nothing ?store (.sequence terms)).2.2 after ?order).1
  case refused =>
    exact ((orderBy_all_or_nothing ?store (.sequence (terms ++ [.sort "" none]))).2.1 _ rfl).2.2
  case store => rfl
  case order => rfl
  case written =>
    exact .cons (.raw _) (.cons (.name _) (.cons (.sortDown _ (by decide))
      (.cons (.sortUp _ (by decide)) (.cons (.itemDown _) .nil))))
  case compile =>
    show @Eq (Except Error Fragment × Draws) _ _
    decide +kernel

end Session

end SqlSelect
