import SqlSelect.Proofs.Congruence
import SqlSelect.Proofs.Outline

/-!
# Placeholders and their values

A statement has a placeholder for each value, and the values stand in the order of their
placeholders. Values and text come together from predicates, lists and derived tables, so this says
more than that the two numbers agree: it makes no difference whether values are written for the
placeholders of a whole statement, from left to right, or before, in each piece for its own
placeholders (`Session.fill_statement`).

## What has to be asked for

A `?` is a placeholder wherever it stands. So pieces that come with values must have as many of them
as values, and all else that is handed in must have none (`Outline.Aligned`). A predicate on groups
counts only where it is written. Of adapters and sources of names only those with a rule of the
caller have to be asked: dialects and sequences add no `?` of their own. If all that the steps of a
session hand in is like this, so is every query of it (`Outline.Leaves.aligned`).
-/

namespace SqlSelect

variable {r : Value → List Char}

/-! ## Writing values for placeholders -/

/-- A text with values written for its placeholders, from left to right. -/
def fill (r : Value → List Char) : List Char → List Value → List Char
  | [], _ => []
  | c :: cs, [] => c :: cs
  | c :: cs, v :: vs => if c = '?' then r v ++ fill r cs vs else c :: fill r cs (v :: vs)

theorem fill_nil : ∀ cs : List Char, fill r cs [] = cs
  | [] => rfl
  | _ :: _ => rfl

theorem fill_cons_of_ne {c : Char} (hc : c ≠ '?') (cs : List Char) :
    ∀ vs : List Value, fill r (c :: cs) vs = c :: fill r cs vs
  | [] => by rw [fill, fill_nil]
  | v :: vs => by rw [fill, if_neg hc]

theorem fill_placeholder (cs : List Char) (v : Value) (vs : List Value) :
    fill r ('?' :: cs) (v :: vs) = r v ++ fill r cs vs := by
  rw [fill, if_pos rfl]

/-- With a value for each placeholder of the first text, the others are left to the second. -/
theorem fill_append : ∀ {cs : List Char} {vs : List Value}, cs.count '?' = vs.length →
    ∀ (ds : List Char) (ws : List Value),
      fill r (cs ++ ds) (vs ++ ws) = fill r cs vs ++ fill r ds ws
  | [], [], _, _, _ => rfl
  | [], _ :: _, h, _, _ => by simp at h
  | c :: cs, vs, h, ds, ws => by
    by_cases hc : c = '?'
    · subst hc
      rw [List.count_cons_self] at h
      cases vs with
      | nil => simp at h
      | cons v vs =>
        have hcs : cs.count '?' = vs.length := by
          rw [List.length_cons] at h
          omega
        rw [List.cons_append, List.cons_append, fill_placeholder, fill_placeholder,
          fill_append hcs, List.append_assoc]
    · rw [List.count_cons_of_ne hc] at h
      rw [List.cons_append, fill_cons_of_ne hc, fill_cons_of_ne hc, fill_append h,
        List.cons_append]

namespace Fragment

/-- A value for each placeholder. -/
def Aligned (f : Fragment) : Prop := f.text.count '?' = f.values.length

instance (f : Fragment) : Decidable f.Aligned := inferInstanceAs (Decidable (_ = _))

/-- A piece with its values written for its placeholders. -/
def filled (r : Value → List Char) (f : Fragment) : Fragment := ⟨fill r f.text f.values, []⟩

/-- The first piece has a value for each placeholder, the second has them written there. -/
def Filled (r : Value → List Char) (f g : Fragment) : Prop := f.Aligned ∧ g = f.filled r

theorem Aligned.filled_self {f : Fragment} (h : f.Aligned) : f.Filled r (f.filled r) := ⟨h, rfl⟩

theorem filled_of_not_mem {text : List Char} (h : '?' ∉ text) : Filled r ⟨text, []⟩ ⟨text, []⟩ := by
  refine ⟨List.count_eq_zero.mpr h, ?_⟩
  ext1
  · exact (fill_nil text).symm
  · rfl

theorem filled_sql {w : String} (h : '?' ∉ w.toList) : Filled r (.sql w) (.sql w) :=
  filled_of_not_mem h

theorem Filled.append {a a' b b' : Fragment} (ha : a.Filled r a') (hb : b.Filled r b') :
    (a ++ b).Filled r (a' ++ b') := by
  obtain ⟨ha, rfl⟩ := ha
  obtain ⟨hb, rfl⟩ := hb
  constructor
  · show (a.text ++ b.text).count '?' = (a.values ++ b.values).length
    rw [List.count_append, List.length_append, ha, hb]
  · ext1
    · exact (fill_append ha b.text b.values).symm
    · rfl

/-- Writing values for placeholders goes through everything a statement is put together by. -/
theorem congruence_filled (r : Value → List Char) : Congruence (Filled r) where
  word h := filled_sql (not_mem_of_isWord h rfl)
  enclose h := ((filled_sql (w := "(") (by decide)).append h).append
    (filled_sql (w := ")") (by decide))
  append := Filled.append

end Fragment

/-! ## Names without placeholders -/

/-- A character of a joined text is one of the separator or of a part. -/
theorem mem_of_mem_intercalate {c : Char} {separator : List Char} :
    ∀ {parts : List (List Char)}, c ∈ separator.intercalate parts →
      c ∈ separator ∨ ∃ part ∈ parts, c ∈ part
  | [], h => absurd h List.not_mem_nil
  | [part], h => by
    rw [List.intercalate_singleton] at h
    exact .inr ⟨part, List.mem_cons_self, h⟩
  | part :: next :: parts, h => by
    rw [List.intercalate_cons_cons] at h
    rcases List.mem_append.mp h with h | h
    · rcases List.mem_append.mp h with h | h
      · exact .inr ⟨part, List.mem_cons_self, h⟩
      · exact .inl h
    · rcases mem_of_mem_intercalate h with hs | ⟨p, hp, hc⟩
      · exact .inl hs
      · exact .inr ⟨p, List.mem_cons_of_mem _ hp, hc⟩

theorem mem_intercalate {c : Char} (separator : List Char) {part : List Char} (hc : c ∈ part) :
    ∀ {parts : List (List Char)}, part ∈ parts → c ∈ separator.intercalate parts
  | [other], h => by
    rw [List.intercalate_singleton, ← List.mem_singleton.mp h]
    exact hc
  | other :: next :: parts, h => by
    rw [List.intercalate_cons_cons]
    rcases List.mem_cons.mp h with rfl | h
    · exact List.mem_append_left _ (List.mem_append_left _ hc)
    · exact List.mem_append_right _ (mem_intercalate separator hc h)

namespace Quotes

/-- A quoted name has no characters but those of the name, the quotes and the dots. -/
theorem mem_quote {q : Quotes} {c : Char} {name : List Char} (h : c ∈ q.quote name) :
    c ∈ name ∨ c = q.opening ∨ c = q.closing ∨ c = '.' := by
  rcases mem_of_mem_intercalate h with h | ⟨part, hpart, hc⟩
  · exact .inr (.inr (.inr (List.mem_singleton.mp h)))
  · obtain ⟨p, hp, rfl⟩ := List.mem_map.mp hpart
    have hname : c ∈ p → c ∈ name := by
      intro hcp
      have h := mem_intercalate ['.'] hcp hp
      rwa [List.intercalate_splitOn] at h
    unfold quotePart at hc
    split at hc
    · exact .inl (hname hc)
    · unfold enclose at hc
      simp only [List.mem_cons, List.mem_append, List.mem_flatMap, List.not_mem_nil,
        or_false] at hc
      rcases hc with rfl | ⟨x, hx, hc⟩ | rfl
      · exact .inr (.inl rfl)
      · have hcx : c = x := by
          unfold quoteChar at hc
          split at hc <;> simpa using hc
        exact .inl (hname (hcx ▸ hx))
      · exact .inr (.inr (.inl rfl))

end Quotes

/-- A rule of the caller for names adds no placeholders. -/
def Adapter.Unmarked : Adapter → Prop
  | .plain | .dialect _ => True
  | .custom rule => ∀ name : List Char, '?' ∉ name → '?' ∉ rule name

theorem Adapter.Unmarked.not_mem_quote {a : Adapter} (h : a.Unmarked) {name : List Char}
    (hn : '?' ∉ name) : '?' ∉ a.quote name := by
  cases a with
  | plain => exact hn
  | dialect d =>
    intro hq
    have hchars := Quotes.mem_quote hq
    cases d <;> simp [hn, Dialect.quotes] at hchars
  | custom rule => exact h name hn

/-- A rule of the caller for the names of derived tables adds no placeholders. -/
def AliasSource.Unmarked : AliasSource → Prop
  | .sequence _ => True
  | .custom _ rule => ∀ start n, '?' ∉ start.toList → '?' ∉ (rule start n).toList

theorem AliasSource.Unmarked.not_mem_spell {source : AliasSource} (h : source.Unmarked)
    {start : String} (hs : '?' ∉ start.toList) (n : Nat) :
    '?' ∉ (source.spell start n).toList := by
  cases source with
  | sequence name =>
    show '?' ∉ (start ++ toString n).toList
    rw [String.toList_append, List.mem_append, not_or]
    exact ⟨hs, not_mem_of_isWord (isWord_toString n) rfl⟩
  | custom name rule => exact h start n hs

/-! ## What is asked of a query -/

/-- No placeholder in a column. -/
def Column.Unmarked : Column → Prop
  | .name n => '?' ∉ n.toList
  | .raw sql => '?' ∉ sql.toList

def OrderItem.Unmarked : OrderItem → Prop
  | .column n _ => '?' ∉ n.toList
  | .raw sql => '?' ∉ sql.toList

def BaseTable.Unmarked : BaseTable → Prop
  | .name n => '?' ∉ n.toList
  | .raw sql => '?' ∉ sql.toList

namespace Select

/-- No placeholder in the clauses besides the predicates, but for a predicate on groups: where it is
written, it has a value for each placeholder. -/
structure Aligned (s : Select) : Prop where
  adapter : s.adapter.Unmarked
  columns : ∀ c ∈ s.columns, c.Unmarked
  groupColumns : ∀ g, s.group = some g → ∀ c ∈ g.columns, c.Unmarked
  having : ∀ g having, s.group = some g → g.columns ≠ [] → g.having = some having → having.Aligned
  order : ∀ i ∈ s.order, i.Unmarked

/-- No placeholder in the name of a derived table. -/
structure NamesUnmarked (s : Select) : Prop where
  aliases : s.aliases.Unmarked
  start : ∀ start, s.options.getText aliasPrefixKey = .ok start → '?' ∉ start.toList

/-- The clauses with the values of the predicate on groups written for its placeholders. -/
def filled (r : Value → List Char) (s : Select) : Select :=
  { s with group := s.group.map fun g => { g with having := g.having.map (Fragment.filled r) } }

end Select

namespace Outline

/-- A value for each placeholder of what comes with values, no placeholder in all else that is
handed in. -/
def Aligned : Outline → Prop
  | on s t => s.Aligned ∧ t.Unmarked
  | onQuery s inner => s.Aligned ∧ s.NamesUnmarked ∧ inner.Aligned
  | filter o predicate => o.Aligned ∧ predicate.Aligned
  | among o _ column _ => o.Aligned ∧ '?' ∉ column.toList
  | amongRows o _ column inner _ => o.Aligned ∧ '?' ∉ column.toList ∧ inner.Aligned

/-- The query that is put together when values are written for placeholders in each piece: where it
is handed in, in lists item by item, and in a query inside a predicate before it is compiled. -/
def filled (r : Value → List Char) : Outline → Query
  | on s t => { s.filled r with predicates := [], table := t.toTable }
  | onQuery s inner => { s.filled r with predicates := [], table := (inner.filled r).asTable }
  | filter o predicate => (o.filled r).addPredicate (predicate.filled r)
  | among o m column vs =>
    (o.filled r).addPredicate (m.predicate (o.filled r).adapter column
      (.join ", " (vs.map fun v => ⟨r v, []⟩)))
  | amongRows o m column inner d =>
    (o.filled r).after (.filterIn m column (.query (inner.filled r))) d

end Outline

/-! ## What is asked of a session -/

/-- A value for each placeholder. -/
def Input.Aligned : Input → Prop
  | .adapter a => a.Unmarked
  | .aliases source => source.Unmarked
  | .start text | .name text | .raw text => '?' ∉ text.toList
  | .predicate f => f.Aligned

theorem BaseTable.unmarked_of_input {t : BaseTable} (h : t.input.Aligned) : t.Unmarked := by
  cases t <;> exact h

theorem Column.unmarked_of_input {c : Column} (h : c.input.Aligned) : c.Unmarked := by
  cases c <;> exact h

theorem OrderItem.unmarked_of_input {i : OrderItem} (h : i.input.Aligned) : i.Unmarked := by
  cases i <;> exact h

namespace Select.Leaves

variable {s : Select}

theorem aligned (h : s.Leaves Input.Aligned) : s.Aligned where
  adapter := h.adapter
  columns c hc := Column.unmarked_of_input (h.columns c hc)
  groupColumns g hg c hc := Column.unmarked_of_input (h.groupColumns g hg c hc)
  having := h.having
  order i hi := OrderItem.unmarked_of_input (h.order i hi)

theorem namesUnmarked (h : s.Leaves Input.Aligned) : s.NamesUnmarked where
  aliases := h.aliases
  start _ := h.start_of_getText (show '?' ∉ "t_".toList by decide)

end Select.Leaves

/-- An outline is aligned if all that is handed in is. -/
theorem Outline.Leaves.aligned {o : Outline} (h : o.Leaves Input.Aligned) : o.Aligned := by
  induction o with
  | on s t => exact ⟨h.1.aligned, BaseTable.unmarked_of_input h.2⟩
  | onQuery s inner ih => exact ⟨h.1.aligned, h.1.namesUnmarked, ih h.2⟩
  | filter o predicate ih => exact ⟨ih h.1, h.2⟩
  | among o m column vs ih => exact ⟨ih h.1, h.2⟩
  | amongRows o m column inner d ih ihinner => exact ⟨ih h.1, h.2.1, ihinner h.2.2⟩

/-! ## Pieces of a query -/

open Fragment

theorem Fragment.filled_name {a : Adapter} (ha : a.Unmarked) {n : String} (hn : '?' ∉ n.toList) :
    Filled r (.name a n) (.name a n) := filled_of_not_mem (ha.not_mem_quote hn)

theorem Column.Unmarked.filled {a : Adapter} (ha : a.Unmarked) :
    ∀ {c : Column}, c.Unmarked → Filled r (c.fragment a) (c.fragment a)
  | .name _, h => filled_name ha h
  | .raw _, h => filled_sql h

theorem OrderItem.Unmarked.filled {a : Adapter} (ha : a.Unmarked) :
    ∀ {i : OrderItem}, i.Unmarked → Filled r (i.fragment a) (i.fragment a)
  | .column _ .ascending, h => (filled_name ha h).append (congruence_filled r).empty
  | .column _ .descending, h => (filled_name ha h).append (filled_sql (by decide))
  | .raw _, h => filled_sql h

/-- The values of a list, each in its own place. -/
theorem Fragment.filled_placeholders (vs : List Value) :
    Filled r (placeholders vs) (.join ", " (vs.map fun v => ⟨r v, []⟩)) := by
  refine (congruence_filled r).join (by decide) ?_
  rw [List.forall₂_map_left_iff, List.forall₂_map_right_iff, List.forall₂_same]
  intro v _
  refine ⟨rfl, ?_⟩
  ext1
  · show r v = fill r ['?'] [v]
    rw [fill_placeholder, fill_nil, List.append_nil]
  · rfl

/-- Clauses are alike their filled ones, when no predicates are counted. -/
theorem Select.Aligned.alike {s : Select} (h : s.Aligned) :
    Select.Alike (Filled r) { s with predicates := [] } { s.filled r with predicates := [] } where
  columns := forall₂_map_self fun c hc => (h.columns c hc).filled h.adapter
  predicates := .nil
  group := by
    show Option.Rel _ s.group (s.group.map _)
    cases hg : s.group with
    | none => exact .none
    | some g =>
      refine .some ⟨?_, ?_, ?_⟩
      · exact forall₂_map_self fun c hc => (h.groupColumns g hg c hc).filled h.adapter
      · exact Option.isSome_map
      · intro hcolumns
        show Option.Rel _ g.having (g.having.map _)
        cases hh : g.having with
        | none => exact .none
        | some having => exact .some (h.having g having hg hcolumns hh).filled_self
  order := forall₂_map_self fun i hi => (h.order i hi).filled h.adapter
  limit := rfl
  offset := rfl
  options := rfl
  aliases := rfl

/-! ## Whole queries -/

namespace Outline

theorem adapter_filled : ∀ o : Outline, (o.filled r).adapter = o.query.adapter
  | on _ _ | onQuery _ _ => rfl
  | filter o _ => adapter_filled o
  | among o _ _ _ => adapter_filled o
  | amongRows o m column inner d => by
    rw [filled, query, Query.adapter_after_filterIn, Query.adapter_after_filterIn,
      adapter_filled o]

theorem Aligned.adapter : ∀ {o : Outline}, o.Aligned → o.query.adapter.Unmarked
  | on _ _, h | onQuery _ _, h => h.1.adapter
  | filter o _, h => adapter (o := o) h.1
  | among o _ _ _, h => adapter (o := o) h.1
  | amongRows o m column inner d, h => by
    rw [adapter_amongRows]
    exact adapter h.1

/-- At every level, in derived tables and in predicates, the query with its values written is alike
the query with placeholders. -/
theorem Aligned.alike {o : Outline} (h : o.Aligned) : o.query.Alike (Filled r) (o.filled r) := by
  induction o with
  | on s t =>
    cases t with
    | name n => exact .name h.1.alike (filled_name h.1.adapter h.2)
    | raw sql => exact .raw h.1.alike (filled_sql h.2)
  | onQuery s inner ih =>
    obtain ⟨hs, hnames, hinner⟩ := h
    refine .derived hs.alike ?_ (ih hinner)
    intro start n hstart
    exact filled_name hs.adapter (hnames.aliases.not_mem_spell (hnames.start start hstart) n)
  | filter o predicate ih => exact (ih h.1).addPredicate h.2.filled_self
  | among o m column vs ih =>
    refine (ih h.1).addPredicate ?_
    rw [adapter_filled]
    exact (congruence_filled r).predicate m (filled_name h.1.adapter h.2) (filled_placeholders vs)
  | amongRows o m column inner d ih ihinner =>
    obtain ⟨ho, hcolumn, hinner⟩ := h
    refine (ih ho).after_filterIn (congruence_filled r) m (ihinner hinner) d ?_
    rw [adapter_filled]
    exact filled_name ho.adapter hcolumn

end Outline

/-- **Values stand in the order of their placeholders.** Every query of a session is put together
from what its steps handed in; if in all that they hand in there is a value for each placeholder, then
also in what it is put together from. However it is put together: if what comes with values has one
for each placeholder, and all else has none, then a statement of the query has a value for each
placeholder, and writing them there from left to right gives the statement of the query in which
they are written piece by piece. -/
theorem Session.fill_statement {d : Draws} {steps : List Step} {name : String} {q : Query}
    (hq : (Session.run { draws := d } steps).2.queries.get? name = some q) :
    (∃ o : Outline, o.Leaves (Step.HandedIn steps) ∧ o.query = q ∧
        ((∀ step ∈ steps, step.Hands Input.Aligned) → o.Aligned)) ∧
      ∀ o : Outline, o.query = q → o.Aligned →
        ∀ (before after : Draws) (s : Fragment), q.compile.run before = (.ok s, after) →
          s.text.count '?' = s.values.length ∧
            ∀ r : Value → List Char,
              (o.filled r).compile.run before = (.ok ⟨fill r s.text s.values, []⟩, after) := by
  obtain ⟨o, ho, hquery⟩ := exists_outline hq
  refine ⟨⟨o, ho, hquery, fun h => (ho.mono (Step.HandedIn.of_hands h)).aligned⟩, ?_⟩
  rintro o rfl ho before after s hs
  -- That the numbers agree does not depend on what is written for the values.
  have hfilled : ∀ r, s.Aligned ∧
      (o.filled r).compile.run before = (.ok (s.filled r), after) := by
    intro r
    have halike := ho.alike.run_compile (congruence_filled r) before
    rw [hs] at halike
    generalize (o.filled r).compile.run before = x at halike ⊢
    cases halike with
    | ok _ h => exact ⟨h.1, by rw [h.2]⟩
  exact ⟨(hfilled fun _ => []).1, fun r => (hfilled r).2⟩

/-- Values of a derived table, of a list, of a query inside a predicate and of a predicate on
groups. -/
theorem Session.fill_statement_nested :
    ∃ (steps : List Step) (o : Outline) (s : Fragment),
      steps = [
        .create "a" .plain (.sequence "t") (.given (.name "a")),
        .call "a" (.filter "x > ?" (.one (.int32 7))),
        .create "b" .plain (.sequence "t") (.given (.name "b")),
        .call "b" (.filter "y = ?" (.one (.int32 2))),
        .create "q" (.dialect .mySql) (.sequence "t") (.moveOf "a"),
        .call "q" (.filterIn .among "k" (.values (.many [.int32 1, .int32 3]))),
        .call "q" (.filterIn .notAmong "i" (.query "b")),
        .call "q" (.groupByHaving (.given (.text "i")) "z < ?" (.one (.int32 9)))] ∧
      (Session.run {} steps).2.queries.get? "q" = some o.query ∧
      (∀ step ∈ steps, step.Hands Input.Aligned) ∧
      (∃ o' : Outline, o'.Leaves (Step.HandedIn steps) ∧ o'.query = o.query ∧ o'.Aligned) ∧
      o.Aligned ∧
      o.query.compile.run ∅ = (.ok s, ⟨[⟨"t", "t_"⟩]⟩) ∧
      s = ⟨"SELECT * FROM (SELECT * FROM a WHERE (x > ?)) AS `t_1`".toList ++
            " WHERE (`k` IN (?, ?)) AND (`i` NOT IN (SELECT * FROM b WHERE (y = ?)))".toList ++
            " GROUP BY `i` HAVING z < ?".toList,
          [.int32 7, .int32 1, .int32 3, .int32 2, .int32 9]⟩ ∧
      s.text.count '?' = s.values.length ∧
      (o.filled fun v => v.inspect.toList).compile.run ∅
        = (.ok ⟨fill (fun v => v.inspect.toList) s.text s.values, []⟩, ⟨[⟨"t", "t_"⟩]⟩) := by
  let a : Outline := .filter (.on { adapter := .plain, aliases := .sequence "t" } (.name "a"))
    ⟨"x > ?".toList, [.int32 7]⟩
  let b : Outline := .filter (.on { adapter := .plain, aliases := .sequence "t" } (.name "b"))
    ⟨"y = ?".toList, [.int32 2]⟩
  let group : Group := ⟨[.name "i"], some ⟨"z < ?".toList, [.int32 9]⟩⟩
  let q : Outline := .onQuery
    { adapter := .dialect .mySql, aliases := .sequence "t", group := some group } a
  let o : Outline := .amongRows (.among q .among "k" [.int32 1, .int32 3]) .notAmong "i" b ∅
  have ho : o.Aligned := by
    have hbare : ∀ source, Select.Aligned { adapter := .plain, aliases := source } :=
      fun _ => ⟨trivial, by simp, by simp, by simp, by simp⟩
    have ha : a.Aligned := ⟨⟨hbare _, show '?' ∉ "a".toList by decide⟩, by decide⟩
    have hb : b.Aligned := ⟨⟨hbare _, show '?' ∉ "b".toList by decide⟩, by decide⟩
    have hq : q.Aligned := by
      refine ⟨⟨trivial, by simp, ?_, ?_, by simp⟩, ⟨trivial, ?_⟩, ha⟩
      · rintro _ ⟨⟩ c hc
        rw [List.mem_singleton.mp hc]
        exact show '?' ∉ "i".toList by decide
      · rintro _ _ ⟨⟩ - ⟨⟩
        rfl
      · rintro _ ⟨⟩
        decide
    exact ⟨⟨hq, by decide⟩, by decide, hb⟩
  refine ⟨_, o, _, rfl, ?store, ?hands, ?outline, ho, ?compile, rfl,
    ((Session.fill_statement ?store).2 o rfl ho _ _ _ ?compile).1,
    ((Session.fill_statement ?store).2 o rfl ho _ _ _ ?compile).2 _⟩
  case outline =>
    obtain ⟨o', hleaves, hquery, haligned⟩ := (Session.fill_statement ?store).1
    exact ⟨o', hleaves, hquery, haligned ?hands⟩
  case store => rfl
  case hands =>
    simp [Step.Hands, Selection.toList, Selection.items, Items.toList, Input.Aligned,
      Adapter.Unmarked, AliasSource.Unmarked, Fragment.Aligned]
  case compile =>
    show @Eq (Except Error Fragment × Draws) _ _
    decide +kernel

end SqlSelect
