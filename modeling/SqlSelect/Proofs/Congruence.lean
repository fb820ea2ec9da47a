import Mathlib.Data.List.Forall2
import SqlSelect.Query.Compile

/-!
# Queries that differ in their pieces

Two queries may have the same clauses and differ in the pieces of SQL in them: other names, other
predicates, other values. If corresponding pieces are related, and the relation survives putting
pieces together, then the statements are related: the two compile to the same outcome, ask for the
same names, and where one statement is `a` and the other `b`, `a` and `b` are related
(`Query.Alike.run_compile`).

What a statement consists of, besides the pieces that are handed in, are words and parentheses. So
three conditions are asked of a relation (`Fragment.Congruence`): it relates every word to itself,
and is kept by parentheses and by joining.
-/

namespace SqlSelect

/-! ## Words and parentheses -/

/-- A text of letters, digits, blanks, commas and `*`: what keywords and counts are written with. -/
def isWord (w : String) : Bool :=
  w.toList.all fun c => c.isAlphanum || c == ' ' || c == ',' || c == '*'

theorem isWord_append {v w : String} (hv : isWord v = true) (hw : isWord w = true) :
    isWord (v ++ w) = true := by
  unfold isWord at *
  rw [String.toList_append, List.all_append, hv, hw]
  rfl

theorem isWord_toString (n : Nat) : isWord (toString n) = true := by
  unfold isWord
  rw [Nat.toString_eq_repr, Nat.toList_repr, List.all_eq_true]
  intro c hc
  have hd : c.isDigit = true := Nat.isDigit_of_mem_toDigits (by decide) (by decide) hc
  simp [Char.isAlphanum, hd]

/-- What is in no word by itself is in no word at all. -/
theorem not_mem_of_isWord {w : String} {c : Char} (h : isWord w = true)
    (hc : isWord (.singleton c) = false) : c ∉ w.toList := by
  intro hmem
  have hw := List.all_eq_true.mp h c hmem
  rw [isWord, String.toList_singleton, List.all_cons, List.all_nil, Bool.and_true] at hc
  rw [hc] at hw
  cases hw

namespace Fragment

/-- A piece in parentheses. -/
def enclose (f : Fragment) : Fragment := .sql "(" ++ f ++ .sql ")"

/-- Pieces with closing and opening parentheses between them, and parentheses around. -/
theorem enclose_join (f : Fragment) (fs : List Fragment) :
    .sql "(" ++ join ") AND (" (f :: fs) ++ .sql ")" = join " AND " ((f :: fs).map enclose) := by
  induction fs generalizing f with
  | nil => rw [join_singleton, List.map_singleton, join_singleton, enclose]
  | cons g gs ih =>
    rw [join_cons_cons, List.map_cons, List.map_cons, join_cons_cons, ← List.map_cons, ← ih g,
      enclose]
    ext1 <;> simp

/-! ## Relations that survive writing -/

/-- A relation between pieces that holds of words and is kept by putting pieces together. -/
structure Congruence (R : Fragment → Fragment → Prop) : Prop where
  word {w : String} : isWord w = true → R (.sql w) (.sql w)
  enclose {a b : Fragment} : R a b → R a.enclose b.enclose
  append {a a' b b' : Fragment} : R a a' → R b b' → R (a ++ b) (a' ++ b')

variable {R : Fragment → Fragment → Prop}

theorem Congruence.empty (hR : Congruence R) : R ∅ ∅ := hR.word (w := "") rfl

theorem Congruence.join (hR : Congruence R) {separator : String}
    (hs : isWord separator = true) : ∀ {fs gs : List Fragment}, List.Forall₂ R fs gs →
      R (join separator fs) (join separator gs)
  | [], [], .nil => hR.empty
  | [f], [g], .cons h .nil => by
    rw [join_singleton, join_singleton]
    exact h
  | f :: f' :: fs, g :: g' :: gs, .cons h hrest => by
    rw [join_cons_cons, join_cons_cons]
    exact hR.append (hR.append h (hR.word hs)) (hR.join hs hrest)

end Fragment

variable {R : Fragment → Fragment → Prop}

/-! ## Related clauses -/

theorem forall₂_map_self {α : Type} {write : α → Fragment} {as : List α}
    (h : ∀ a ∈ as, R (write a) (write a)) : List.Forall₂ R (as.map write) (as.map write) := by
  rw [List.forall₂_map_left_iff, List.forall₂_map_right_iff]
  exact List.forall₂_same.mpr h

/-- Groups by related columns. Their predicates have to be related only if they are written. -/
structure Group.Alike (R : Fragment → Fragment → Prop) (a a' : Adapter) (g g' : Group) :
    Prop where
  columns : List.Forall₂ R (g.columns.map (Column.fragment a)) (g'.columns.map (Column.fragment a'))
  having_isSome : g'.having.isSome = g.having.isSome
  having : g.columns ≠ [] → Option.Rel R g.having g'.having

/-- Selects with the same clauses and related pieces in them. -/
structure Select.Alike (R : Fragment → Fragment → Prop) (s s' : Select) : Prop where
  columns : List.Forall₂ R (s.columns.map (Column.fragment s.adapter))
    (s'.columns.map (Column.fragment s'.adapter))
  predicates : List.Forall₂ R s.predicates s'.predicates
  group : Option.Rel (Group.Alike R s.adapter s'.adapter) s.group s'.group
  order : List.Forall₂ R (s.order.map (OrderItem.fragment s.adapter))
    (s'.order.map (OrderItem.fragment s'.adapter))
  limit : s'.limit = s.limit
  offset : s'.offset = s.offset
  options : s'.options = s.options
  aliases : s'.aliases = s.aliases

theorem isEmpty_of_forall₂_map {α β : Type} {f : α → Fragment} {g : β → Fragment} {as : List α}
    {bs : List β} (h : List.Forall₂ R (as.map f) (bs.map g)) : bs.isEmpty = as.isEmpty := by
  have hlen := h.length_eq
  simp only [List.length_map] at hlen
  cases as <;> cases bs <;> first | rfl | (simp at hlen)

namespace Group.Alike

variable {a a' : Adapter} {g g' : Group}

theorem hasOrphanHaving (h : g.Alike R a a' g') : g'.hasOrphanHaving = g.hasOrphanHaving := by
  rw [Group.hasOrphanHaving, Group.hasOrphanHaving, isEmpty_of_forall₂_map h.columns,
    h.having_isSome]

theorem clause (hR : Fragment.Congruence R) (h : g.Alike R a a' g') :
    R (g.clause a) (g'.clause a') := by
  rw [Group.clause, Group.clause, isEmpty_of_forall₂_map h.columns]
  split
  · exact hR.empty
  · next hne =>
    have hhaving := h.having (by simpa using hne)
    refine hR.append (hR.append (hR.word (by decide)) (hR.join (by decide) h.columns)) ?_
    rcases hg : g.having with - | having <;> rcases hg' : g'.having with - | having' <;>
      rw [hg, hg'] at hhaving <;> cases hhaving
    · exact hR.empty
    · next hr => exact hR.append (hR.word (by decide)) hr

end Group.Alike

namespace Select

/-- The predicates, each in parentheses, and words between them. -/
theorem whereClause_eq (s : Select) :
    s.whereClause = if s.predicates.isEmpty then ∅
      else .sql " WHERE " ++ .join " AND " (s.predicates.map Fragment.enclose) := by
  unfold whereClause
  cases s.predicates with
  | nil => rfl
  | cons f fs =>
    rw [if_neg (by simp), if_neg (by simp), ← Fragment.enclose_join]
    ext1 <;> simp

namespace Alike

variable {s s' : Select}

theorem selected (hR : Fragment.Congruence R) (h : s.Alike R s') :
    R (Column.selected s.adapter s.columns) (Column.selected s'.adapter s'.columns) := by
  rw [Column.selected, Column.selected, isEmpty_of_forall₂_map h.columns]
  split
  · exact hR.word (by decide)
  · exact hR.join (by decide) h.columns

theorem whereClause (hR : Fragment.Congruence R) (h : s.Alike R s') :
    R s.whereClause s'.whereClause := by
  have hp : List.Forall₂ R (s.predicates.map Fragment.enclose)
      (s'.predicates.map Fragment.enclose) := by
    rw [List.forall₂_map_left_iff, List.forall₂_map_right_iff]
    exact h.predicates.imp fun _ _ => hR.enclose
  rw [whereClause_eq, whereClause_eq, isEmpty_of_forall₂_map hp]
  split
  · exact hR.empty
  · exact hR.append (hR.word (by decide)) (hR.join (by decide) hp)

theorem groupClause (hR : Fragment.Congruence R) (h : s.Alike R s') :
    R s.groupClause s'.groupClause := by
  have hgroup := h.group
  rw [Select.groupClause, Select.groupClause]
  rcases hg : s.group with - | g <;> rcases hg' : s'.group with - | g' <;>
    rw [hg, hg'] at hgroup <;> cases hgroup
  · exact hR.empty
  · next hr => exact hr.clause hR

theorem orderClause (hR : Fragment.Congruence R) (h : s.Alike R s') :
    R (OrderItem.clause s.adapter s.order) (OrderItem.clause s'.adapter s'.order) := by
  rw [OrderItem.clause, OrderItem.clause, isEmpty_of_forall₂_map h.order]
  split
  · exact hR.empty
  · exact hR.append (hR.word (by decide)) (hR.join (by decide) h.order)

theorem countClause (hR : Fragment.Congruence R) {keyword : String}
    (hk : isWord keyword = true) (n : UInt32) :
    R (Select.countClause keyword n) (Select.countClause keyword n) := by
  rw [Select.countClause]
  split
  · exact hR.empty
  · exact hR.word (isWord_append hk (isWord_toString _))

theorem statement (hR : Fragment.Congruence R) (h : s.Alike R s') {source source' : Fragment}
    (hs : R source source') : R (s.statement source) (s'.statement source') := by
  rw [Select.statement, Select.statement, h.limit, h.offset]
  have hfrom := hR.append (hR.append (hR.append (hR.word (w := "SELECT ") (by decide))
    (h.selected hR)) (hR.word (w := " FROM ") (by decide))) hs
  exact hR.append (hR.append (hR.append (hR.append (hR.append hfrom (h.whereClause hR))
    (h.groupClause hR)) (h.orderClause hR)) (countClause hR (by decide) s.limit))
    (countClause hR (by decide) s.offset)

theorem derivedTable (hR : Fragment.Congruence R) {body body' : Fragment} {called : String}
    (hb : R body body') (hn : R (.name s.adapter called) (.name s'.adapter called)) :
    R (s.derivedTable body called) (s'.derivedTable body' called) := by
  have he : ∀ (r : Select) (f : Fragment), r.derivedTable f called
      = f.enclose ++ .sql " AS " ++ .name r.adapter called := by
    intro r f
    ext1 <;> simp [Select.derivedTable, Fragment.enclose]
  rw [he, he]
  exact hR.append (hR.append (hR.enclose hb) (hR.word (by decide))) hn

theorem checkHaving (h : s.Alike R s') : s'.checkHaving = s.checkHaving := by
  have hgroup := h.group
  have ho : s'.hasOrphanHaving = s.hasOrphanHaving := by
    rw [hasOrphanHaving, hasOrphanHaving]
    rcases hg : s.group with - | g <;> rcases hg' : s'.group with - | g' <;>
      rw [hg, hg'] at hgroup <;> cases hgroup
    next hr => exact hr.hasOrphanHaving
  rw [Select.checkHaving, Select.checkHaving, ho, h.options]

end Alike

end Select

/-! ## Related queries -/

/-- Selects on tables, with the same clauses at every level and related pieces in them. -/
inductive Select.AlikeOn (R : Fragment → Fragment → Prop) : Select → Table → Select → Table → Prop
  | name {s s' : Select} {n n' : String} (h : s.Alike R s')
      (hn : R (.name s.adapter n) (.name s'.adapter n')) :
      AlikeOn R s (.name n) s' (.name n')
  | raw {s s' : Select} {sql sql' : String} (h : s.Alike R s') (hr : R (.sql sql) (.sql sql')) :
      AlikeOn R s (.raw sql) s' (.raw sql')
  | derived {s s' inner inner' : Select} {t t' : Table} (h : s.Alike R s')
      (hn : ∀ start n, s.options.getText aliasPrefixKey = .ok start →
        R (.name s.adapter (s.aliases.spell start n)) (.name s'.adapter (s.aliases.spell start n)))
      (hi : AlikeOn R inner t inner' t') :
      AlikeOn R s (.derived inner t) s' (.derived inner' t')

/-- Queries with the same clauses at every level and related pieces in them. -/
def Query.Alike (R : Fragment → Fragment → Prop) (q q' : Query) : Prop :=
  q.toSelect.AlikeOn R q.table q'.toSelect q'.table

/-- One more predicate each. -/
theorem Query.Alike.addPredicate {q q' : Query}
    (h : q.Alike R q') {predicate predicate' : Fragment} (hp : R predicate predicate') :
    (q.addPredicate predicate).Alike R (q'.addPredicate predicate') := by
  have hs : ∀ {s s' : Select}, s.Alike R s' →
      Select.Alike R { s with predicates := s.predicates ++ [predicate] }
        { s' with predicates := s'.predicates ++ [predicate'] } := by
    intro s s' h
    exact { h with predicates := List.rel_append h.predicates (.cons hp .nil) }
  rcases q with ⟨s, t⟩
  rcases q' with ⟨s', t'⟩
  cases h with
  | name h hn => exact .name (hs h) hn
  | raw h hr => exact .raw (hs h) hr
  | derived h hn hi => exact .derived (hs h) hn hi

/-- Compilations with the same requests for names that fail alike or give related statements. -/
inductive Drawing.Alike (R : Fragment → Fragment → Prop) :
    Except Error Fragment × Draws → Except Error Fragment × Draws → Prop
  | ok {a b : Fragment} (d : Draws) (h : R a b) : Alike R (.ok a, d) (.ok b, d)
  | error (e : Error) (d : Draws) : Alike R (.error e, d) (.error e, d)

/-- A check that gives the same answer, followed by related statements. -/
theorem Drawing.alike_check {a b : Fragment} (x : Except Error Unit) (d : Draws) (h : R a b) :
    Drawing.Alike R (x.map fun _ => a, d) (x.map fun _ => b, d) := by
  cases x with
  | error e => exact .error e d
  | ok _ => exact .ok d h

theorem Select.AlikeOn.run_compile (hR : Fragment.Congruence R) {s s' : Select} {t t' : Table}
    (h : s.AlikeOn R t s' t') (d : Draws) :
    Drawing.Alike R ((s.compile t).run d) ((s'.compile t').run d) := by
  induction h with
  | name h hn =>
    rw [run_compile_name, run_compile_name, h.checkHaving]
    exact Drawing.alike_check _ d (h.statement hR hn)
  | raw h hr =>
    rw [run_compile_raw, run_compile_raw, h.checkHaving]
    exact Drawing.alike_check _ d (h.statement hR hr)
  | @derived s s' inner inner' t t' h hn hi ih =>
    rw [run_compile_derived, run_compile_derived, h.checkHaving, h.options, h.aliases]
    cases s.checkHaving with
    | error e => exact .error e d
    | ok _ =>
      dsimp only
      generalize (inner.compile t).run d = x at ih ⊢
      generalize (inner'.compile t').run d = x' at ih ⊢
      cases ih with
      | error e d => exact .error e d
      | ok d hb =>
        dsimp only
        cases hp : s.options.getText aliasPrefixKey with
        | error e => exact .error e d
        | ok start => exact .ok _ (h.statement hR (Alike.derivedTable hR hb (hn _ _ hp)))

/-- **Queries that differ in related pieces compile alike.** -/
theorem Query.Alike.run_compile (hR : Fragment.Congruence R) {q q' : Query} (h : q.Alike R q')
    (d : Draws) : Drawing.Alike R (q.compile.run d) (q'.compile.run d) :=
  Select.AlikeOn.run_compile hR h d

end SqlSelect
