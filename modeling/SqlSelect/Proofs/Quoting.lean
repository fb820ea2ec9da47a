import SqlSelect.Proofs.Outline

/-!
# Names cannot change a statement

Whoever reads a statement has to find the names in it: an opening character begins a name and a
closing one ends it, unless another closing character follows, for the two stand for one character
of the name. Here such a reader is defined (`Quotes.lex`). It gives the characters outside names,
and a mark for each name.

A dialect writes the parts of a name in such a way that the reader finds the end of each, whatever
characters are in it (`Quotes.scan_enclose`). So if names are replaced by others in as many parts, at
every level of a query and in the queries inside its predicates, the reader finds the same statement
as before (`Session.lex_statement`). This takes that quotes occur nowhere else in what is handed in
(`Outline.Renamed`), which can be told from the steps of a session (`Outline.Leaves.renamed_rename`).
-/

namespace SqlSelect

/-! ## Reading a statement -/

/-- What is found in a statement. -/
inductive Lexeme where
  /-- A character that is not in a name. -/
  | char (c : Char)
  /-- A name, whatever is in it. -/
  | name
  deriving DecidableEq, Repr

/-- Where a reader stands. -/
inductive Reading where
  | outside
  | inside
  /-- Behind a closing character. If another one follows, the name is not over. -/
  | behind
  deriving DecidableEq, Repr

namespace Quotes

/-- Reads a character that is not in a name. -/
def readOutside (q : Quotes) (c : Char) : Reading × List Lexeme :=
  if c = q.opening then (.inside, [.name]) else (.outside, [.char c])

/-- Reads a character. -/
def read (q : Quotes) (c : Char) : Reading → Reading × List Lexeme
  | .outside => q.readOutside c
  | .inside => if c = q.closing then (.behind, []) else (.inside, [])
  | .behind => if c = q.closing then (.inside, []) else q.readOutside c

/-- Reads a text. -/
def scan (q : Quotes) : List Char → Reading → Reading × List Lexeme
  | [], r => (r, [])
  | c :: cs, r =>
    let (r, first) := q.read c r
    let (r, rest) := q.scan cs r
    (r, first ++ rest)

/-- What is found in a text, unless it ends inside a name. -/
def lex (q : Quotes) (text : List Char) : Option (List Lexeme) :=
  match q.scan text .outside with
  | (.inside, _) => none
  | (.outside, ls) | (.behind, ls) => some ls

/-- No quotes of either kind. -/
def Unquoted (q : Quotes) (text : List Char) : Prop := q.opening ∉ text ∧ q.closing ∉ text

instance (q : Quotes) (text : List Char) : Decidable (q.Unquoted text) :=
  inferInstanceAs (Decidable (_ ∧ _))

variable {q : Quotes}

theorem scan_cons (c : Char) (cs : List Char) (r : Reading) :
    q.scan (c :: cs) r
      = ((q.scan cs (q.read c r).1).1, (q.read c r).2 ++ (q.scan cs (q.read c r).1).2) := rfl

theorem scan_append (cs ds : List Char) (r : Reading) :
    q.scan (cs ++ ds) r
      = ((q.scan ds (q.scan cs r).1).1, (q.scan cs r).2 ++ (q.scan ds (q.scan cs r).1).2) := by
  induction cs generalizing r with
  | nil => rfl
  | cons c cs ih => rw [List.cons_append, scan_cons, ih, scan_cons, List.append_assoc]

/-! ## Texts that read alike -/

/-- Texts in which the same is found, read from anywhere outside a name, and which end outside a
name. -/
def ReadAlike (q : Quotes) (a b : List Char) : Prop :=
  ∀ r : Reading, r ≠ .inside → q.scan b r = q.scan a r ∧ (q.scan a r).1 ≠ .inside

theorem ReadAlike.append {a a' b b' : List Char} (ha : q.ReadAlike a a')
    (hb : q.ReadAlike b b') : q.ReadAlike (a ++ b) (a' ++ b') := by
  intro r hr
  obtain ⟨ha, hr⟩ := ha r hr
  obtain ⟨hb, hr⟩ := hb _ hr
  rw [scan_append, scan_append, ha, hb]
  exact ⟨rfl, hr⟩

theorem ReadAlike.lex {a b : List Char} (h : q.ReadAlike a b) :
    ∃ ls, q.lex a = some ls ∧ q.lex b = some ls := by
  obtain ⟨heq, hend⟩ := h .outside (by decide)
  unfold Quotes.lex
  rw [heq]
  rcases hscan : q.scan a .outside with ⟨r, ls⟩
  rw [hscan] at hend
  cases r with
  | inside => exact absurd rfl hend
  | outside | behind => exact ⟨ls, rfl, rfl⟩

theorem read_of_ne {c : Char} (ho : c ≠ q.opening) (hc : c ≠ q.closing) {r : Reading}
    (hr : r ≠ .inside) : q.read c r = (.outside, [.char c]) := by
  cases r with
  | inside => exact absurd rfl hr
  | outside => rw [read, readOutside, if_neg ho]
  | behind => rw [read, if_neg hc, readOutside, if_neg ho]

theorem Unquoted.readAlike : ∀ {text : List Char}, q.Unquoted text → q.ReadAlike text text
  | [], _ => fun _ hr => ⟨rfl, hr⟩
  | c :: cs, h => by
    intro r hr
    obtain ⟨ho, hc⟩ := h
    rw [List.mem_cons, not_or] at ho hc
    obtain ⟨-, hend⟩ := Unquoted.readAlike ⟨ho.2, hc.2⟩ .outside (by decide)
    refine ⟨rfl, ?_⟩
    rw [scan_cons, read_of_ne (Ne.symm ho.1) (Ne.symm hc.1) hr]
    exact hend

theorem ReadAlike.intercalate {separator : List Char} (hs : q.ReadAlike separator separator) :
    ∀ {parts parts' : List (List Char)}, List.Forall₂ q.ReadAlike parts parts' →
      q.ReadAlike (separator.intercalate parts) (separator.intercalate parts')
  | [], [], .nil => fun _ hr => ⟨rfl, hr⟩
  | [part], [part'], .cons h .nil => by
    rw [List.intercalate_singleton, List.intercalate_singleton]
    exact h
  | part :: next :: parts, part' :: next' :: parts', .cons h hrest => by
    rw [List.intercalate_cons_cons, List.intercalate_cons_cons]
    exact (h.append hs).append (ReadAlike.intercalate hs hrest)

/-! ## Names read alike -/

/-- The characters of a name, as they are written, do not end it. -/
theorem scan_quoted (part : List Char) : q.scan (part.flatMap q.quoteChar) .inside = (.inside, []) := by
  induction part with
  | nil => rfl
  | cons c part ih =>
    have hchar : q.scan (q.quoteChar c) .inside = (.inside, []) := by
      unfold quoteChar
      by_cases h : c = q.closing
      · simp [h, scan, read]
      · simp [h, scan, read]
    rw [List.flatMap_cons, scan_append, hchar, ih]
    rfl

/-- What is found depends on where the name begins, and not on what is in it. -/
theorem scan_enclose (part : List Char) {r : Reading} (hr : r ≠ .inside) :
    q.scan (q.enclose part) r = (.behind, (q.read q.opening r).2) := by
  have hopen : (q.read q.opening r).1 = .inside := by
    cases r with
    | inside => exact absurd rfl hr
    | outside => rw [read, readOutside, if_pos rfl]
    | behind =>
      -- Where the two quotes are the same character, the name before goes on.
      rw [read, readOutside, if_pos rfl]
      split <;> rfl
  have hclose : q.scan [q.closing] .inside = (.behind, []) := by simp [scan, read]
  rw [enclose, scan_cons, hopen, scan_append, scan_quoted, hclose]
  simp

theorem readAlike_enclose (part part' : List Char) :
    q.ReadAlike (q.enclose part) (q.enclose part') := by
  intro r hr
  rw [scan_enclose part hr, scan_enclose part' hr]
  exact ⟨rfl, nofun⟩

end Quotes

/-- For each part of a name whether it stands for every column, so that it is not quoted. -/
def wildParts (name : String) : List Bool :=
  (name.toList.splitOn '.').map fun part => part == ['*']

variable {dl : Dialect}

theorem Dialect.readAlike_quotePart {part part' : List Char}
    (h : (part == ['*']) = (part' == ['*'])) :
    dl.quotes.ReadAlike (dl.quotes.quotePart part) (dl.quotes.quotePart part') := by
  have hstar : dl.quotes.Unquoted ['*'] := by cases dl <;> decide
  unfold Quotes.quotePart
  by_cases hp : part = ['*']
  · have hp' : part' = ['*'] := by simpa [hp] using h.symm
    rw [if_pos hp, if_pos hp', hp, hp']
    exact hstar.readAlike
  · have hp' : part' ≠ ['*'] := by simpa [hp] using h.symm
    rw [if_neg hp, if_neg hp']
    exact Quotes.readAlike_enclose part part'

/-- **Names in as many parts read alike.** -/
theorem Dialect.readAlike_quote {n n' : String} (h : wildParts n = wildParts n') :
    dl.quotes.ReadAlike (dl.quotes.quote n.toList) (dl.quotes.quote n'.toList) := by
  have hdot : dl.quotes.Unquoted ['.'] := by cases dl <;> decide
  have hparts : List.Forall₂ (· = ·) (wildParts n) (wildParts n') := by
    rw [List.forall₂_eq_eq_eq]
    exact h
  unfold wildParts at hparts
  rw [List.forall₂_map_left_iff, List.forall₂_map_right_iff] at hparts
  -- No part ends inside a name, so the dots between them are read outside names.
  refine hdot.readAlike.intercalate ?_
  rw [List.forall₂_map_left_iff, List.forall₂_map_right_iff]
  exact hparts.imp fun _ _ => Dialect.readAlike_quotePart

example : Dialect.msSql.quotes.lex (Dialect.msSql.quotes.quote "a], [b.*".toList)
    = some [.name, .char '.', .char '*'] := by
  decide

/-! ## Pieces that read alike -/

namespace Fragment

/-- Pieces with the same values and with texts that read alike. -/
def ReadAlike (dl : Dialect) (f g : Fragment) : Prop :=
  g.values = f.values ∧ dl.quotes.ReadAlike f.text g.text

theorem readAlike_of_unquoted {f : Fragment} (h : dl.quotes.Unquoted f.text) :
    f.ReadAlike dl f := ⟨rfl, h.readAlike⟩

theorem ReadAlike.append {a a' b b' : Fragment} (ha : a.ReadAlike dl a') (hb : b.ReadAlike dl b') :
    (a ++ b).ReadAlike dl (a' ++ b') := by
  refine ⟨?_, ha.2.append hb.2⟩
  rw [values_append, values_append, ha.1, hb.1]

theorem unquoted_of_isWord {w : String} (h : isWord w = true) : dl.quotes.Unquoted w.toList := by
  cases dl <;> exact ⟨not_mem_of_isWord h rfl, not_mem_of_isWord h rfl⟩

/-- What a statement is put together by keeps apart what is inside names and what is outside. -/
theorem congruence_readAlike (dl : Dialect) : Congruence (ReadAlike dl) where
  word h := readAlike_of_unquoted (unquoted_of_isWord h)
  enclose h := by
    have ho : (sql "(").ReadAlike dl (sql "(") :=
      readAlike_of_unquoted (by cases dl <;> decide)
    have hc : (sql ")").ReadAlike dl (sql ")") :=
      readAlike_of_unquoted (by cases dl <;> decide)
    exact (ho.append h).append hc
  append := ReadAlike.append

theorem readAlike_name {a a' : Adapter} (ha : a = .dialect dl) (ha' : a' = .dialect dl)
    {n n' : String} (h : wildParts n = wildParts n') : (name a n).ReadAlike dl (name a' n') := by
  subst ha ha'
  exact ⟨rfl, Dialect.readAlike_quote h⟩

theorem readAlike_placeholders (vs : List Value) :
    (placeholders vs).ReadAlike dl (placeholders vs) := by
  have hmark : dl.quotes.Unquoted ['?'] := by cases dl <;> decide
  exact (congruence_readAlike dl).join (by decide)
    (forall₂_map_self fun v _ => readAlike_of_unquoted hmark)

end Fragment

/-! ## Queries with other names -/

/-- Another name in as many parts, or the same piece of SQL, without quotes. -/
inductive Column.Renamed (dl : Dialect) : Column → Column → Prop
  | name {n n' : String} (h : wildParts n = wildParts n') : Renamed dl (.name n) (.name n')
  | raw {sql : String} (h : dl.quotes.Unquoted sql.toList) : Renamed dl (.raw sql) (.raw sql)

inductive OrderItem.Renamed (dl : Dialect) : OrderItem → OrderItem → Prop
  | column {n n' : String} (h : wildParts n = wildParts n') (direction : Direction) :
      Renamed dl (.column n direction) (.column n' direction)
  | raw {sql : String} (h : dl.quotes.Unquoted sql.toList) : Renamed dl (.raw sql) (.raw sql)

inductive BaseTable.Renamed (dl : Dialect) : BaseTable → BaseTable → Prop
  | name {n n' : String} (h : wildParts n = wildParts n') : Renamed dl (.name n) (.name n')
  | raw {sql : String} (h : dl.quotes.Unquoted sql.toList) : Renamed dl (.raw sql) (.raw sql)

/-- Groups by other names, with the same predicate. It has no quotes, if it is written. -/
structure Group.Renamed (dl : Dialect) (g g' : Group) : Prop where
  columns : List.Forall₂ (Column.Renamed dl) g.columns g'.columns
  having : g'.having = g.having
  unquoted : g.columns ≠ [] → ∀ having, g.having = some having → dl.quotes.Unquoted having.text

/-- The same clauses with other names in them, all written by one dialect. Predicates on the rows do
not count. -/
structure Select.Renamed (dl : Dialect) (s s' : Select) : Prop where
  adapter : s.adapter = .dialect dl
  adapter' : s'.adapter = .dialect dl
  columns : List.Forall₂ (Column.Renamed dl) s.columns s'.columns
  group : Option.Rel (Group.Renamed dl) s.group s'.group
  order : List.Forall₂ (OrderItem.Renamed dl) s.order s'.order
  limit : s'.limit = s.limit
  offset : s'.offset = s.offset
  options : s'.options = s.options
  aliases : s'.aliases = s.aliases

/-- The same outline with other names in it, each in as many parts as the one in its place, all
written by one dialect. What is handed in as it is has no quotes. -/
inductive Outline.Renamed (dl : Dialect) : Outline → Outline → Prop
  | on {s s' : Select} {t t' : BaseTable} (hs : s.Renamed dl s') (ht : t.Renamed dl t') :
      Renamed dl (.on s t) (.on s' t')
  | onQuery {s s' : Select} {inner inner' : Outline} (hs : s.Renamed dl s')
      (hi : Renamed dl inner inner') : Renamed dl (.onQuery s inner) (.onQuery s' inner')
  | filter {o o' : Outline} {predicate : Fragment} (ho : Renamed dl o o')
      (hp : dl.quotes.Unquoted predicate.text) :
      Renamed dl (.filter o predicate) (.filter o' predicate)
  | among {o o' : Outline} {column column' : String} (m : Membership) (vs : List Value)
      (ho : Renamed dl o o') (hc : wildParts column = wildParts column') :
      Renamed dl (.among o m column vs) (.among o' m column' vs)
  | amongRows {o o' inner inner' : Outline} {column column' : String} (m : Membership) (d : Draws)
      (ho : Renamed dl o o') (hc : wildParts column = wildParts column')
      (hi : Renamed dl inner inner') :
      Renamed dl (.amongRows o m column inner d) (.amongRows o' m column' inner' d)

/-! ## What is asked of a session -/

/-- Written by the dialect, and without quotes if it is no name. -/
def Input.Unquoted (dl : Dialect) : Input → Prop
  | .adapter a => a = .dialect dl
  | .aliases _ | .start _ | .name _ => True
  | .raw sql => dl.quotes.Unquoted sql.toList
  | .predicate f => dl.quotes.Unquoted f.text

section Rename

/-- With other names, each chosen by the name in its place. -/
def Column.rename (other : String → String) : Column → Column
  | .name n => .name (other n)
  | .raw sql => .raw sql

def OrderItem.rename (other : String → String) : OrderItem → OrderItem
  | .column n direction => .column (other n) direction
  | .raw sql => .raw sql

def BaseTable.rename (other : String → String) : BaseTable → BaseTable
  | .name n => .name (other n)
  | .raw sql => .raw sql

def Group.rename (other : String → String) (g : Group) : Group :=
  { g with columns := g.columns.map (Column.rename other) }

def Select.rename (other : String → String) (s : Select) : Select :=
  { s with
    columns := s.columns.map (Column.rename other)
    group := s.group.map (Group.rename other)
    order := s.order.map (OrderItem.rename other) }

/-- The outline with other names in it, at every level, in derived tables and in predicates. -/
def Outline.rename (other : String → String) : Outline → Outline
  | on s t => .on (s.rename other) (t.rename other)
  | onQuery s inner => .onQuery (s.rename other) (inner.rename other)
  | filter o predicate => .filter (o.rename other) predicate
  | among o m column vs => .among (o.rename other) m (other column) vs
  | amongRows o m column inner d =>
    .amongRows (o.rename other) m (other column) (inner.rename other) d

variable {other : String → String} (hother : ∀ n, wildParts (other n) = wildParts n)

include hother

theorem Column.renamed_rename {c : Column} (h : c.input.Unquoted dl) :
    c.Renamed dl (c.rename other) := by
  cases c with
  | name n => exact .name (hother n).symm
  | raw sql => exact .raw h

theorem OrderItem.renamed_rename {i : OrderItem} (h : i.input.Unquoted dl) :
    i.Renamed dl (i.rename other) := by
  cases i with
  | column n direction => exact .column (hother n).symm direction
  | raw sql => exact .raw h

theorem BaseTable.renamed_rename {t : BaseTable} (h : t.input.Unquoted dl) :
    t.Renamed dl (t.rename other) := by
  cases t with
  | name n => exact .name (hother n).symm
  | raw sql => exact .raw h

theorem Column.forall₂_renamed_rename {cs : List Column} (h : ∀ c ∈ cs, c.input.Unquoted dl) :
    List.Forall₂ (Column.Renamed dl) cs (cs.map (Column.rename other)) := by
  rw [List.forall₂_map_right_iff, List.forall₂_same]
  exact fun c hc => Column.renamed_rename hother (h c hc)

theorem Select.Leaves.renamed_rename {s : Select} (h : s.Leaves (Input.Unquoted dl)) :
    s.Renamed dl (s.rename other) where
  adapter := h.adapter
  adapter' := h.adapter
  columns := Column.forall₂_renamed_rename hother h.columns
  group := by
    show Option.Rel _ s.group (s.group.map _)
    cases hg : s.group with
    | none => exact .none
    | some g =>
      refine .some ⟨?_, rfl, fun hcolumns having => h.having g having hg hcolumns⟩
      exact Column.forall₂_renamed_rename hother (h.groupColumns g hg)
  order := by
    show List.Forall₂ _ s.order (s.order.map _)
    rw [List.forall₂_map_right_iff, List.forall₂_same]
    exact fun i hi => OrderItem.renamed_rename hother (h.order i hi)
  limit := rfl
  offset := rfl
  options := rfl
  aliases := rfl

/-- If nothing but names has quotes, other names in as many parts may stand in an outline. -/
theorem Outline.Leaves.renamed_rename {o : Outline} (h : o.Leaves (Input.Unquoted dl)) :
    o.Renamed dl (o.rename other) := by
  induction o with
  | on s t => exact .on (h.1.renamed_rename hother) (BaseTable.renamed_rename hother h.2)
  | onQuery s inner ih => exact .onQuery (h.1.renamed_rename hother) (ih h.2)
  | filter o predicate ih => exact .filter (ih h.1) h.2
  | among o m column vs ih => exact .among m vs (ih h.1) (hother column).symm
  | amongRows o m column inner d ih ihinner =>
    exact .amongRows m d (ih h.1) (hother column).symm (ihinner h.2.2)

end Rename

/-! ## Queries with other names read alike -/

open Fragment

theorem Column.Renamed.readAlike {a a' : Adapter} (ha : a = .dialect dl) (ha' : a' = .dialect dl)
    {c c' : Column} (h : c.Renamed dl c') : (c.fragment a).ReadAlike dl (c'.fragment a') := by
  cases h with
  | name h => exact readAlike_name ha ha' h
  | raw h => exact readAlike_of_unquoted h

theorem OrderItem.Renamed.readAlike {a a' : Adapter} (ha : a = .dialect dl)
    (ha' : a' = .dialect dl) {i i' : OrderItem} (h : i.Renamed dl i') :
    (i.fragment a).ReadAlike dl (i'.fragment a') := by
  have hR := congruence_readAlike dl
  cases h with
  | column h direction =>
    refine (readAlike_name ha ha' h).append ?_
    cases direction with
    | ascending => exact hR.empty
    | descending => exact hR.word (by decide)
  | raw h => exact readAlike_of_unquoted h

theorem Column.forall₂_readAlike {a a' : Adapter} (ha : a = .dialect dl) (ha' : a' = .dialect dl)
    {cs cs' : List Column} (h : List.Forall₂ (Column.Renamed dl) cs cs') :
    List.Forall₂ (Fragment.ReadAlike dl) (cs.map (Column.fragment a))
      (cs'.map (Column.fragment a')) := by
  rw [List.forall₂_map_left_iff, List.forall₂_map_right_iff]
  exact h.imp fun _ _ => Column.Renamed.readAlike ha ha'

theorem Group.Renamed.alike {a a' : Adapter} (ha : a = .dialect dl) (ha' : a' = .dialect dl)
    {g g' : Group} (h : g.Renamed dl g') : g.Alike (Fragment.ReadAlike dl) a a' g' where
  columns := Column.forall₂_readAlike ha ha' h.columns
  having_isSome := by rw [h.having]
  having := by
    intro hcolumns
    rw [h.having]
    cases hg : g.having with
    | none => exact .none
    | some having => exact .some (readAlike_of_unquoted (h.unquoted hcolumns having hg))

/-- Clauses with other names are alike, when no predicates are counted. -/
theorem Select.Renamed.alike {s s' : Select} (h : s.Renamed dl s') :
    Select.Alike (Fragment.ReadAlike dl) { s with predicates := [] }
      { s' with predicates := [] } where
  columns := Column.forall₂_readAlike h.adapter h.adapter' h.columns
  predicates := .nil
  group := by
    have hgroup := h.group
    show Option.Rel _ s.group s'.group
    generalize s.group = g at hgroup ⊢
    generalize s'.group = g' at hgroup ⊢
    cases hgroup with
    | none => exact .none
    | some hg => exact .some (hg.alike h.adapter h.adapter')
  order := by
    rw [List.forall₂_map_left_iff, List.forall₂_map_right_iff]
    exact h.order.imp fun _ _ => OrderItem.Renamed.readAlike h.adapter h.adapter'
  limit := h.limit
  offset := h.offset
  options := h.options
  aliases := h.aliases

namespace Outline.Renamed

theorem adapter {o o' : Outline} (h : o.Renamed dl o') :
    o.query.adapter = .dialect dl ∧ o'.query.adapter = .dialect dl := by
  induction h with
  | on hs ht => exact ⟨hs.adapter, hs.adapter'⟩
  | onQuery hs hi => exact ⟨hs.adapter, hs.adapter'⟩
  | filter ho hp ih => exact ih
  | among m vs ho hc ih => exact ih
  | amongRows m d ho hc hi ih =>
    rw [adapter_amongRows, adapter_amongRows]
    exact ih

theorem readAlike_column {o o' : Outline} (h : o.Renamed dl o') {column column' : String}
    (hc : wildParts column = wildParts column') :
    (Fragment.name o.query.adapter column).ReadAlike dl (.name o'.query.adapter column') :=
  readAlike_name h.adapter.1 h.adapter.2 hc

/-- At every level, in derived tables and in predicates, the queries with one and with other names
are alike. -/
theorem alike {o o' : Outline} (h : o.Renamed dl o') :
    o.query.Alike (Fragment.ReadAlike dl) o'.query := by
  have hR := congruence_readAlike dl
  induction h with
  | on hs ht =>
    cases ht with
    | name h => exact .name hs.alike (readAlike_name hs.adapter hs.adapter' h)
    | raw h => exact .raw hs.alike (readAlike_of_unquoted h)
  | onQuery hs hi ih =>
    -- The name of the derived table is the same in both and is quoted like any other.
    exact .derived hs.alike (fun start n _ => readAlike_name hs.adapter hs.adapter' rfl) ih
  | filter ho hp ih => exact ih.addPredicate (readAlike_of_unquoted hp)
  | among m vs ho hc ih =>
    exact ih.addPredicate (hR.predicate m (ho.readAlike_column hc) (readAlike_placeholders vs))
  | amongRows m d ho hc hi ih ihinner =>
    exact ih.after_filterIn hR m ihinner d (ho.readAlike_column hc)

end Outline.Renamed

/-- **Names cannot change the structure of a statement.** Every query of a session is put together
from what its steps handed in; if one dialect writes all of it, and nothing but names has quotes,
other names in as many parts may stand in their place. However it is put together: with such names
in the place of its own, it compiles as before, asks for the same names of derived tables and binds
the same values. Both statements end outside a name, and what is read in one is read in the other. -/
theorem Session.lex_statement {d : Draws} {steps : List Step} {name : String} {q : Query}
    (hq : (Session.run { draws := d } steps).2.queries.get? name = some q) :
    (∃ o : Outline, o.Leaves (Step.HandedIn steps) ∧ o.query = q ∧
        ∀ dl : Dialect, (∀ step ∈ steps, step.Hands (Input.Unquoted dl)) →
          ∀ other : String → String, (∀ n, wildParts (other n) = wildParts n) →
            o.Renamed dl (o.rename other)) ∧
      ∀ (dl : Dialect) (o o' : Outline), o.query = q → o.Renamed dl o' →
        ∀ (before after : Draws) (s : Fragment), q.compile.run before = (.ok s, after) →
          ∃ s' : Fragment, o'.query.compile.run before = (.ok s', after) ∧
            s'.values = s.values ∧
            ∃ ls, dl.quotes.lex s.text = some ls ∧ dl.quotes.lex s'.text = some ls := by
  obtain ⟨o, ho, hquery⟩ := exists_outline hq
  refine ⟨⟨o, ho, hquery, fun dl h other hother =>
    (ho.mono (Step.HandedIn.of_hands h)).renamed_rename hother⟩, ?_⟩
  rintro dl o o' rfl ho before after s hs
  have halike := ho.alike.run_compile (congruence_readAlike dl) before
  rw [hs] at halike
  generalize o'.query.compile.run before = x at halike ⊢
  cases halike with
  | ok _ h => exact ⟨_, rfl, h.1, h.2.lex⟩

/-- Names that try to end early, in a column, in the table of a derived table, in a predicate and in
the query inside it. They are chosen by place; `other` chooses by name. -/
theorem Session.lex_statement_brackets :
    ∃ (steps : List Step) (other : String → String) (o o' : Outline) (s s' : Fragment),
      steps = [
        .create "a" (.dialect .msSql) (.sequence "t") (.given (.name "a")),
        .create "b" (.dialect .msSql) (.sequence "t") (.given (.name "s.b")),
        .create "q" (.dialect .msSql) (.sequence "t") (.moveOf "a"),
        .call "q" (.select (.given (.text "x.*"))),
        .call "q" (.filterIn .among "k" (.query "b"))] ∧
      (∀ n, other n = if wildParts n = [false] then "]] OR [1" else n) ∧
      (Session.run {} steps).2.queries.get? "q" = some o.query ∧
      (∀ step ∈ steps, step.Hands (Input.Unquoted .msSql)) ∧
      (∃ i : Outline, i.Leaves (Step.HandedIn steps) ∧ i.query = o.query ∧
        i.Renamed .msSql (i.rename other)) ∧
      o.Renamed .msSql o' ∧
      o.query.compile.run ∅ = (.ok s, ⟨[⟨"t", "t_"⟩]⟩) ∧
      o'.query.compile.run ∅ = (.ok s', ⟨[⟨"t", "t_"⟩]⟩) ∧
      s = ⟨"SELECT [x].* FROM (SELECT * FROM [a]) AS [t_1]".toList ++
        " WHERE ([k] IN (SELECT * FROM [s].[b]))".toList, []⟩ ∧
      s' = ⟨"SELECT []]].* FROM (SELECT * FROM [a]] OR [1]) AS [t_1]".toList ++
        " WHERE ([[k]]]]] IN (SELECT * FROM [].[]])]))".toList, []⟩ ∧
      ∃ ls, Dialect.msSql.quotes.lex s.text = some ls ∧
        Dialect.msSql.quotes.lex s'.text = some ls := by
  let bare : Select := { adapter := .dialect .msSql, aliases := .sequence "t" }
  let outline (x a k b : String) : Outline :=
    .amongRows (.onQuery { bare with columns := [.name x] } (.on bare (.name a))) .among k
      (.on bare (.name b)) ∅
  have hbare : bare.Renamed .msSql bare := ⟨rfl, rfl, .nil, .none, .nil, rfl, rfl, rfl, rfl⟩
  have hrenamed : (outline "x.*" "a" "k" "s.b").Renamed .msSql
      (outline "].*" "a] OR [1" "[k]]" ".])") := by
    refine .amongRows _ _ (.onQuery ?_ (.on hbare (.name (by decide)))) (by decide)
      (.on hbare (.name (by decide)))
    exact { hbare with columns := .cons (.name (by decide)) .nil }
  let other (n : String) : String := if wildParts n = [false] then "]] OR [1" else n
  have hother : ∀ n, wildParts (other n) = wildParts n := by
    intro n
    unfold other
    split
    · next h =>
      rw [h]
      decide
    · rfl
  refine ⟨_, other, _, _, _, _, rfl, fun _ => rfl, ?store, ?hands, ?outline, hrenamed, ?compile,
    ?other, rfl, rfl, ?lex⟩
  case outline =>
    obtain ⟨i, hleaves, hquery, hunquoted⟩ := (Session.lex_statement ?store).1
    exact ⟨i, hleaves, hquery, hunquoted .msSql ?hands other hother⟩
  case lex =>
    obtain ⟨f, hf, -, hlex⟩ :=
      (Session.lex_statement ?store).2 .msSql _ _ rfl hrenamed _ _ _ ?compile
    have heq := hf.symm.trans ?other
    cases heq
    exact hlex
  case store => rfl
  case hands =>
    simp [Step.Hands, Selection.toList, Selection.items, Items.toList, Input.Unquoted]
  all_goals
    show @Eq (Except Error Fragment × Draws) _ _
    decide +kernel

end SqlSelect
