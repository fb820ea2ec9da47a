import SqlSelect.Proofs.Outline
import SqlSelect.Proofs.Pieces

/-!
# Parentheses of a statement

If the parentheses are paired in all that is handed in for a query, they are paired in its
statement. And a query that stands for a derived table, or that a predicate looks into, is found in
the statement as one piece, between a parenthesis and the one that closes it
(`Session.paired_statement`).

That there are as many of one kind as of the other would not do: a predicate like `a) OR (b` comes
out of the parentheses that are written around it. So nothing that a text begins with may close more
than it opens (`Paired`). Then what is between two parentheses says whether they belong together:
they do if it is paired itself (`Encloses`).

A dialect quotes a name part by part, and a part need not be paired where the name is. But it adds
no parentheses and takes none away (`Quotes.filter_quote`), so it is enough to ask for whole names.
-/

namespace SqlSelect

/-! ## Paired parentheses -/

/-- No beginning of the text closes more parentheses than it opens, and the whole closes all. -/
def Paired (text : List Char) : Prop :=
  (∀ start, start <+: text → start.count ')' ≤ start.count '(') ∧ text.count ')' = text.count '('

instance (text : List Char) : Decidable (Paired text) :=
  decidable_of_iff
    ((∀ start ∈ text.inits, start.count ')' ≤ start.count '(') ∧ text.count ')' = text.count '(')
    (by simp only [List.mem_inits, Paired])

example : ¬ Paired "a) OR (b".toList := by decide

/-- A piece of the text that is paired, between a parenthesis and the one that closes it. -/
def Encloses (text body : List Char) : Prop := '(' :: (body ++ [')']) <:+: text ∧ Paired body

theorem Encloses.mono {f g : Fragment} {body : List Char} (h : Encloses f.text body)
    (hf : f.Within g) : Encloses g.text body :=
  ⟨h.1.trans hf.isInfix_text, h.2⟩

theorem paired_of_not_mem {text : List Char} (ho : '(' ∉ text) (hc : ')' ∉ text) : Paired text := by
  constructor
  · intro start hs
    rw [List.count_eq_zero.mpr fun h => hc (hs.subset h)]
    exact Nat.zero_le _
  · rw [List.count_eq_zero.mpr ho, List.count_eq_zero.mpr hc]

theorem Paired.append {a b : List Char} (ha : Paired a) (hb : Paired b) : Paired (a ++ b) := by
  constructor
  · rintro start ⟨rest, hrest⟩
    rcases List.append_eq_append_iff.mp hrest with ⟨r, rfl, -⟩ | ⟨r, rfl, rfl⟩
    · exact ha.1 start (List.prefix_append start r)
    · have hr := hb.1 r (List.prefix_append r rest)
      rw [List.count_append, List.count_append, ha.2]
      omega
  · rw [List.count_append, List.count_append, ha.2, hb.2]

/-- Behind the opening parenthesis more is open than in the text itself, up to its end. -/
theorem Paired.enclose {body : List Char} (h : Paired body) : Paired ('(' :: (body ++ [')'])) := by
  have hopens : ('(' :: (body ++ [')'])).count '(' = body.count '(' + 1 := by simp
  have hcloses : ('(' :: (body ++ [')'])).count ')' = body.count ')' + 1 := by simp
  constructor
  · intro start hs
    rcases List.prefix_cons_iff.mp hs with rfl | ⟨inside, rfl, hinside⟩
    · exact Nat.le_refl 0
    · rcases List.prefix_concat_iff.mp hinside with rfl | hinside
      · rw [hopens, hcloses, h.2]
      · have hle := h.1 inside hinside
        rw [List.count_cons_of_ne (by decide), List.count_cons_self]
        omega
  · rw [hopens, hcloses, h.2]

/-- Only the parentheses count. -/
def isParenthesis (c : Char) : Bool := c == '(' || c == ')'

theorem paired_filter {text : List Char} : Paired (text.filter isParenthesis) ↔ Paired text := by
  have hopen : ∀ cs : List Char, (cs.filter isParenthesis).count '(' = cs.count '(' :=
    fun cs => List.count_filter rfl
  have hclose : ∀ cs : List Char, (cs.filter isParenthesis).count ')' = cs.count ')' :=
    fun cs => List.count_filter rfl
  unfold Paired
  rw [hopen, hclose]
  refine and_congr_left fun _ => ⟨?_, ?_⟩
  · intro h start hs
    rw [← hopen, ← hclose]
    exact h _ (hs.filter isParenthesis)
  · intro h start hs
    obtain ⟨s, hpre, rfl⟩ := List.prefix_filter_iff.mp hs
    rw [hopen, hclose]
    exact h s hpre

/-! ## Names -/

section Filter

variable {p : Char → Bool}

theorem filter_intercalate_dot (hdot : p '.' = false) : ∀ parts : List (List Char),
    (['.'].intercalate parts).filter p = parts.flatMap (List.filter p)
  | [] => rfl
  | [part] => by simp
  | part :: next :: parts => by
    rw [List.intercalate_cons_cons, List.filter_append, List.filter_append,
      filter_intercalate_dot hdot (next :: parts), List.flatMap_cons]
    simp [hdot]

/-- Quoting adds nothing but dots and quotes, and takes nothing away. -/
theorem Quotes.filter_quote {q : Quotes} (ho : p q.opening = false) (hc : p q.closing = false)
    (hdot : p '.' = false) (name : List Char) : (q.quote name).filter p = name.filter p := by
  have hchar : ∀ c, (q.quoteChar c).filter p = [c].filter p := by
    intro c
    unfold quoteChar
    split
    · next h => simp [h, hc]
    · rfl
  have hpart : ∀ part, (q.quotePart part).filter p = part.filter p := by
    intro part
    unfold quotePart
    split
    · rfl
    · rw [enclose, List.filter_cons_of_neg (by simp [ho]), List.filter_append, List.filter_flatMap]
      simp only [hchar]
      rw [← List.filter_flatMap]
      simp [hc]
  have hname : (name.splitOn '.').flatMap (List.filter p) = name.filter p := by
    rw [← filter_intercalate_dot hdot, name.intercalate_splitOn]
  rw [quote, filter_intercalate_dot hdot, List.flatMap_map, ← hname]
  simp only [hpart]

end Filter

/-- A rule of the caller for names keeps parentheses paired. -/
def Adapter.KeepsPaired : Adapter → Prop
  | .plain | .dialect _ => True
  | .custom rule => ∀ name : List Char, Paired name → Paired (rule name)

theorem Adapter.KeepsPaired.quote {a : Adapter} (ha : a.KeepsPaired) {name : List Char}
    (h : Paired name) : Paired (a.quote name) := by
  cases a with
  | plain => exact h
  | dialect d =>
    rw [← paired_filter, Adapter.quote, Quotes.filter_quote (by cases d <;> rfl)
      (by cases d <;> rfl) rfl, paired_filter]
    exact h
  | custom rule => exact ha name h

theorem paired_of_isWord {w : String} (h : isWord w = true) : Paired w.toList :=
  paired_of_not_mem (not_mem_of_isWord h rfl) (not_mem_of_isWord h rfl)

/-- A rule of the caller for the names of derived tables keeps parentheses paired. -/
def AliasSource.KeepsPaired : AliasSource → Prop
  | .sequence _ => True
  | .custom _ rule => ∀ start n, Paired start.toList → Paired (rule start n).toList

theorem AliasSource.KeepsPaired.spell {source : AliasSource} (h : source.KeepsPaired)
    {start : String} (hs : Paired start.toList) (n : Nat) :
    Paired (source.spell start n).toList := by
  cases source with
  | sequence name =>
    show Paired (start ++ toString n).toList
    rw [String.toList_append]
    exact hs.append (paired_of_isWord (isWord_toString n))
  | custom name rule => exact h start n hs

/-! ## What is asked of a query -/

/-- The text that is handed in for a column. -/
def Column.given : Column → String
  | .name n => n
  | .raw sql => sql

/-- The text that is handed in for what rows are ordered by. -/
def OrderItem.given : OrderItem → String
  | .column n _ => n
  | .raw sql => sql

/-- The text that is handed in for a table. -/
def BaseTable.given : BaseTable → String
  | .name n => n
  | .raw sql => sql

namespace Select

/-- Parentheses are paired in the clauses besides the predicates; in a predicate on groups, if it is
written. -/
structure Paired (s : Select) : Prop where
  adapter : s.adapter.KeepsPaired
  columns : ∀ c ∈ s.columns, SqlSelect.Paired c.given.toList
  groupColumns : ∀ g, s.group = some g → ∀ c ∈ g.columns, SqlSelect.Paired c.given.toList
  having : ∀ g having, s.group = some g → g.columns ≠ [] → g.having = some having →
    SqlSelect.Paired having.text
  order : ∀ i ∈ s.order, SqlSelect.Paired i.given.toList

/-- Parentheses are paired in the name of a derived table. -/
structure NamesPaired (s : Select) : Prop where
  aliases : s.aliases.KeepsPaired
  start : ∀ start, s.options.getText aliasPrefixKey = .ok start → SqlSelect.Paired start.toList

end Select

namespace Outline

/-- Parentheses are paired in all that is handed in, in derived tables and predicates too. -/
def Paired : Outline → Prop
  | on s t => s.Paired ∧ SqlSelect.Paired t.given.toList
  | onQuery s inner => s.Paired ∧ s.NamesPaired ∧ inner.Paired
  | filter o predicate => o.Paired ∧ SqlSelect.Paired predicate.text
  | among o _ column _ => o.Paired ∧ SqlSelect.Paired column.toList
  | amongRows o _ column inner _ => o.Paired ∧ SqlSelect.Paired column.toList ∧ inner.Paired

/-- The statement of a query inside, if it has one, and what is inside it. -/
def written (statement : Except Error Fragment) (inside : List (List Char)) : List (List Char) :=
  match statement with
  | .ok f => f.text :: inside
  | .error _ => []

/-- The texts of the queries inside, at any depth: of the derived table, compiled where these names
are drawn before, and of the queries that predicates look into, compiled when they were asked for. -/
def subqueries : Outline → Draws → List (List Char)
  | on _ _, _ => []
  | onQuery _ inner, before =>
    written (inner.query.compile.run before).1 (inner.subqueries before)
  | filter o _, before => o.subqueries before
  | among o _ _ _, before => o.subqueries before
  | amongRows o _ _ inner d, before =>
    o.subqueries before ++ written (inner.query.compile.run d).1 (inner.subqueries d)

theorem exists_of_mem_written {statement : Except Error Fragment} {inside : List (List Char)}
    {body : List Char} (h : body ∈ written statement inside) :
    ∃ f, statement = .ok f ∧ (body = f.text ∨ body ∈ inside) := by
  cases statement with
  | error e => cases h
  | ok f => exact ⟨f, rfl, List.mem_cons.mp h⟩

end Outline

/-! ## What is asked of a session -/

/-- Parentheses are paired. -/
def Input.Paired : Input → Prop
  | .adapter a => a.KeepsPaired
  | .aliases source => source.KeepsPaired
  | .start text | .name text | .raw text => SqlSelect.Paired text.toList
  | .predicate f => SqlSelect.Paired f.text

theorem BaseTable.paired_of_input {t : BaseTable} (h : t.input.Paired) :
    Paired t.given.toList := by
  cases t <;> exact h

theorem Column.paired_of_input {c : Column} (h : c.input.Paired) : Paired c.given.toList := by
  cases c <;> exact h

theorem OrderItem.paired_of_input {i : OrderItem} (h : i.input.Paired) :
    Paired i.given.toList := by
  cases i <;> exact h

namespace Select.Leaves

variable {s : Select}

theorem paired (h : s.Leaves Input.Paired) : s.Paired where
  adapter := h.adapter
  columns c hc := Column.paired_of_input (h.columns c hc)
  groupColumns g hg c hc := Column.paired_of_input (h.groupColumns g hg c hc)
  having := h.having
  order i hi := OrderItem.paired_of_input (h.order i hi)

theorem namesPaired (h : s.Leaves Input.Paired) : s.NamesPaired where
  aliases := h.aliases
  start _ := h.start_of_getText (show SqlSelect.Paired "t_".toList by decide)

end Select.Leaves

/-- Parentheses are paired in an outline if they are in all that is handed in. -/
theorem Outline.Leaves.paired {o : Outline} (h : o.Leaves Input.Paired) : o.Paired := by
  induction o with
  | on s t => exact ⟨h.1.paired, BaseTable.paired_of_input h.2⟩
  | onQuery s inner ih => exact ⟨h.1.paired, h.1.namesPaired, ih h.2⟩
  | filter o predicate ih => exact ⟨ih h.1, h.2⟩
  | among o m column vs ih => exact ⟨ih h.1, h.2⟩
  | amongRows o m column inner d ih ihinner => exact ⟨ih h.1, h.2.1, ihinner h.2.2⟩

/-! ## Statements are paired -/

namespace Fragment

/-- The same piece, its parentheses paired. -/
def SamePaired (f g : Fragment) : Prop := g = f ∧ Paired f.text

theorem congruence_samePaired : Congruence SamePaired where
  word h := ⟨rfl, paired_of_isWord h⟩
  enclose := by
    rintro a _ ⟨rfl, h⟩
    exact ⟨rfl, h.enclose⟩
  append := by
    rintro a _ b _ ⟨rfl, ha⟩ ⟨rfl, hb⟩
    exact ⟨rfl, ha.append hb⟩

theorem samePaired_name {a : Adapter} (ha : a.KeepsPaired) {n : String} (h : Paired n.toList) :
    SamePaired (.name a n) (.name a n) := ⟨rfl, ha.quote h⟩

theorem samePaired_placeholders (vs : List Value) :
    SamePaired (placeholders vs) (placeholders vs) := by
  have hmark : Paired ['?'] := by decide
  exact congruence_samePaired.join (by decide) (forall₂_map_self fun v _ => ⟨rfl, hmark⟩)

end Fragment

open Fragment

theorem Column.samePaired {a : Adapter} (ha : a.KeepsPaired) : ∀ {c : Column},
    Paired c.given.toList → SamePaired (c.fragment a) (c.fragment a)
  | .name _, h => samePaired_name ha h
  | .raw _, h => ⟨rfl, h⟩

theorem OrderItem.samePaired {a : Adapter} (ha : a.KeepsPaired) : ∀ {i : OrderItem},
    Paired i.given.toList → SamePaired (i.fragment a) (i.fragment a)
  | .column _ .ascending, h => congruence_samePaired.append (samePaired_name ha h)
    congruence_samePaired.empty
  | .column _ .descending, h => congruence_samePaired.append (samePaired_name ha h)
    (congruence_samePaired.word (by decide))
  | .raw _, h => ⟨rfl, h⟩

/-- Clauses are paired, when no predicates are counted. -/
theorem Select.Paired.alike {s : Select} (h : s.Paired) :
    Select.Alike SamePaired { s with predicates := [] } { s with predicates := [] } where
  columns := forall₂_map_self fun c hc => Column.samePaired h.adapter (h.columns c hc)
  predicates := .nil
  group := by
    show Option.Rel _ s.group s.group
    cases hg : s.group with
    | none => exact .none
    | some g =>
      refine .some ⟨?_, rfl, ?_⟩
      · exact forall₂_map_self fun c hc => Column.samePaired h.adapter (h.groupColumns g hg c hc)
      · intro hcolumns
        cases hh : g.having with
        | none => exact .none
        | some having => exact .some ⟨rfl, h.having g having hg hcolumns hh⟩
  order := forall₂_map_self fun i hi => OrderItem.samePaired h.adapter (h.order i hi)
  limit := rfl
  offset := rfl
  options := rfl
  aliases := rfl

namespace Outline.Paired

theorem adapter : ∀ {o : Outline}, o.Paired → o.query.adapter.KeepsPaired
  | on _ _, h | onQuery _ _, h => h.1.adapter
  | filter o _, h => adapter (o := o) h.1
  | among o _ _ _, h => adapter (o := o) h.1
  | amongRows o m column inner d, h => by
    rw [adapter_amongRows]
    exact adapter h.1

/-- Every piece of the query is paired, at every level. -/
theorem alike {o : Outline} (h : o.Paired) : o.query.Alike SamePaired o.query := by
  induction o with
  | on s t =>
    cases t with
    | name n => exact .name h.1.alike (samePaired_name h.1.adapter h.2)
    | raw sql => exact .raw h.1.alike ⟨rfl, h.2⟩
  | onQuery s inner ih =>
    obtain ⟨hs, hnames, hinner⟩ := h
    refine .derived hs.alike ?_ (ih hinner)
    intro start n hstart
    exact samePaired_name hs.adapter (hnames.aliases.spell (hnames.start start hstart) n)
  | filter o predicate ih => exact (ih h.1).addPredicate ⟨rfl, h.2⟩
  | among o m column vs ih =>
    refine (ih h.1).addPredicate (congruence_samePaired.predicate m ?_ (samePaired_placeholders vs))
    exact samePaired_name h.1.adapter h.2
  | amongRows o m column inner d ih ihinner =>
    obtain ⟨ho, hcolumn, hinner⟩ := h
    exact (ih ho).after_filterIn congruence_samePaired m (ihinner hinner) d
      (samePaired_name ho.adapter hcolumn)

/-- **The statement of a query is paired if all that was handed in for it is.** -/
theorem compile {o : Outline} (h : o.Paired) {before after : Draws} {s : Fragment}
    (hs : o.query.compile.run before = (.ok s, after)) : SqlSelect.Paired s.text := by
  have halike := h.alike.run_compile congruence_samePaired before
  rw [hs] at halike
  cases halike with
  | ok _ h => exact h.2

end Outline.Paired

/-! ## Queries inside -/

theorem enclose_within_derivedTable (s : Select) (body : Fragment) (called : String) :
    body.enclose.Within (s.derivedTable body called) := by
  refine ⟨∅, .sql " AS " ++ .name s.adapter called, ?_⟩
  ext1 <;> simp [Select.derivedTable, enclose]

theorem encloses_enclose {f : Fragment} (h : Paired f.text) : Encloses f.enclose.text f.text :=
  ⟨List.infix_rfl, h⟩

theorem within_enclose (f : Fragment) : f.Within f.enclose := ⟨.sql "(", .sql ")", rfl⟩

theorem Membership.enclose_within_predicate (m : Membership) (a : Adapter) (column : String)
    (list : Fragment) : list.enclose.Within (m.predicate a column list) := by
  rw [predicate_eq]
  exact (within_self _).right _

/-- A piece of the statement of a query, compiled where these names are drawn before: a piece of a
predicate, or of the derived table. -/
inductive Query.Contains (q : Query) (before : Draws) (body : List Char) : Prop
  | predicate {f : Fragment} (hf : f ∈ q.predicates) (h : Encloses f.text body)
  | table {s : Select} {t : Table} {f : Fragment} {after : Draws} (ht : q.table = .derived s t)
      (hf : (s.compile t).run before = (.ok f, after)) (h : Encloses f.enclose.text body)

namespace Query.Contains

variable {q : Query} {before : Draws} {body : List Char}

theorem encloses {after : Draws} {f : Fragment} (h : q.Contains before body)
    (hf : q.compile.run before = (.ok f, after)) : Encloses f.text body := by
  cases h with
  | predicate hp h => exact h.mono (Query.predicate_within_compile hp hf)
  | table ht hbody h =>
    obtain ⟨s, t⟩ := q
    cases ht
    cases Select.compiles_of_run hf with
    | derived hcheck hinner hstart =>
      rw [hinner.run] at hbody
      cases hbody
      exact h.mono ((enclose_within_derivedTable _ _ _).trans (Select.source_within_statement _ _))

/-- One more predicate takes no piece away. -/
theorem addPredicate (h : q.Contains before body) (f : Fragment) :
    (q.addPredicate f).Contains before body := by
  cases h with
  | predicate hp h => exact .predicate (List.mem_append_left _ hp) h
  | table ht hf h => exact .table ht hf h

theorem of_filterIn (h : q.Contains before body) (m : Membership) (column : String)
    (r : Relation) (d : Draws) : (q.after (.filterIn m column r) d).Contains before body := by
  rw [Query.after_filterIn]
  split
  · exact h.addPredicate _
  · exact h

end Query.Contains

/-- **Queries inside are pieces of the statement.** -/
theorem Outline.Paired.contains {o : Outline} (h : o.Paired) : ∀ {before : Draws} {body : List Char},
    body ∈ o.subqueries before → o.query.Contains before body := by
  -- A query inside that compiles is enclosed, and so is all that it contains itself.
  have inner {o : Outline} (ho : o.Paired)
      (ih : ∀ {before : Draws} {body : List Char},
        body ∈ o.subqueries before → o.query.Contains before body)
      {before : Draws} {body : List Char}
      (hb : body ∈ written (o.query.compile.run before).1 (o.subqueries before)) :
      ∃ f after, o.query.compile.run before = (.ok f, after) ∧ Encloses f.enclose.text body := by
    obtain ⟨f, hf, hbody⟩ := exists_of_mem_written hb
    have hrun : o.query.compile.run before = (.ok f, (o.query.compile.run before).2) :=
      Prod.ext hf rfl
    refine ⟨f, _, hrun, ?_⟩
    rcases hbody with rfl | hbody
    · exact encloses_enclose (ho.compile hrun)
    · exact ((ih hbody).encloses hrun).mono (within_enclose f)
  induction o with
  | on s t =>
    intro before body hb
    cases hb
  | onQuery s i ih =>
    intro before body hb
    obtain ⟨f, after, hf, hbody⟩ := inner h.2.2 (ih h.2.2) hb
    exact .table rfl hf hbody
  | filter o predicate ih =>
    intro before body hb
    exact (ih h.1 hb).addPredicate predicate
  | among o m column vs ih =>
    intro before body hb
    exact (ih h.1 hb).addPredicate _
  | amongRows o m column i d ih ihinner =>
    intro before body hb
    rcases List.mem_append.mp hb with hb | hb
    · exact (ih h.1 hb).of_filterIn m column _ d
    · obtain ⟨f, after, hf, hbody⟩ := inner h.2.2 (ihinner h.2.2) hb
      rw [query, Query.after_filterIn, Relation.fragment, hf]
      exact .predicate (List.mem_append_right _ List.mem_cons_self)
        (hbody.mono (m.enclose_within_predicate _ column f))

/-- **Statements have paired parentheses.** Every query of a session is put together from what its
steps handed in; if parentheses are paired in all that they hand in, then also in what it is put
together from. And however a query is put together: if parentheses are paired in all that was handed
in for it, they are paired in a statement of it, and each query inside, at whatever depth, is found
there as one piece, between a parenthesis and the one that closes it. -/
theorem Session.paired_statement :
    (∀ (d : Draws) (steps : List Step) (name : String) (q : Query),
      (Session.run { draws := d } steps).2.queries.get? name = some q →
        ∃ o : Outline, o.Leaves (Step.HandedIn steps) ∧ o.query = q ∧
          ((∀ step ∈ steps, step.Hands Input.Paired) → o.Paired)) ∧
    ∀ o : Outline, o.Paired →
      ∀ (before after : Draws) (s : Fragment), o.query.compile.run before = (.ok s, after) →
        Paired s.text ∧ ∀ body ∈ o.subqueries before, Encloses s.text body := by
  constructor
  · intro d steps name q hq
    obtain ⟨o, ho, hquery⟩ := exists_outline hq
    exact ⟨o, ho, hquery, fun h => (ho.mono (Step.HandedIn.of_hands h)).paired⟩
  · intro o ho before after s hs
    exact ⟨ho.compile hs, fun body hb => (ho.contains hb).encloses hs⟩

/-- A call as a table, a column whose parts are not paired, a derived table and a query that a
predicate looks into. -/
theorem Session.paired_statement_calls :
    ∃ (steps : List Step) (o : Outline) (s : Fragment),
      steps = [
        .create "a" .plain (.sequence "t") (.given (.raw "f(1)")),
        .create "b" .plain (.sequence "t") (.given (.name "b")),
        .call "b" (.filter "(y) = ?" (.one (.int32 2))),
        .create "q" (.dialect .msSql) (.sequence "t") (.moveOf "a"),
        .call "q" (.select (.given (.text "g(x.y)"))),
        .call "q" (.filterIn .notAmong "k" (.query "b"))] ∧
      (Session.run {} steps).2.queries.get? "q" = some o.query ∧
      (∀ step ∈ steps, step.Hands Input.Paired) ∧
      (∃ o' : Outline, o'.Leaves (Step.HandedIn steps) ∧ o'.query = o.query ∧ o'.Paired) ∧
      o.Paired ∧
      o.query.compile.run ∅ = (.ok s, ⟨[⟨"t", "t_"⟩]⟩) ∧
      s = ⟨"SELECT [g(x].[y)] FROM (SELECT * FROM f(1)) AS [t_1]".toList ++
        " WHERE ([k] NOT IN (SELECT * FROM b WHERE ((y) = ?)))".toList, [.int32 2]⟩ ∧
      o.subqueries ∅ = [
        "SELECT * FROM f(1)".toList,
        "SELECT * FROM b WHERE ((y) = ?)".toList] ∧
      Paired s.text ∧ ∀ body ∈ o.subqueries ∅, Encloses s.text body := by
  let bare : Select := { adapter := .plain, aliases := .sequence "t" }
  let b : Outline := .filter (.on bare (.name "b")) ⟨"(y) = ?".toList, [.int32 2]⟩
  let q : Outline := .onQuery
    { adapter := .dialect .msSql, aliases := .sequence "t", columns := [.name "g(x.y)"] }
    (.on bare (.raw "f(1)"))
  let o : Outline := .amongRows q .notAmong "k" b ∅
  have hbare : bare.Paired := ⟨trivial, by simp [bare], by simp [bare], by simp [bare], by simp [bare]⟩
  have ho : o.Paired := by
    have hb : b.Paired := ⟨⟨hbare, show Paired "b".toList by decide⟩, by decide⟩
    have hq : q.Paired := by
      refine ⟨⟨trivial, ?_, by simp, by simp, by simp⟩, ⟨trivial, ?_⟩,
        ⟨hbare, show Paired "f(1)".toList by decide⟩⟩
      · intro c hc
        rw [List.mem_singleton.mp hc]
        exact show Paired "g(x.y)".toList by decide
      · rintro _ ⟨⟩
        decide
    exact ⟨hq, by decide, hb⟩
  refine ⟨_, o, _, rfl, ?store, ?hands, ?outline, ho, ?compile, rfl, ?inside,
    Session.paired_statement.2 o ho _ _ _ ?compile⟩
  case outline =>
    obtain ⟨o', hleaves, hquery, hpaired⟩ := Session.paired_statement.1 _ _ _ _ ?store
    exact ⟨o', hleaves, hquery, hpaired ?hands⟩
  case store => rfl
  case hands =>
    simp +decide [Step.Hands, Selection.toList, Selection.items, Items.toList, Input.Paired,
      Adapter.KeepsPaired, AliasSource.KeepsPaired]
  case inside => decide +kernel
  case compile =>
    show @Eq (Except Error Fragment × Draws) _ _
    decide +kernel

end SqlSelect
