import Mathlib.Data.List.Forall2
import SqlSelect.Proofs.Grammar

/-!
# When a query does not compile

A query is a chain of selects, each the table of the one before. Two things can go wrong at a level
of the chain. A predicate on groups without columns is refused on the way in, before anything inside
is looked at: the outermost such level decides, and no name is drawn (`run_compile_orphaned`). A
prefix that is no text is found on the way out, when a name is to be drawn for the table inside: the
innermost such level decides, and the levels inside it have drawn theirs (`run_compile_nameless`).
The innermost level of all draws no name.

Where nothing goes wrong, one name is drawn for each derived table, from the inside outwards, and
orphans are left out without notice (`exists_compiles`, `Compiles.mapLevels`).
-/

namespace SqlSelect

variable {d e : Draws}

namespace Select

/-! ## What can go wrong at a level -/

/-- A predicate on groups without columns, and an option that does not let it pass. -/
def Orphaned (s : Select) : Prop :=
  (∃ g having, s.group = some g ∧ g.columns = [] ∧ g.having = some having ∧ having.text ≠ []) ∧
    s.options.get? strictKey ≠ some (.bool false)

/-- What is reported then: the predicate, or that the option is no truth value. -/
def orphanError (s : Select) : Error :=
  match s.options.strict with
  | .bool _ => .orphanHaving
  | found => .optionNotBool strictKey found

/-- No text that the name of a derived table could begin with. -/
def Nameless (s : Select) : Prop :=
  ∀ start, s.options.get? aliasPrefixKey ≠ some (.text start)

def namelessError (s : Select) : Error := .optionNotText aliasPrefixKey s.options.aliasPrefix

/-- The request by which a name is drawn for the table of a select. -/
def Asks (s : Select) (request : Request) : Prop :=
  request.source = s.aliases.name ∧ s.options.get? aliasPrefixKey = some (.text request.start)

theorem hasOrphanHaving_iff {s : Select} (h : s.Proper) :
    s.hasOrphanHaving = true ↔
      ∃ g having, s.group = some g ∧ g.columns = [] ∧ g.having = some having ∧
        having.text ≠ [] := by
  rw [hasOrphanHaving, Option.any_eq_true]
  constructor
  · rintro ⟨g, hg, ho⟩
    rw [Group.hasOrphanHaving, Bool.and_eq_true, List.isEmpty_iff, Option.isSome_iff_exists] at ho
    obtain ⟨hcolumns, having, hh⟩ := ho
    exact ⟨g, having, hg, hcolumns, hh, h g having hg hh⟩
  · rintro ⟨g, having, hg, hcolumns, hh, -⟩
    refine ⟨g, hg, ?_⟩
    rw [Group.hasOrphanHaving, hcolumns, hh]
    rfl

theorem checkHaving_of_orphaned {s : Select} (hp : s.Proper) (h : s.Orphaned) :
    s.checkHaving = .error s.orphanError := by
  obtain ⟨ho, hstrict⟩ := h
  have hne : s.options.strict ≠ .bool false := fun he => hstrict (congrArg some he)
  rw [checkHaving, if_pos ((hasOrphanHaving_iff hp).mpr ho), Options.getBool_strict, orphanError]
  cases hs : s.options.strict with
  | bool b =>
    cases b with
    | false => exact absurd hs hne
    | true => rfl
  | int n => rfl
  | text t => rfl

theorem checkHaving_of_not_orphaned {s : Select} (hp : s.Proper) (h : ¬ s.Orphaned) :
    s.checkHaving = .ok () := by
  rw [checkHaving]
  by_cases ho : s.hasOrphanHaving = true
  · have hstrict : s.options.strict = .bool false := by
      by_contra hne
      exact h ⟨(hasOrphanHaving_iff hp).mp ho, fun he => hne (Option.some.inj he)⟩
    rw [if_pos ho, Options.getBool_strict, hstrict]
    rfl
  · rw [if_neg ho]
    rfl

theorem getText_of_nameless {s : Select} (h : s.Nameless) :
    s.options.getText aliasPrefixKey = .error s.namelessError := by
  rw [Options.getText_aliasPrefix, namelessError]
  cases hs : s.options.aliasPrefix with
  | bool b => rfl
  | int n => rfl
  | text start => exact absurd (congrArg some hs) (h start)

theorem exists_start_of_not_nameless {s : Select} (h : ¬ s.Nameless) :
    ∃ start, s.options.getText aliasPrefixKey = .ok start ∧ s.Asks ⟨s.aliases.name, start⟩ := by
  rw [Nameless, not_forall] at h
  obtain ⟨start, hstart⟩ := h
  have hget : s.options.get? aliasPrefixKey = some (.text start) := not_not.mp hstart
  have ha : s.options.aliasPrefix = .text start := Option.some.inj hget
  refine ⟨start, ?_, rfl, hget⟩
  rw [Options.getText_aliasPrefix, ha]

end Select

/-! ## The first and the last of a list -/

/-- Where there is an element with a property, there is a first one. -/
theorem exists_first {α : Type} {p : α → Prop} {as : List α} (h : ∃ a ∈ as, p a) :
    ∃ before a after, as = before ++ a :: after ∧ p a ∧ ∀ b ∈ before, ¬ p b := by
  classical
  have hfound : (as.find? fun a => decide (p a)).isSome = true := by simpa using h
  obtain ⟨a, ha⟩ := Option.isSome_iff_exists.mp hfound
  obtain ⟨hpa, before, after, hl, hbefore⟩ := List.find?_eq_some_iff_append.mp ha
  refine ⟨before, a, after, hl, of_decide_eq_true hpa, ?_⟩
  intro b hb
  simpa using hbefore b hb

theorem exists_last {α : Type} {p : α → Prop} {as : List α} (h : ∃ a ∈ as, p a) :
    ∃ before a after, as = before ++ a :: after ∧ p a ∧ ∀ b ∈ after, ¬ p b := by
  have hreverse : ∃ a ∈ as.reverse, p a := by
    obtain ⟨a, ha, hpa⟩ := h
    exact ⟨a, List.mem_reverse.mpr ha, hpa⟩
  obtain ⟨before, a, after, hl, hpa, hbefore⟩ := exists_first hreverse
  refine ⟨after.reverse, a, before.reverse, ?_, hpa, ?_⟩
  · rw [← List.reverse_reverse as, hl]
    simp
  · exact fun b hb => hbefore b (List.mem_reverse.mp hb)

/-! ## Names drawn -/

/-- One name drawn for each of the selects, in their order, and no other. -/
def Draws.DrawnFor (d e : Draws) (levels : List Select) : Prop :=
  ∃ requests, List.Forall₂ Select.Asks levels requests ∧ e.requests = d.requests ++ requests

theorem Draws.drawnFor_nil (d : Draws) : d.DrawnFor d [] := ⟨[], .nil, (List.append_nil _).symm⟩

theorem Draws.DrawnFor.add {levels : List Select} (h : d.DrawnFor e levels) {s : Select}
    {request : Request} (hs : s.Asks request) : d.DrawnFor (e.add request) (levels ++ [s]) := by
  obtain ⟨requests, hall, he⟩ := h
  refine ⟨requests ++ [request], List.rel_append hall (.cons hs .nil), ?_⟩
  rw [Draws.add, he, List.append_assoc]

namespace Select

/-! ## The way in -/

/-- **The outermost orphan is reported, and no name is drawn.** -/
theorem run_compile_orphaned {o : Select} {inner : List Select} (ho : o.Orphaned) :
    ∀ {outer : List Select} {s : Select} {t : Table}, s :: t.levels = outer ++ o :: inner →
      (∀ level ∈ s :: t.levels, level.Proper) → (∀ level ∈ outer, ¬ level.Orphaned) →
        (s.compile t).run d = (.error o.orphanError, d)
  | [], s, t, hl, hp, _ => by
    -- The check comes before the table is looked at, so it does not matter which one it is.
    obtain ⟨rfl, -⟩ := List.cons.inj hl
    have hc := checkHaving_of_orphaned (hp s List.mem_cons_self) ho
    cases t with
    | name n => rw [run_compile_name, hc]; rfl
    | raw sql => rw [run_compile_raw, hc]; rfl
    | derived body t => rw [run_compile_derived, hc]
  | first :: outer, s, t, hl, hp, houter => by
    obtain ⟨rfl, htail⟩ := List.cons.inj hl
    obtain ⟨hs, hbelow⟩ := List.forall_mem_cons.mp hp
    obtain ⟨hfirst, hrest⟩ := List.forall_mem_cons.mp houter
    cases t with
    | name n => simp [Table.levels] at htail
    | raw sql => simp [Table.levels] at htail
    | derived body t =>
      have hbody := run_compile_orphaned ho htail hbelow hrest
      rw [run_compile_derived, checkHaving_of_not_orphaned hs hfirst, hbody]

/-! ## The way out -/

/-- **Where nothing goes wrong, each select on a derived table draws a name for it, the innermost
first.** -/
theorem exists_compiles : ∀ {t : Table} {s : Select}, (∀ level ∈ s :: t.levels, level.Proper) →
    (∀ level ∈ s :: t.levels, ¬ level.Orphaned) →
    (∀ level ∈ (s :: t.levels).dropLast, ¬ level.Nameless) →
      ∃ f e, s.Compiles t d f e ∧ d.DrawnFor e (s :: t.levels).dropLast.reverse
  | .name n, s, hp, ho, _ => by
    have hc := checkHaving_of_not_orphaned (hp s List.mem_cons_self) (ho s List.mem_cons_self)
    exact ⟨_, d, .name n d hc, d.drawnFor_nil⟩
  | .raw sql, s, hp, ho, _ => by
    have hc := checkHaving_of_not_orphaned (hp s List.mem_cons_self) (ho s List.mem_cons_self)
    exact ⟨_, d, .raw sql d hc, d.drawnFor_nil⟩
  | .derived body t, s, hp, ho, hn => by
    obtain ⟨hs, hbelow⟩ := List.forall_mem_cons.mp hp
    obtain ⟨hself, hrest⟩ := List.forall_mem_cons.mp ho
    have hlevels : (s :: body :: t.levels).dropLast = s :: (body :: t.levels).dropLast := rfl
    rw [Table.levels, hlevels] at hn ⊢
    obtain ⟨hname, hnames⟩ := List.forall_mem_cons.mp hn
    obtain ⟨start, hstart, hasks⟩ := exists_start_of_not_nameless hname
    obtain ⟨f, e, hbody, hdrawn⟩ := exists_compiles hbelow hrest hnames
    -- The name is drawn when the statement inside is done, so it is the last one.
    rw [List.reverse_cons]
    exact ⟨_, _, .derived (checkHaving_of_not_orphaned hs hself) hbody hstart, hdrawn.add hasks⟩

/-- **Without orphans, the innermost prefix that is no text is reported, and the selects inside have
drawn their names.** -/
theorem run_compile_nameless {o : Select} {inner : List Select} (hnameless : o.Nameless)
    (hinner : ∀ level ∈ inner, ¬ level.Nameless) :
    ∀ {outer : List Select} {s : Select} {t : Table},
      (s :: t.levels).dropLast = outer ++ o :: inner →
      (∀ level ∈ s :: t.levels, level.Proper) → (∀ level ∈ s :: t.levels, ¬ level.Orphaned) →
        ∃ e, (s.compile t).run d = (.error o.namelessError, e) ∧ d.DrawnFor e inner.reverse
  | _, s, .name n, hl, _, _ => by simp [Table.levels] at hl
  | _, s, .raw sql, hl, _, _ => by simp [Table.levels] at hl
  | [], s, .derived body t, hl, hp, ho => by
    obtain ⟨rfl, rfl⟩ := List.cons.inj hl
    obtain ⟨hs, hbelow⟩ := List.forall_mem_cons.mp hp
    obtain ⟨hself, hrest⟩ := List.forall_mem_cons.mp ho
    obtain ⟨f, e, hbody, hdrawn⟩ := exists_compiles (d := d) hbelow hrest hinner
    refine ⟨e, ?_, hdrawn⟩
    rw [run_compile_derived, checkHaving_of_not_orphaned hs hself, hbody.run,
      getText_of_nameless hnameless]
  | first :: outer, s, .derived body t, hl, hp, ho => by
    obtain ⟨rfl, htail⟩ := List.cons.inj hl
    obtain ⟨hs, hbelow⟩ := List.forall_mem_cons.mp hp
    obtain ⟨hself, hrest⟩ := List.forall_mem_cons.mp ho
    obtain ⟨e, hbody, hdrawn⟩ := run_compile_nameless hnameless hinner htail hbelow hrest
    refine ⟨e, ?_, hdrawn⟩
    rw [run_compile_derived, checkHaving_of_not_orphaned hs hself, hbody]

/-! ## All there is -/

theorem orphanError_ne (s : Select) (key : String) : s.orphanError ≠ .undefinedOption key := by
  rw [orphanError]
  cases s.options.strict <;> exact Error.noConfusion

/-- A compilation ends in one of three ways. -/
theorem run_compile_cases {s : Select} {t : Table} (hp : ∀ level ∈ s :: t.levels, level.Proper) :
    (∃ o ∈ s :: t.levels, o.Orphaned ∧ (s.compile t).run d = (.error o.orphanError, d)) ∨
    (∃ o ∈ (s :: t.levels).dropLast, o.Nameless ∧
      ∃ e, (s.compile t).run d = (.error o.namelessError, e)) ∨
    (∀ level ∈ s :: t.levels, ¬ level.Orphaned) ∧
      (∀ level ∈ (s :: t.levels).dropLast, ¬ level.Nameless) ∧
      ∃ f e, s.Compiles t d f e ∧ d.DrawnFor e (s :: t.levels).dropLast.reverse := by
  by_cases ho : ∃ o ∈ s :: t.levels, o.Orphaned
  · obtain ⟨outer, o, inner, hl, horphaned, houter⟩ := exists_first ho
    refine .inl ⟨o, ?_, horphaned, run_compile_orphaned horphaned hl hp houter⟩
    rw [hl]
    exact List.mem_append_right _ List.mem_cons_self
  · have hno : ∀ level ∈ s :: t.levels, ¬ level.Orphaned := fun l h hl => ho ⟨l, h, hl⟩
    by_cases hn : ∃ o ∈ (s :: t.levels).dropLast, o.Nameless
    · obtain ⟨outer, o, inner, hl, hnameless, hinner⟩ := exists_last hn
      obtain ⟨e, hrun, -⟩ := run_compile_nameless hnameless hinner hl hp hno
      refine .inr (.inl ⟨o, ?_, hnameless, e, hrun⟩)
      rw [hl]
      exact List.mem_append_right _ List.mem_cons_self
    · have hnames : ∀ level ∈ (s :: t.levels).dropLast, ¬ level.Nameless :=
        fun l h hl => hn ⟨l, h, hl⟩
      exact .inr (.inr ⟨hno, hnames, exists_compiles hp hno hnames⟩)

/-! ## Orphans that are let pass -/

/-- A select that writes the same around every source, and is not refused if the other is not. -/
structure SameText (s s' : Select) : Prop where
  adapter : s'.adapter = s.adapter
  aliases : s'.aliases = s.aliases
  start : s'.options.aliasPrefix = s.options.aliasPrefix
  check : s.checkHaving = .ok () → s'.checkHaving = .ok ()
  statement (source : Fragment) : s'.statement source = s.statement source

/-- Without the predicate on groups if there are no columns to group by. -/
def withoutOrphan (s : Select) : Select :=
  { s with group := s.group.map fun g => if g.columns = [] then { g with having := none } else g }

/-- With the option set to let orphans pass. -/
def lenient (s : Select) : Select := { s with options := s.options.set strictKey (.bool false) }

theorem hasOrphanHaving_withoutOrphan (s : Select) : s.withoutOrphan.hasOrphanHaving = false := by
  rw [hasOrphanHaving, withoutOrphan]
  rcases s.group with - | ⟨columns, having⟩
  · rfl
  · cases columns with
    | nil => rfl
    | cons c cs => rfl

theorem sameText_withoutOrphan (s : Select) : s.SameText s.withoutOrphan where
  adapter := rfl
  aliases := rfl
  start := rfl
  check _ := by
    rw [checkHaving, hasOrphanHaving_withoutOrphan]
    rfl
  statement source := by
    have hgroup : s.withoutOrphan.groupClause = s.groupClause := by
      rw [groupClause, groupClause, withoutOrphan]
      rcases s.group with - | ⟨columns, having⟩
      · rfl
      · cases columns with
        | nil => rfl
        | cons c cs => rfl
    rw [Select.statement, Select.statement, hgroup]
    rfl

theorem sameText_lenient (s : Select) : s.SameText s.lenient where
  adapter := rfl
  aliases := rfl
  start := rfl
  check _ := by
    have ho : s.lenient.hasOrphanHaving = s.hasOrphanHaving := rfl
    rw [checkHaving, ho]
    split <;> rfl
  statement _ := rfl

end Select

/-- A table with its selects through `g`. -/
def Table.mapLevels (g : Select → Select) : Table → Table
  | .name n => .name n
  | .raw sql => .raw sql
  | .derived inner t => .derived (g inner) (t.mapLevels g)

/-- A query with the selects of all its levels through `g`. -/
def Query.mapLevels (g : Select → Select) (q : Query) : Query :=
  { g q.toSelect with table := q.table.mapLevels g }

/-- What compiles compiles to the same when each level writes the same. -/
theorem Select.Compiles.mapLevels {g : Select → Select} (hg : ∀ s : Select, s.SameText (g s))
    {s : Select} {t : Table} {d e : Draws} {f : Fragment} (h : s.Compiles t d f e) :
    (g s).Compiles (t.mapLevels g) d f e := by
  induction h with
  | @name s n d check =>
    rw [← (hg s).statement, ← (hg s).adapter]
    exact .name n d ((hg s).check check)
  | @raw s sql d check =>
    rw [← (hg s).statement]
    exact .raw sql d ((hg s).check check)
  | @derived s inner t d e body start check _ hstart ih =>
    have hderived : ∀ called, s.derivedTable body called = (g s).derivedTable body called := by
      intro called
      rw [derivedTable, derivedTable, (hg s).adapter]
    have hstart' : (g s).options.getText aliasPrefixKey = .ok start := by
      rw [Options.getText_aliasPrefix, (hg s).start, ← Options.getText_aliasPrefix, hstart]
    rw [← (hg s).statement, ← (hg s).aliases, hderived]
    exact .derived ((hg s).check check) ih hstart'

/-- **When a query compiles, and what happens if it does not.** A query of a session fails to compile
if and only if some level has an orphan that is not let pass, or some level on a derived table has
no text for its name to begin with. The outermost orphan is reported first, before any name is
drawn; then the innermost prefix that is no text, when the levels inside have drawn one name each.
That an option is not set is never reported. A query that compiles is written by the grammar, draws
one name for each derived table, and is the same with its orphans left out or let pass. -/
theorem Query.Reachable.compile_outcome {q : Query} (hq : q.Reachable) (d : Draws) :
    ((∃ x e, q.compile.run d = (.error x, e)) ↔
      (∃ s ∈ q.levels, s.Orphaned) ∨ ∃ s ∈ q.levels.dropLast, s.Nameless) ∧
    (∀ outer s inner, q.levels = outer ++ s :: inner → s.Orphaned →
      (∀ level ∈ outer, ¬ level.Orphaned) → q.compile.run d = (.error s.orphanError, d)) ∧
    (∀ outer s inner, q.levels.dropLast = outer ++ s :: inner → s.Nameless →
      (∀ level ∈ inner, ¬ level.Nameless) → (∀ level ∈ q.levels, ¬ level.Orphaned) →
        ∃ e, q.compile.run d = (.error s.namelessError, e) ∧ d.DrawnFor e inner.reverse) ∧
    (∀ key e, q.compile.run d ≠ (.error (.undefinedOption key), e)) ∧
    ∀ s e, q.compile.run d = (.ok s, e) →
      d.DrawnFor e q.levels.dropLast.reverse ∧
      q.toSelect.Writes q.table d s.text s.values e ∧
      (q.mapLevels Select.withoutOrphan).compile.run d = (.ok s, e) ∧
      (q.mapLevels Select.lenient).compile.run d = (.ok s, e) := by
  have hp : ∀ level ∈ q.toSelect :: q.table.levels, level.Proper := hq.proper
  have hcases := Select.run_compile_cases (d := d) hp
  refine ⟨⟨?_, ?_⟩, ?_, ?_, ?_, ?_⟩
  · rintro ⟨x, e, hx⟩
    rcases hcases with ⟨o, ho, horphaned, -⟩ | ⟨o, ho, hnameless, -⟩ | ⟨-, -, f, e', hok, -⟩
    · exact .inl ⟨o, ho, horphaned⟩
    · exact .inr ⟨o, ho, hnameless⟩
    · cases hx.symm.trans hok.run
  · intro h
    rcases hcases with ⟨o, -, -, hrun⟩ | ⟨o, -, -, e, hrun⟩ | ⟨horphaned, hnameless, -⟩
    · exact ⟨_, _, hrun⟩
    · exact ⟨_, _, hrun⟩
    · rcases h with ⟨o, ho, h⟩ | ⟨o, ho, h⟩
      · exact absurd h (horphaned o ho)
      · exact absurd h (hnameless o ho)
  · intro outer o inner hl ho houter
    exact Select.run_compile_orphaned ho hl hp houter
  · intro outer o inner hl ho hinner hno
    exact Select.run_compile_nameless ho hinner hl hp hno
  · intro key e h
    rcases hcases with ⟨o, -, -, hrun⟩ | ⟨o, -, -, e', hrun⟩ | ⟨-, -, f, e', hrun, -⟩
    · exact o.orphanError_ne key (Except.error.inj (congrArg Prod.fst (hrun.symm.trans h)))
    · cases hrun.symm.trans h
    · cases hrun.run.symm.trans h
  · intro s e h
    rcases hcases with ⟨o, -, -, hrun⟩ | ⟨o, -, -, e', hrun⟩ | ⟨-, -, f, e', hrun, hdrawn⟩
    · cases hrun.symm.trans h
    · cases hrun.symm.trans h
    · cases hrun.run.symm.trans h
      exact ⟨hdrawn, hrun.writes hp, (hrun.mapLevels Select.sameText_withoutOrphan).run,
        (hrun.mapLevels Select.sameText_lenient).run⟩

/-- An orphan inside comes before a prefix outside. -/
theorem Query.Reachable.compile_outcome_orphan : ∃ q : Query, q.Reachable ∧
    (∃ s ∈ q.levels.dropLast, s.Nameless) ∧ q.compile.run ∅ = (.error .orphanHaving, ∅) := by
  let s : Select :=
    { adapter := .plain, aliases := .sequence "t",
      options := Options.set {} strictKey (.bool true),
      group := some ⟨[], some ⟨"n > ?".toList, [.int32 3]⟩⟩ }
  let q : Query :=
    { adapter := .plain, aliases := .sequence "t",
      options := Options.set {} aliasPrefixKey (.int 5), table := .derived s (.name "a") }
  have hq : q.Reachable := by
    refine ⟨∅, [
      .create "s" .plain (.sequence "t") (.given (.name "a")),
      .call "s" (.setOption "strict" (.bool true)),
      .call "s" (.groupByHaving (.given .all) "n > ?" (.one (.int32 3))),
      .create "q" .plain (.sequence "t") (.moveOf "s"),
      .call "q" (.setOption "alias_prefix" (.int 5))], "q", ?_⟩
    rfl
  have ho : s.Orphaned := ⟨⟨_, _, rfl, rfl, rfl, by decide⟩, by decide⟩
  have hnot : ¬ q.toSelect.Orphaned := by
    rintro ⟨⟨g, having, hg, -⟩, -⟩
    cases hg
  have hnameless : q.toSelect.Nameless := by
    rintro start ⟨⟩
  refine ⟨q, hq, ⟨q.toSelect, List.mem_cons_self, hnameless⟩, ?_⟩
  refine (hq.compile_outcome ∅).2.1 [q.toSelect] s [] rfl ho ?_
  intro level hlevel
  rw [List.mem_singleton.mp hlevel]
  exact hnot

end SqlSelect
