import Mathlib.Data.List.Basic
import SqlSelect.Proofs.Reachable

/-!
# What a statement looks like

The text and the values of a statement, each by rules of its own. The text is the clauses one after
another, each written under a condition of its own; the values are those of what is written, the
derived table first, then the predicates, then the predicate on groups.

A derived table is a statement by the same rules, with its own adapter, in parentheses. Its name is
the one that is drawn when the statement inside is done, and is written by the adapter outside. So
what is written is a relation between selects on tables, names drawn before, texts, values and names
drawn after (`Select.Writes`). Compiling finds what is written, and there is nothing else
(`Query.Reachable.writes_iff`).
-/

namespace SqlSelect

/-! ## Columns and what rows are ordered by -/

/-- Texts with commas between them. -/
def commaSeparated (texts : List (List Char)) : List Char := ", ".toList.intercalate texts

/-- The text of a column: a name as the adapter writes it, a piece of SQL as it is. -/
def Column.text (a : Adapter) : Column → List Char
  | .name n => a.quote n.toList
  | .raw sql => sql.toList

/-- The text of what rows are ordered by. Only the descending direction is written. -/
def OrderItem.text (a : Adapter) : OrderItem → List Char
  | .column n .ascending => a.quote n.toList
  | .column n .descending => a.quote n.toList ++ " DESC".toList
  | .raw sql => sql.toList

theorem Column.text_fragment (a : Adapter) : ∀ c : Column, (c.fragment a).text = c.text a
  | .name _ | .raw _ => rfl

theorem Column.values_fragment (a : Adapter) : ∀ c : Column, (c.fragment a).values = []
  | .name _ | .raw _ => rfl

theorem OrderItem.text_fragment (a : Adapter) : ∀ i : OrderItem, (i.fragment a).text = i.text a
  | .column _ .ascending => List.append_nil _
  | .column _ .descending | .raw _ => rfl

theorem OrderItem.values_fragment (a : Adapter) : ∀ i : OrderItem, (i.fragment a).values = []
  | .column _ .ascending | .column _ .descending | .raw _ => rfl

namespace Select

/-! ## The text of each clause -/

/-- The columns, `*` if there are none. -/
def columnsText (s : Select) : List Char :=
  if s.columns = [] then "*".toList else commaSeparated (s.columns.map (Column.text s.adapter))

/-- The predicates, if there is one. -/
def whereText (s : Select) : List Char :=
  if s.predicates = [] then []
  else " WHERE (".toList ++ ") AND (".toList.intercalate (s.predicates.map Fragment.text) ++
    ")".toList

/-- The columns to group by, none if there is no group. -/
def groupColumns (s : Select) : List Column := (s.group.map Group.columns).getD []

/-- The predicate on groups, empty if there is none. -/
def having (s : Select) : Fragment := (s.group.bind Group.having).getD ∅

/-- Whether the predicate on groups is written: there are columns, and it is not empty. -/
def WritesHaving (s : Select) : Prop := s.groupColumns ≠ [] ∧ s.having.text ≠ []

instance (s : Select) : Decidable s.WritesHaving := inferInstanceAs (Decidable (_ ∧ _))

/-- The columns to group by, if there is one. -/
def groupText (s : Select) : List Char :=
  if s.groupColumns = [] then []
  else " GROUP BY ".toList ++ commaSeparated (s.groupColumns.map (Column.text s.adapter))

/-- The predicate on groups, if it is written. -/
def havingText (s : Select) : List Char :=
  if s.WritesHaving then " HAVING ".toList ++ s.having.text else []

/-- What rows are ordered by, if there is anything. -/
def orderText (s : Select) : List Char :=
  if s.order = [] then []
  else " ORDER BY ".toList ++ commaSeparated (s.order.map (OrderItem.text s.adapter))

/-- A count of rows in decimal digits after a keyword, if it is not zero. -/
def countText (keyword : String) (n : UInt32) : List Char :=
  if 0 < n.toNat then keyword.toList ++ Nat.toDigits 10 n.toNat else []

/-! ## Text and values of a statement -/

/-- The text of a statement around the text of what is selected from. -/
def text (s : Select) (source : List Char) : List Char :=
  "SELECT ".toList ++ s.columnsText ++ " FROM ".toList ++ source ++ s.whereText ++ s.groupText ++
    s.havingText ++ s.orderText ++ countText " LIMIT " s.limit ++ countText " OFFSET " s.offset

/-- The values of a statement: those of what is selected from, of the predicates in order, and of
the predicate on groups if it is written. -/
def values (s : Select) (source : List Value) : List Value :=
  source ++ s.predicates.flatMap Fragment.values ++
    if s.WritesHaving then s.having.values else []

/-- What is written for a select on a table, and the names drawn before and after. -/
inductive Writes : Select → Table → Draws → List Char → List Value → Draws → Prop
  | name (s : Select) (n : String) (d : Draws) :
      Writes s (.name n) d (s.text (s.adapter.quote n.toList)) (s.values []) d
  | raw (s : Select) (sql : String) (d : Draws) :
      Writes s (.raw sql) d (s.text sql.toList) (s.values []) d
  | derived {s inner : Select} {table : Table} {d e : Draws} {body : List Char}
      {vs : List Value} {start : String} (hbody : Writes inner table d body vs e)
      (hstart : s.options.aliasPrefix = .text start) :
      Writes s (.derived inner table) d
        (s.text ("(".toList ++ body ++ ") AS ".toList ++
          s.adapter.quote (s.aliases.spell start (e.count s.aliases.name + 1)).toList))
        (s.values vs) (e.add ⟨s.aliases.name, start⟩)

theorem Writes.unique {s : Select} {t : Table} {d e e' : Draws} {text text' : List Char}
    {vs vs' : List Value} (h : s.Writes t d text vs e) (h' : s.Writes t d text' vs' e') :
    text' = text ∧ vs' = vs ∧ e' = e := by
  induction h generalizing text' vs' e' with
  | name s n d =>
    cases h'
    exact ⟨rfl, rfl, rfl⟩
  | raw s sql d =>
    cases h'
    exact ⟨rfl, rfl, rfl⟩
  | derived hbody hstart ih =>
    cases h' with
    | derived hbody' hstart' =>
      obtain ⟨rfl, rfl, rfl⟩ := ih hbody'
      rw [hstart] at hstart'
      cases hstart'
      exact ⟨rfl, rfl, rfl⟩

/-! ## The clauses of a compiled select -/

theorem text_list (a : Adapter) (cs : List Column) :
    (Column.list a cs).text = commaSeparated (cs.map (Column.text a)) := by
  rw [Column.list, Fragment.text_join, List.map_map, commaSeparated]
  exact congrArg _ (List.map_congr_left fun c _ => c.text_fragment a)

theorem values_list (a : Adapter) (cs : List Column) : (Column.list a cs).values = [] := by
  rw [Column.list, Fragment.values_join, List.flatMap_map, List.flatMap_eq_nil_iff]
  exact fun c _ => c.values_fragment a

theorem text_selected (s : Select) :
    (Column.selected s.adapter s.columns).text = s.columnsText := by
  rw [Column.selected, columnsText]
  cases s.columns with
  | nil => rfl
  | cons c cs => rw [if_neg (by simp), if_neg (by simp), text_list]

theorem values_selected (s : Select) : (Column.selected s.adapter s.columns).values = [] := by
  rw [Column.selected]
  split
  · rfl
  · exact values_list _ _

theorem text_whereClause (s : Select) : s.whereClause.text = s.whereText := by
  rw [whereClause, whereText]
  cases s.predicates with
  | nil => rfl
  | cons f fs =>
    rw [if_neg (by simp), if_neg (by simp)]
    rfl

theorem values_whereClause (s : Select) :
    s.whereClause.values = s.predicates.flatMap Fragment.values := by
  rw [whereClause]
  cases s.predicates with
  | nil => rfl
  | cons f fs =>
    rw [if_neg (by simp)]
    simp

/-- Without an empty predicate on groups, there is one to write if and only if there are columns. -/
theorem groupClause_eq {s : Select} (h : s.Proper) :
    s.groupClause =
      (if s.groupColumns = [] then ∅
        else .sql " GROUP BY " ++ Column.list s.adapter s.groupColumns) ++
      if s.WritesHaving then .sql " HAVING " ++ s.having else ∅ := by
  rcases hg : s.group with - | g
  · have hcolumns : s.groupColumns = [] := by rw [groupColumns, hg]; rfl
    rw [if_pos hcolumns, if_neg fun hw => hw.1 hcolumns, groupClause, hg]
    rfl
  · have hcolumns : s.groupColumns = g.columns := by rw [groupColumns, hg]; rfl
    have hclause : s.groupClause = g.clause s.adapter := by rw [groupClause, hg]
    rw [hclause]
    by_cases hempty : s.groupColumns = []
    · rw [if_pos hempty, if_neg fun hw : s.WritesHaving => hw.1 hempty, Group.clause, ← hcolumns,
        hempty]
      rfl
    · rw [if_neg hempty, Group.clause, if_neg (by simpa [← hcolumns] using hempty), ← hcolumns]
      cases hh : g.having with
      | none =>
        have hhaving : s.having = ∅ := by rw [having, hg, Option.bind_some, hh]; rfl
        rw [if_neg fun hw => hw.2 (by rw [hhaving]; rfl)]
      | some predicate =>
        have hhaving : s.having = predicate := by rw [having, hg, Option.bind_some, hh]; rfl
        rw [if_pos ⟨hempty, hhaving ▸ h g predicate hg hh⟩, hhaving]

theorem text_groupClause {s : Select} (h : s.Proper) :
    s.groupClause.text = s.groupText ++ s.havingText := by
  rw [groupClause_eq h, Fragment.text_append, groupText, havingText, apply_ite Fragment.text,
    apply_ite Fragment.text, Fragment.text_append, Fragment.text_append, text_list]
  rfl

theorem values_groupClause {s : Select} (h : s.Proper) :
    s.groupClause.values = if s.WritesHaving then s.having.values else [] := by
  rw [groupClause_eq h, Fragment.values_append, apply_ite Fragment.values,
    apply_ite Fragment.values, Fragment.values_append, Fragment.values_append, values_list]
  split <;> rfl

theorem text_orderClause (s : Select) :
    (OrderItem.clause s.adapter s.order).text = s.orderText := by
  rw [OrderItem.clause, orderText]
  cases s.order with
  | nil => rfl
  | cons i is =>
    have hmap : ((i :: is).map (OrderItem.fragment s.adapter)).map Fragment.text
        = (i :: is).map (OrderItem.text s.adapter) := by
      rw [List.map_map]
      exact List.map_congr_left fun j _ => j.text_fragment s.adapter
    rw [if_neg (by simp), if_neg (by simp), Fragment.text_append, Fragment.text_join, hmap]
    rfl

theorem values_orderClause (s : Select) :
    (OrderItem.clause s.adapter s.order).values = [] := by
  rw [OrderItem.clause]
  split
  · rfl
  · rw [Fragment.values_append, Fragment.values_join, List.flatMap_map, Fragment.values_sql,
      List.nil_append, List.flatMap_eq_nil_iff]
    exact fun i _ => i.values_fragment s.adapter

theorem text_countClause (keyword : String) (n : UInt32) :
    (countClause keyword n).text = countText keyword n := by
  have hzero : n = 0 ↔ ¬ 0 < n.toNat := by
    rw [← UInt32.toNat_inj, UInt32.toNat_zero]
    omega
  rw [countClause, countText]
  by_cases h : n = 0
  · rw [if_pos h, if_neg (hzero.mp h)]
    rfl
  · rw [if_neg h, if_pos (Decidable.not_not.mp (mt hzero.mpr h)), Fragment.text_sql,
      String.toList_append, Nat.toString_eq_repr, Nat.toList_repr]

theorem values_countClause (keyword : String) (n : UInt32) :
    (countClause keyword n).values = [] := by
  rw [countClause]
  split <;> rfl

theorem text_statement {s : Select} (h : s.Proper) (source : Fragment) :
    (s.statement source).text = s.text source.text := by
  unfold Select.text
  rw [List.append_assoc _ s.groupText, ← text_groupClause h, ← text_selected,
    ← text_whereClause, ← text_orderClause, ← text_countClause, ← text_countClause]
  rfl

theorem values_statement {s : Select} (h : s.Proper) (source : Fragment) :
    (s.statement source).values = s.values source.values := by
  simp only [statement, Select.values, Fragment.values_append, Fragment.values_sql,
    values_selected, values_whereClause, values_groupClause h, values_orderClause,
    values_countClause, List.nil_append, List.append_nil]

/-! ## What compiling writes -/

theorem values_derivedTable (s : Select) (body : Fragment) (called : String) :
    (s.derivedTable body called).values = body.values := by
  simp [derivedTable]

/-- A compiled select is written by the rules, its derived tables first. -/
theorem Compiles.writes {s : Select} {t : Table} {d e : Draws} {f : Fragment}
    (h : s.Compiles t d f e) (hp : ∀ level ∈ s :: t.levels, level.Proper) :
    s.Writes t d f.text f.values e := by
  induction h with
  | @name s n d _ =>
    have hs : s.Proper := hp s List.mem_cons_self
    rw [text_statement hs, values_statement hs]
    exact .name s n d
  | @raw s sql d _ =>
    have hs : s.Proper := hp s List.mem_cons_self
    rw [text_statement hs, values_statement hs]
    exact .raw s sql d
  | @derived s inner t d e body start _ _ hstart ih =>
    obtain ⟨hs, hbelow⟩ := List.forall_mem_cons.mp hp
    rw [text_statement hs, values_statement hs, values_derivedTable]
    exact .derived (ih hbelow) (Options.aliasPrefix_of_getText hstart)

end Select

/-- **A statement is what the grammar writes.** When a query compiles, its text, its values and the
names drawn by then are those that are written for it, and no others are. -/
theorem Query.Reachable.writes_iff {q : Query} (hq : q.Reachable) {d e : Draws} {f : Fragment}
    (h : q.compile.run d = (.ok f, e)) (text : List Char) (vs : List Value) (after : Draws) :
    q.toSelect.Writes q.table d text vs after ↔ text = f.text ∧ vs = f.values ∧ after = e := by
  have hf : q.toSelect.Writes q.table d f.text f.values e := (Select.compiles_of_run h).writes hq.proper
  constructor
  · exact hf.unique
  · rintro ⟨rfl, rfl, rfl⟩
    exact hf

/-- Every clause is written, and the adapters differ. -/
theorem Query.Reachable.writes_nested :
    ∃ (q : Query) (s : Fragment), q.Reachable ∧
      q.compile.run ∅ = (.ok s, ⟨[⟨"t", "t_"⟩]⟩) ∧
      s = ⟨"SELECT `k` FROM (SELECT * FROM \x22v\x22 WHERE (x > ?)".toList ++
            " ORDER BY \x22x\x22 DESC LIMIT 9) AS `t_1` WHERE (y = ?) AND (z)".toList ++
            " GROUP BY `k` HAVING n < ? OFFSET 2".toList,
          [.int32 7, .int32 1, .int32 3]⟩ ∧
      q.toSelect.Writes q.table ∅ s.text s.values ⟨[⟨"t", "t_"⟩]⟩ := by
  let v : Select :=
    { adapter := .dialect .postgres, aliases := .sequence "t",
      predicates := [⟨"x > ?".toList, [.int32 7]⟩], order := [.column "x" .descending], limit := 9 }
  let q : Query :=
    { adapter := .dialect .mySql, aliases := .sequence "t", columns := [.name "k"],
      predicates := [⟨"y = ?".toList, [.int32 1]⟩, ⟨"z".toList, []⟩],
      group := some ⟨[.name "k"], some ⟨"n < ?".toList, [.int32 3]⟩⟩, offset := 2,
      table := .derived v (.name "v") }
  have hq : q.Reachable := by
    refine ⟨∅, [
      .create "v" (.dialect .postgres) (.sequence "t") (.given (.name "v")),
      .call "v" (.filter "x > ?" (.one (.int32 7))),
      .call "v" (.orderBy (.one (.sort "x" (some "DESC")))),
      .call "v" (.setLimit (.integer 9)),
      .create "q" (.dialect .mySql) (.sequence "t") (.moveOf "v"),
      .call "q" (.select (.given (.text "k"))),
      .call "q" (.filter "y = ?" (.one (.int32 1))),
      .call "q" (.filter "z" .none),
      .call "q" (.groupByHaving (.given (.text "k")) "n < ?" (.one (.int32 3))),
      .call "q" (.setOffset (.integer 2))], "q", ?_⟩
    rfl
  refine ⟨q, _, hq, ?compile, rfl, (hq.writes_iff ?compile _ _ _).mpr ⟨rfl, rfl, rfl⟩⟩
  case compile =>
    show @Eq (Except Error Fragment × Draws) _ _
    decide +kernel

end SqlSelect
