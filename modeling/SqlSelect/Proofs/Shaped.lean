import SqlSelect.Proofs.History

/-!
# Queries that keep the shapes of what they are given

A query keeps lists: in which shape items came is forgotten when they come in. Here is another way to
keep a query. It holds on to every shape, so that a list of one item is not the item, and an empty
list is not nothing. A statement is written from left to right into a draft (`Draft`), which puts the
values together in a shape of its own, one by one or many at once.

The two ways do the same. Without its shapes a shaped query is a query (`Shaped.Query.forget`), and
that one compiles to the same statement, with the same names drawn (`Shaped.Query.compile_eq`). A
change is refused by both alike, or gives the same query (`Shaped.Query.run_change`).
-/

namespace SqlSelect

/-! ## Drafts -/

/-- A statement while it is written. -/
structure Draft where
  text : List Char := []
  values : Items Value := .none

namespace Draft

/-- A text at the end. -/
def write (text : List Char) (w : Draft) : Draft := { w with text := w.text ++ text }

/-- A piece of SQL at the end. -/
def sql (s : String) (w : Draft) : Draft := w.write s.toList

/-- A name at the end, as an adapter writes it. -/
def name (a : Adapter) (n : String) (w : Draft) : Draft := w.write (a.quote n.toList)

/-- A placeholder at the end, and its value. -/
def placeholder (v : Value) (w : Draft) : Draft :=
  { text := w.text ++ ['?'], values := w.values.push v }

/-- Values for placeholders that are in the text already. -/
def supply (vs : Items Value) (w : Draft) : Draft := { w with values := w.values.append vs }

/-- A whole statement at the end. -/
def statement (f : Fragment) (w : Draft) : Draft := (w.write f.text).supply (.ofList f.values)

/-- One thing after another, with a separator between each two. -/
def list {α : Type} (write : α → Draft → Draft) (separator : String) : List α → Draft → Draft
  | [], w => w
  | [a], w => write a w
  | a :: b :: as, w => list write separator (b :: as) ((write a w).sql separator)

/-- The statement that was written. -/
def finish (w : Draft) : Fragment := ⟨w.text, w.values.toList⟩

/-! ## What is written -/

/-- A piece is put behind what is in the draft. -/
def Writes (write : Draft → Draft) (f : Fragment) : Prop :=
  ∀ w : Draft, (write w).finish = w.finish ++ f

theorem Writes.comp {write write' : Draft → Draft} {f f' : Fragment} (h : Writes write f)
    (h' : Writes write' f') : Writes (fun w => write' (write w)) (f ++ f') := by
  intro w
  rw [h', h]
  ext1 <;> simp

theorem writes_nothing : Writes (fun w => w) ∅ := by
  intro w
  ext1 <;> simp

theorem writes_write (text : List Char) : Writes (write text) ⟨text, []⟩ := by
  intro w
  ext1 <;> simp [write, finish]

theorem writes_sql (s : String) : Writes (sql s) (.sql s) := writes_write s.toList

theorem writes_name (a : Adapter) (n : String) : Writes (name a n) (.name a n) :=
  writes_write (a.quote n.toList)

theorem writes_placeholder (v : Value) : Writes (placeholder v) (.placeholder v) := by
  intro w
  ext1 <;> simp [placeholder, finish, Fragment.placeholder]

/-- A text and the values for it are a piece. -/
theorem writes_supply (text : List Char) (vs : Items Value) :
    Writes (fun w => (w.write text).supply vs) ⟨text, vs.toList⟩ := by
  intro w
  ext1 <;> simp [write, supply, finish]

theorem writes_statement (f : Fragment) : Writes (statement f) f := by
  intro w
  ext1 <;> simp [statement, write, supply, finish]

/-- What is written one after another is joined. -/
theorem writes_list {α : Type} {write : α → Draft → Draft} {piece : α → Fragment}
    (separator : String) (h : ∀ a, Writes (write a) (piece a)) :
    ∀ as : List α, Writes (list write separator as) (.join separator (as.map piece))
  | [] => writes_nothing
  | [a] => by
    rw [List.map_singleton, Fragment.join_singleton]
    exact h a
  | a :: b :: as => by
    rw [List.map_cons, List.map_cons, Fragment.join_cons_cons]
    exact ((h a).comp (writes_sql separator)).comp (writes_list separator h (b :: as))

/-- What a finished draft holds that was empty before. -/
theorem Writes.finish {write : Draft → Draft} {f : Fragment} (h : Writes write f) :
    (write {}).finish = f := by
  rw [h]
  ext1 <;> rfl

end Draft

/-! ## Items as plain lists -/

/-- Each item through a check, the shape kept. -/
def Items.traverse {ε α β : Type} (f : α → Except ε β) : Items α → Except ε (Items β)
  | .none => return .none
  | .one a => return .one (← f a)
  | .many as => return .many (← as.mapM f)

theorem Items.toList_traverse {ε α β : Type} (f : α → Except ε β) (as : Items α) :
    (as.traverse f).map toList = as.toList.mapM f := by
  cases as with
  | none => rfl
  | one a =>
    show (f a >>= _).map _ = [a].mapM f
    cases h : f a <;> simp [h] <;> rfl
  | many as =>
    show (as.mapM f >>= _).map _ = as.mapM f
    cases as.mapM f <;> rfl

/-- The same items in the shape of a list. -/
def Items.listed {α : Type} (as : Items α) : Items α := .many as.toList

/-- The same columns in the shape of a list. -/
def Selection.listed (cs : Selection) : Selection := .columns (.many cs.toList)

/-- The same call, all that it hands in itself in the shape of lists. -/
def Call.listed {τ τ' κ κ' ρ ρ' : Type} (table : τ → τ') (columns : κ → κ') (relation : ρ → ρ') :
    Call τ κ ρ → Call τ' κ' ρ'
  | .setTable t => .setTable (table t)
  | .setAliases source => .setAliases source
  | .select cs => .select (columns cs)
  | .filter sql vs => .filter sql vs.listed
  | .filterIn m column r => .filterIn m column (relation r)
  | .groupBy cs => .groupBy (columns cs)
  | .groupByHaving cs having vs => .groupByHaving (columns cs) having vs.listed
  | .orderBy terms => .orderBy terms.listed
  | .setLimit n => .setLimit n
  | .setOffset n => .setOffset n
  | .paginate page => .paginate page
  | .setOption key value => .setOption key value
  | .setProcessor f => .setProcessor f
  | .reset => .reset

/-! ## Shaped queries -/

namespace Shaped

/-- A predicate as it is kept: its text, and its values in their shape. -/
structure Predicate where
  text : List Char
  values : Items Value

/-- The columns to group by and the predicate on the groups. Its values are kept apart from it, and
without it too. -/
structure Group where
  columns : Items Column
  having : Option String
  values : Items Value

/-- The clauses of a query. -/
structure Select where
  adapter : Adapter
  aliases : AliasSource
  options : Options := {}
  columns : Items Column := .none
  predicates : List Predicate := []
  group : Option Group := none
  order : Items OrderItem := .none
  limit : UInt32 := 0
  offset : UInt32 := 0
  processor : Option (Record → Record) := none

/-- What a query selects from. -/
inductive Table where
  | name (n : String)
  | raw (sql : String)
  | derived (inner : Select) (table : Table)

/-- A select and its table. -/
structure Query extends Select where
  table : Table

/-- What a column is looked up in. -/
inductive Relation where
  | values (vs : Items Value)
  | query (q : Query)

/-! ### Writing -/

def writeColumn (a : Adapter) : Column → Draft → Draft
  | .name n => .name a n
  | .raw sql => .sql sql

/-- Columns with commas between them, `*` if there are none. -/
def writeColumns (a : Adapter) (cs : Items Column) (w : Draft) : Draft :=
  if cs.isEmpty then w.sql "*" else w.list (writeColumn a) ", " cs.toList

def writeOrderItem (a : Adapter) : OrderItem → Draft → Draft
  | .column n .ascending, w => w.name a n
  | .column n .descending, w => (w.name a n).sql " DESC"
  | .raw sql, w => w.sql sql

def Predicate.write (p : Predicate) (w : Draft) : Draft := (w.write p.text).supply p.values

namespace Group

def ofColumns (columns : Items Column) : Group := ⟨columns, none, .none⟩

/-- An empty text is no predicate, but its values are kept. -/
def ofHaving (columns : Items Column) (having : String) (values : Items Value) : Group :=
  ⟨columns, if having = "" then none else some having, values⟩

def isEmpty (g : Group) : Bool := g.columns.isEmpty

def hasOrphanHaving (g : Group) : Bool := g.columns.isEmpty && g.having.isSome

def writeHaving (g : Group) (w : Draft) : Draft :=
  match g.having with
  | none => w
  | some having => ((w.sql " HAVING ").write having.toList).supply g.values

/-- The clause, with the blank before it. -/
def write (a : Adapter) (g : Group) (w : Draft) : Draft :=
  if g.isEmpty then w else g.writeHaving (writeColumns a g.columns (w.sql " GROUP BY "))

end Group

namespace Select

def writeWhere (s : Select) (w : Draft) : Draft :=
  if s.predicates.isEmpty then w
  else ((w.sql " WHERE (").list Predicate.write ") AND (" s.predicates).sql ")"

def writeGroup (s : Select) (w : Draft) : Draft :=
  match s.group with
  | none => w
  | some g => g.write s.adapter w

def writeOrder (s : Select) (w : Draft) : Draft :=
  if s.order.isEmpty then w
  else (w.sql " ORDER BY ").list (writeOrderItem s.adapter) ", " s.order.toList

def writeCount (keyword : String) (n : UInt32) (w : Draft) : Draft :=
  if n = 0 then w else w.sql (keyword ++ toString n.toNat)

/-- All clauses around what is selected from. -/
def write (s : Select) (source : Draft → Draft) (w : Draft) : Draft :=
  writeCount " OFFSET " s.offset <| writeCount " LIMIT " s.limit <| s.writeOrder <| s.writeGroup <|
    s.writeWhere <| source <| Draft.sql " FROM " <| writeColumns s.adapter s.columns <|
      w.sql "SELECT "

/-- A derived table and its name. -/
def writeDerived (s : Select) (body : Fragment) (called : String) (w : Draft) : Draft :=
  (((w.sql "(").statement body).sql ") AS ").name s.adapter called

def hasOrphanHaving (s : Select) : Bool := s.group.any Group.hasOrphanHaving

def checkHaving (s : Select) : Except Error Unit :=
  if s.hasOrphanHaving then do
    if ← s.options.getBool strictKey then throw .orphanHaving
  else pure ()

/-- The statement of a select on a table, each written into a draft of its own. -/
def compile (s : Select) : Table → Drawing Fragment
  | .name n => do
    s.checkHaving
    return (s.write (.name s.adapter n) {}).finish
  | .raw sql => do
    s.checkHaving
    return (s.write (.sql sql) {}).finish
  | .derived inner table => do
    s.checkHaving
    let body ← inner.compile table
    let start ← s.options.getText aliasPrefixKey
    let called ← s.aliases.draw start
    return (s.write (s.writeDerived body called) {}).finish

end Select

/-- The statement of a query. -/
def Query.compile (q : Query) : Drawing Fragment := q.toSelect.compile q.table

/-! ### Changing -/

/-- A change, its tables and relations with their shapes. -/
abbrev Change := Call Table Selection Relation

/-- A predicate that was written into a draft. -/
def Predicate.ofDraft (w : Draft) : Predicate := ⟨w.text, w.values⟩

/-- A column and the operator, up to what the column is looked up in. -/
def writeMembership (a : Adapter) (m : Membership) (column : String) (w : Draft) : Draft :=
  (((w.name a column).sql " ").sql m.operator).sql " ("

def Relation.write : Relation → Draft → Drawing Draft
  | .values vs, w => return w.list Draft.placeholder ", " vs.toList
  | .query q, w => return w.statement (← q.compile)

namespace Query

def addPredicate (q : Query) (p : Predicate) : Query := { q with predicates := q.predicates ++ [p] }

def orderBy (q : Query) (terms : Items Term) : Except Error Query := do
  return { q with order := ← terms.traverse Term.resolve }

/-- One more predicate, written into a draft of its own. -/
def filterIn (q : Query) (m : Membership) (column : String) (r : Relation) : Drawing Query := do
  let w ← r.write (writeMembership q.adapter m column {})
  return q.addPredicate (.ofDraft (w.sql ")"))

/-- The query after a change. -/
def change (q : Query) : Change → Drawing Query
  | .setTable table => return { q with table }
  | .setAliases aliases => return { q with aliases }
  | .select cs => return { q with columns := cs.items }
  | .filter sql vs => return q.addPredicate ⟨sql.toList, vs⟩
  | .filterIn m column r => q.filterIn m column r
  | .groupBy cs => return { q with group := some (.ofColumns cs.items) }
  | .groupByHaving cs having vs =>
    return { q with group := some (.ofHaving cs.items having vs) }
  | .orderBy terms => q.orderBy terms
  | .setLimit n => return { q with limit := n.count }
  | .setOffset n => return { q with offset := n.count }
  | .paginate page => return { q with limit := page.limit, offset := page.offset }
  | .setOption key value => return { q with options := q.options.set key value }
  | .setProcessor f => return { q with processor := some f }
  | .reset => return { q with
      columns := .none, predicates := [], group := none, order := .none, limit := 0, offset := 0 }

end Query

/-! ### Forgetting the shapes -/

def Predicate.forget (p : Predicate) : Fragment := ⟨p.text, p.values.toList⟩

def Group.forget (g : Group) : SqlSelect.Group where
  columns := g.columns.toList
  having := g.having.map fun having => ⟨having.toList, g.values.toList⟩

def Select.forget (s : Select) : SqlSelect.Select where
  adapter := s.adapter
  aliases := s.aliases
  options := s.options
  columns := s.columns.toList
  predicates := s.predicates.map Predicate.forget
  group := s.group.map Group.forget
  order := s.order.toList
  limit := s.limit
  offset := s.offset
  processor := s.processor

def Table.forget : Table → SqlSelect.Table
  | .name n => .name n
  | .raw sql => .raw sql
  | .derived inner table => .derived inner.forget table.forget

def Query.forget (q : Query) : SqlSelect.Query := { q.toSelect.forget with table := q.table.forget }

def Relation.forget : Relation → SqlSelect.Relation
  | .values vs => .values vs.listed
  | .query q => .query q.forget

def Change.forget : Change → SqlSelect.Change :=
  Call.listed Table.forget Selection.listed Relation.forget

/-! ### Compiling -/

open Draft

theorem writes_column (a : Adapter) : ∀ c : Column, Writes (writeColumn a c) (c.fragment a)
  | .name n => writes_name a n
  | .raw sql => writes_sql sql

theorem writes_columns (a : Adapter) (cs : Items Column) :
    Writes (writeColumns a cs) (Column.selected a cs.toList) := by
  unfold writeColumns Column.selected
  rw [← Items.isEmpty_eq]
  split
  · exact writes_sql "*"
  · exact writes_list ", " (writes_column a) cs.toList

theorem writes_orderItem (a : Adapter) :
    ∀ i : OrderItem, Writes (writeOrderItem a i) (i.fragment a)
  | .column n .ascending => (writes_name a n).comp writes_nothing
  | .column n .descending => (writes_name a n).comp (writes_sql " DESC")
  | .raw sql => writes_sql sql

namespace Group

theorem forget_ofHaving (columns : Items Column) (having : String) (values : Items Value) :
    (ofHaving columns having values).forget
      = (SqlSelect.Group.ofColumns columns.toList).withHaving having values.toList := by
  unfold ofHaving SqlSelect.Group.withHaving
  split <;> rfl

theorem isEmpty_forget (g : Group) : g.forget.isEmpty = g.isEmpty := g.columns.isEmpty_eq.symm

theorem hasOrphanHaving_forget (g : Group) : g.forget.hasOrphanHaving = g.hasOrphanHaving := by
  simp [forget, SqlSelect.Group.hasOrphanHaving, hasOrphanHaving, Items.isEmpty_eq]

theorem writes_having (g : Group) :
    Writes g.writeHaving (match g.forget.having with
      | none => ∅
      | some predicate => .sql " HAVING " ++ predicate) := by
  intro w
  unfold writeHaving forget
  cases g.having with
  | none => exact writes_nothing w
  | some having => exact (writes_sql " HAVING ").comp (writes_supply having.toList g.values) w

theorem writes (a : Adapter) (g : Group) : Writes (g.write a) (g.forget.clause a) := by
  have hcolumns := writes_columns a g.columns
  have hempty : g.columns.toList.isEmpty = g.isEmpty := g.isEmpty_forget
  rw [Column.selected, hempty] at hcolumns
  unfold write SqlSelect.Group.clause
  rw [show g.forget.columns.isEmpty = g.isEmpty from hempty]
  by_cases h : g.isEmpty = true
  · simp only [if_pos h]
    exact writes_nothing
  · simp only [if_neg h] at hcolumns ⊢
    exact ((writes_sql " GROUP BY ").comp hcolumns).comp g.writes_having

end Group

namespace Select

variable (s : Select)

theorem writes_where : Writes s.writeWhere s.forget.whereClause := by
  have hpredicate : ∀ p : Predicate, Writes p.write p.forget :=
    fun p => writes_supply p.text p.values
  have hjoin := writes_list ") AND (" hpredicate s.predicates
  have hempty : s.forget.predicates.isEmpty = s.predicates.isEmpty := List.isEmpty_map
  intro w
  unfold writeWhere SqlSelect.Select.whereClause
  rw [hempty]
  split
  · exact writes_nothing w
  · exact ((writes_sql " WHERE (").comp hjoin).comp (writes_sql ")") w

theorem writes_group : Writes s.writeGroup s.forget.groupClause := by
  intro w
  unfold writeGroup SqlSelect.Select.groupClause forget
  cases s.group with
  | none => exact writes_nothing w
  | some g => exact g.writes s.adapter w

theorem writes_order :
    Writes s.writeOrder (OrderItem.clause s.forget.adapter s.forget.order) := by
  have hlist := writes_list ", " (writes_orderItem s.adapter) s.order.toList
  have hempty : s.forget.order.isEmpty = s.order.isEmpty := s.order.isEmpty_eq.symm
  intro w
  unfold writeOrder OrderItem.clause
  rw [hempty]
  split
  · exact writes_nothing w
  · exact (writes_sql " ORDER BY ").comp hlist w

theorem writes_count (keyword : String) (n : UInt32) :
    Writes (writeCount keyword n) (SqlSelect.Select.countClause keyword n) := by
  intro w
  unfold writeCount SqlSelect.Select.countClause
  split
  · exact writes_nothing w
  · exact writes_sql _ w

/-- Written from left to right, the clauses are the statement. -/
theorem writes_statement {source : Draft → Draft} {f : Fragment} (h : Writes source f) :
    Writes (s.write source) (s.forget.statement f) := by
  have hfrom := (((writes_sql "SELECT ").comp (writes_columns s.adapter s.columns)).comp
    (writes_sql " FROM ")).comp h
  exact (((hfrom.comp s.writes_where).comp s.writes_group).comp s.writes_order).comp
    (writes_count " LIMIT " s.limit) |>.comp (writes_count " OFFSET " s.offset)

theorem writes_derived (body : Fragment) (called : String) :
    Writes (s.writeDerived body called) (s.forget.derivedTable body called) :=
  (((writes_sql "(").comp (Draft.writes_statement body)).comp (writes_sql ") AS ")).comp
    (writes_name s.adapter called)

theorem checkHaving_forget : s.forget.checkHaving = s.checkHaving := by
  have horphan : s.forget.hasOrphanHaving = s.hasOrphanHaving := by
    unfold SqlSelect.Select.hasOrphanHaving hasOrphanHaving forget
    cases s.group with
    | none => rfl
    | some g => exact g.hasOrphanHaving_forget
  rw [SqlSelect.Select.checkHaving, checkHaving, horphan]
  rfl

/-- **Shapes make no difference to a statement,** at whatever level they are. -/
theorem compile_eq (s : Select) (t : Table) : s.compile t = s.forget.compile t.forget := by
  have hfinish : ∀ {s : Select} {source : Draft → Draft} {f : Fragment}, Writes source f →
      (s.write source {}).finish = s.forget.statement f :=
    fun h => (writes_statement _ h).finish
  induction t generalizing s with
  | name n =>
    rw [compile, Table.forget, SqlSelect.Select.compile, checkHaving_forget,
      hfinish (writes_name s.adapter n)]
    rfl
  | raw sql =>
    rw [compile, Table.forget, SqlSelect.Select.compile, checkHaving_forget,
      hfinish (writes_sql sql)]
  | derived inner t ih =>
    rw [compile, Table.forget, SqlSelect.Select.compile, checkHaving_forget, ih]
    simp only [hfinish (writes_derived s _ _)]
    rfl

end Select

theorem Query.compile_eq (q : Query) : q.compile = q.forget.compile :=
  q.toSelect.compile_eq q.table

/-! ### Changing -/

namespace Query

theorem forget_addPredicate (q : Query) (p : Predicate) :
    (q.addPredicate p).forget = q.forget.addPredicate p.forget := by
  simp [forget, Select.forget, addPredicate, SqlSelect.Query.addPredicate]

theorem forget_orderBy (q : Query) (terms : Items Term) :
    q.forget.orderBy terms.listed = (q.orderBy terms).map forget := by
  have horder : Term.resolveAll terms.listed.toList
      = (terms.traverse Term.resolve).map Items.toList :=
    (Items.toList_traverse Term.resolve terms).symm
  rw [SqlSelect.Query.orderBy, horder, orderBy]
  cases terms.traverse Term.resolve <;> rfl

theorem writes_membership (a : Adapter) (m : Membership) (column : String) :
    Writes (writeMembership a m column)
      (.name a column ++ .sql " " ++ .sql m.operator ++ .sql " (") :=
  (((writes_name a column).comp (writes_sql " ")).comp (writes_sql m.operator)).comp
    (writes_sql " (")

/-- A relation is written behind what is in the draft, whatever that is, or not at all. -/
theorem run_write (r : Relation) (d : Draws) :
    match r.forget.fragment.run d with
    | (.ok list, e) => ∃ write, Writes write list ∧ ∀ w, (r.write w).run d = (.ok (write w), e)
    | (.error x, e) => ∀ w, (r.write w).run d = (.error x, e) := by
  cases r with
  | values vs =>
    exact ⟨Draft.list Draft.placeholder ", " vs.toList, writes_list ", " writes_placeholder vs.toList,
      fun w => rfl⟩
  | query q =>
    simp only [Relation.forget, SqlSelect.Relation.fragment, ← q.compile_eq, Relation.write,
      Drawing.run_bind]
    rcases q.compile.run d with ⟨x | f, e⟩
    · exact fun w => rfl
    · exact ⟨Draft.statement f, Draft.writes_statement f, fun w => rfl⟩

theorem run_filterIn (q : Query) (m : Membership) (column : String) (r : Relation) (d : Draws) :
    (q.forget.filterIn m column r.forget).run d
      = (((q.filterIn m column r).run d).1.map forget, ((q.filterIn m column r).run d).2) := by
  have hrelation := run_write r d
  rw [SqlSelect.Query.filterIn, filterIn, Drawing.run_bind, Drawing.run_bind]
  revert hrelation
  rcases r.forget.fragment.run d with ⟨list | x, e⟩
  · intro hrelation
    rw [hrelation]
    rfl
  · rintro ⟨write, hwrite, hrun⟩
    have hdraft := ((writes_membership q.adapter m column).comp hwrite).comp (writes_sql ")")
    rw [hrun]
    show (Except.ok (q.forget.addPredicate _), e) = (.ok (q.addPredicate (.ofDraft _)).forget, e)
    rw [forget_addPredicate]
    exact congrArg (fun p => (Except.ok (q.forget.addPredicate p), e)) hdraft.finish.symm

/-- **A change of a shaped query** is refused alike, or gives the query with the same shapes
forgotten. The same names are drawn. -/
theorem run_change (q : Query) (c : Change) (d : Draws) :
    ((Change.forget c).apply q.forget).run d
      = (((q.change c).run d).1.map forget, ((q.change c).run d).2) := by
  cases c with
  | filter sql vs =>
    show (Except.ok (q.forget.filter sql vs.listed), d) = (.ok (q.addPredicate _).forget, d)
    rw [forget_addPredicate]
    rfl
  | filterIn m column r => exact q.run_filterIn m column r d
  | groupBy cs => rfl
  | groupByHaving cs having vs =>
    exact congrArg (fun g => (Except.ok { q.forget with group := some g }, d))
      (Group.forget_ofHaving cs.items having vs).symm
  | orderBy terms =>
    show (q.forget.orderBy terms.listed, d) = ((q.orderBy terms).map forget, d)
    rw [forget_orderBy]
  | _ => rfl

end Query

end Shaped

end SqlSelect
