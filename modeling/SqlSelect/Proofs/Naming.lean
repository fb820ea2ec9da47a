import SqlSelect.Proofs.Redrawing
import SqlSelect.Proofs.Spelling
import SqlSelect.Proofs.Unquoting

/-!
# The name of a derived table as it is written

Behind a derived table its name is written, by the adapter of the select around it. The name begins
with what the option `alias_prefix` says and ends in a number, and behind it there is nothing, a blank
or a parenthesis (`Select.endsName_closing`). So a reader of the text finds where the name ends and
which number it has (`Adapter.Standard.quote_spell_inj`).

A name in this place has to be a single one. But it is written like any other name, each part between
dots by itself, so it is a single one if and only if the option holds no dot
(`Query.name_enclosed_iff`). With a dot there are two names with a dot between them
(`Query.name_in_two_parts`).
-/

namespace SqlSelect

/-! ## Where a name ends -/

/-- Nothing follows, or a blank or a parenthesis. -/
def EndsName (rest : List Char) : Prop := ∀ c, rest.head? = some c → c = ' ' ∨ c = ')'

namespace EndsName

theorem nil : EndsName [] := nofun

theorem append {a b : List Char} (ha : EndsName a) (hb : EndsName b) : EndsName (a ++ b) := by
  cases a with
  | nil => exact hb
  | cons c a => exact ha

theorem blank (rest : List Char) : EndsName (' ' :: rest) := by
  intro c hc
  exact .inl (Option.some.inj hc).symm

theorem closing (rest : List Char) : EndsName (')' :: rest) := by
  intro c hc
  exact .inr (Option.some.inj hc).symm

theorem ne_of_head? {rest : List Char} (h : EndsName rest) {c : Char} (hb : c ≠ ' ')
    (hp : c ≠ ')') : rest.head? ≠ some c := by
  intro hc
  rcases h c hc with rfl | rfl
  · exact hb rfl
  · exact hp rfl

end EndsName

namespace Select

theorem endsName_countClause {keyword : String} (h : keyword.toList.head? = some ' ')
    (n : UInt32) : EndsName (countClause keyword n).text := by
  rw [countClause]
  split
  · exact .nil
  · intro c hc
    rw [Fragment.text_sql, String.toList_append, List.head?_append, h] at hc
    exact .inl (Option.some.inj hc).symm

/-- Every clause begins with a blank, if it is written. -/
theorem endsName_closing (s : Select) : EndsName s.closing.text := by
  have hwhere : EndsName s.whereClause.text := by
    rw [whereClause]
    split
    · exact .nil
    · exact .blank _
  have hgroup : EndsName s.groupClause.text := by
    rw [groupClause]
    cases s.group with
    | none => exact .nil
    | some g =>
      show EndsName (g.clause s.adapter).text
      rw [Group.clause]
      split
      · exact .nil
      · exact .blank _
  have horder : EndsName (OrderItem.clause s.adapter s.order).text := by
    rw [OrderItem.clause]
    split
    · exact .nil
    · exact .blank _
  have hlimit : EndsName (countClause " LIMIT " s.limit).text := endsName_countClause rfl _
  have hoffset : EndsName (countClause " OFFSET " s.offset).text := endsName_countClause rfl _
  exact (((hwhere.append hgroup).append horder).append hlimit).append hoffset

/-- So does every name that is followed by clauses or by the names of the selects around. -/
theorem endsName_naming (ss : List Select) (names : List String) :
    EndsName (List.zipWith naming ss names).flatten := by
  cases ss with
  | nil => exact .nil
  | cons s ss =>
    cases names with
    | nil => exact .nil
    | cons called names => exact .closing _

end Select

/-! ## Reading the number off -/

/-- Digits end where the text has no digit any more. -/
theorem takeWhile_isDigit_append (n : Nat) {rest : List Char} (h : EndsName rest) :
    (Nat.toDigits 10 n ++ rest).takeWhile Char.isDigit = Nat.toDigits 10 n := by
  have hdigits : ∀ c ∈ Nat.toDigits 10 n, c.isDigit = true :=
    fun c hc => Nat.isDigit_of_mem_toDigits (by decide) (by decide) hc
  rw [List.takeWhile_append_of_pos hdigits]
  cases rest with
  | nil => rw [List.takeWhile_nil, List.append_nil]
  | cons c rest =>
    have hc : c.isDigit = false := by
      rcases h c rfl with rfl | rfl <;> rfl
    rw [List.takeWhile_cons_of_neg (by simp [hc]), List.append_nil]

theorem toDigits_injective {m n : Nat} (h : Nat.toDigits 10 m = Nat.toDigits 10 n) : m = n := by
  have hvalue := congrArg (fun digits => Nat.ofDigitChars 10 digits 0) h
  simpa only [Nat.ofDigitChars_ten_toDigits] using hvalue

theorem toDigits_append_inj {m n : Nat} {rest rest' : List Char} (hr : EndsName rest)
    (hr' : EndsName rest') (h : Nat.toDigits 10 m ++ rest = Nat.toDigits 10 n ++ rest') :
    m = n ∧ rest = rest' := by
  have hdigits := congrArg (List.takeWhile Char.isDigit) h
  rw [takeWhile_isDigit_append m hr, takeWhile_isDigit_append n hr'] at hdigits
  refine ⟨toDigits_injective hdigits, ?_⟩
  rw [hdigits] at h
  exact List.append_cancel_left h

/-- A quoted name can be read back, and the reader stops where the name ends. -/
theorem Dialect.readName_quote_of_endsName (dl : Dialect) (name : List Char) {rest : List Char}
    (h : EndsName rest) :
    dl.quotes.readName (dl.quotes.quote name ++ rest) = some (name.splitOn '.', rest) := by
  refine dl.readName_quote_append name (h.ne_of_head? ?_ ?_) (h.ne_of_head? (by decide) (by decide))
  · cases dl <;> decide
  · cases dl <;> decide

theorem Dialect.quote_append_inj (dl : Dialect) {name name' rest rest' : List Char}
    (hr : EndsName rest) (hr' : EndsName rest')
    (h : dl.quotes.quote name ++ rest = dl.quotes.quote name' ++ rest') :
    name = name' ∧ rest = rest' := by
  have hread := dl.readName_quote_of_endsName name hr
  rw [h, dl.readName_quote_of_endsName name' hr'] at hread
  obtain ⟨hparts, hrest⟩ := Prod.mk.inj (Option.some.inj hread)
  refine ⟨?_, hrest.symm⟩
  rw [← name.intercalate_splitOn '.', ← hparts, name'.intercalate_splitOn]

/-- Names are written as they are or quoted, not by a rule of the caller. -/
def Adapter.Standard : Adapter → Prop
  | .plain | .dialect _ => True
  | .custom _ => False

/-- Names are a prefix and a number, not made by a rule of the caller. -/
def AliasSource.Counting : AliasSource → Prop
  | .sequence _ => True
  | .custom _ _ => False

theorem AliasSource.Counting.spell_inj {source : AliasSource} (hs : source.Counting)
    {start : String} {m n : Nat} (h : source.spell start m = source.spell start n) : m = n := by
  cases source with
  | custom name rule => exact hs.elim
  | sequence name =>
    rw [← String.toList_inj, toList_spell_sequence, toList_spell_sequence] at h
    exact toDigits_injective (List.append_cancel_left h)

/-- **The number of a written name can be told from the text,** whatever its prefix is. -/
theorem Adapter.Standard.quote_spell_inj {a : Adapter} (ha : a.Standard) {source : AliasSource}
    (hs : source.Counting) {start : String} {m n : Nat} {rest rest' : List Char}
    (hr : EndsName rest) (hr' : EndsName rest')
    (h : a.quote (source.spell start m).toList ++ rest
      = a.quote (source.spell start n).toList ++ rest') :
    m = n ∧ rest = rest' := by
  cases source with
  | custom name rule => exact hs.elim
  | sequence name =>
    rw [toList_spell_sequence, toList_spell_sequence] at h
    cases a with
    | custom rule => exact ha.elim
    | plain =>
      unfold quote at h
      rw [List.append_assoc, List.append_assoc] at h
      exact toDigits_append_inj hr hr' (List.append_cancel_left h)
    | dialect dl =>
      obtain ⟨hname, hrest⟩ := dl.quote_append_inj hr hr' h
      exact ⟨toDigits_injective (List.append_cancel_left hname), hrest⟩

/-! ## One identifier -/

/-- A name has one part more than dots. -/
theorem length_splitOn_dot (name : List Char) :
    (name.splitOn '.').length = name.count '.' + 1 := by
  induction name with
  | nil => rfl
  | cons c name ih =>
    rw [List.splitOn_cons_eq_if_modifyHead]
    by_cases hc : c = '.'
    · subst hc
      rw [if_pos (by simp), List.length_cons, ih, List.count_cons_self]
    · rw [if_neg (by simpa using hc), List.length_modifyHead, ih, List.count_cons_of_ne hc]

/-- A part between quotes is read back as one part. -/
theorem Dialect.readName_enclose (dl : Dialect) (part : List Char) :
    dl.quotes.readName (dl.quotes.enclose part) = some ([part], []) := by
  have hopen : dl.quotes.opening ≠ '*' := by cases dl <;> decide
  have hquoted : dl.quotes.readQuoted (part.flatMap dl.quotes.quoteChar ++ [dl.quotes.closing])
      = some (part, []) := Quotes.readQuoted_flatMap (by simp) part
  have hpart : dl.quotes.readPart (dl.quotes.enclose part) = some (part, []) := by
    rw [Quotes.enclose, Quotes.readPart, if_neg hopen, if_pos rfl, hquoted]
  exact Quotes.readName_of_readPart hpart (by simp)

/-- **A name is written as one identifier** if and only if it has no dot in it and does not stand for
every column. -/
theorem Dialect.quote_eq_enclose_iff (dl : Dialect) (name : List Char) :
    dl.quotes.quote name = dl.quotes.enclose name ↔ '.' ∉ name ∧ name ≠ ['*'] := by
  constructor
  · intro h
    constructor
    · intro hdot
      -- The reader would find one part in the one and more in the other.
      have hquote := dl.readName_quote_of_endsName name .nil
      rw [List.append_nil, h, dl.readName_enclose] at hquote
      have hlength := congrArg List.length (Prod.mk.inj (Option.some.inj hquote)).1
      rw [length_splitOn_dot] at hlength
      have hcount := List.count_pos_iff.mpr hdot
      simp only [List.length_singleton] at hlength
      omega
    · rintro rfl
      have hlength := congrArg List.length h
      cases dl <;> cases hlength
  · rintro ⟨hdot, hstar⟩
    rw [Quotes.quote, List.splitOn_eq_singleton hdot, List.map_singleton,
      List.intercalate_singleton, Quotes.quotePart, if_neg hstar]

theorem dot_not_mem_toDigits (n : Nat) : '.' ∉ Nat.toDigits 10 n := by
  intro h
  have hdigit : '.'.isDigit = true := Nat.isDigit_of_mem_toDigits (by decide) (by decide) h
  cases hdigit

/-- A prefix and a number are one identifier if the prefix has no dot in it. -/
theorem Dialect.quote_numbered_eq_enclose_iff (dl : Dialect) (start : List Char) (n : Nat) :
    dl.quotes.quote (start ++ Nat.toDigits 10 n) = dl.quotes.enclose (start ++ Nat.toDigits 10 n) ↔
      '.' ∉ start := by
  -- The last character is a digit.
  have hstar : start ++ Nat.toDigits 10 n ≠ ['*'] := by
    intro h
    have hlast := congrArg List.getLast? h
    rw [List.getLast?_append, List.getLast?_eq_some_getLast Nat.toDigits_ne_nil,
      Option.some_or] at hlast
    have hdigit : ((Nat.toDigits 10 n).getLast Nat.toDigits_ne_nil).isDigit = true :=
      Nat.isDigit_of_mem_toDigits (by decide) (by decide) (List.getLast_mem _)
    rw [Option.some.inj hlast] at hdigit
    cases hdigit
  rw [quote_eq_enclose_iff, List.mem_append, not_or]
  constructor
  · exact fun h => h.1.1
  · exact fun h => ⟨⟨h, dot_not_mem_toDigits n⟩, hstar⟩

/-- **When the name of a derived table is a single one.** Where a query on a derived table compiles
by a dialect, there stands behind the table the name that was drawn, a prefix and a number, and
nothing of the clauses goes on with it: a reader of names reads it, and stops where it ends. The
reader finds one part more than there are dots in the prefix. So the name is written as a single
identifier, from an opening character to a closing one with each closing one inside written twice, if
and only if there is no dot in the prefix. -/
theorem Query.name_enclosed_iff {q : Query} {dl : Dialect} {source : String} {inner : Select}
    {t : Table} (ha : q.adapter = .dialect dl) (hs : q.aliases = .sequence source)
    (ht : q.table = .derived inner t) {d e : Draws} {f : Fragment}
    (h : q.compile.run d = (.ok f, e)) :
    ∃ (start : String) (body : Fragment) (before : Draws) (called rest : List Char),
      q.options.aliasPrefix = .text start ∧
      (inner.compile t).run d = (.ok body, before) ∧
      called = start.toList ++ Nat.toDigits 10 (before.count source + 1) ∧
      f.text = q.opening.text ++ "(".toList ++ body.text ++ ") AS ".toList ++
        dl.quotes.quote called ++ rest ∧
      dl.quotes.readName (dl.quotes.quote called ++ rest) = some (called.splitOn '.', rest) ∧
      (called.splitOn '.').length = start.toList.count '.' + 1 ∧
      (dl.quotes.quote called = dl.quotes.enclose called ↔ '.' ∉ start.toList) := by
  obtain ⟨s, table⟩ := q
  obtain rfl : table = .derived inner t := ht
  cases Select.compiles_of_run h with
  | @derived _ _ _ _ before body start check hbody hstart =>
    refine ⟨start, body, before, _, s.closing.text, Options.aliasPrefix_of_getText hstart, hbody.run,
      rfl, ?text, dl.readName_quote_of_endsName _ s.endsName_closing, ?parts,
      dl.quote_numbered_eq_enclose_iff _ _⟩
    case text =>
      have hadapter : s.adapter = .dialect dl := ha
      have haliases : s.aliases = .sequence source := hs
      rw [Select.text_derivedTable]
      unfold Select.naming
      rw [hadapter, haliases, Adapter.quote, toList_spell_sequence]
      simp only [AliasSource.name, List.append_assoc]
    case parts =>
      rw [length_splitOn_dot, List.count_append,
        List.count_eq_zero.mpr (dot_not_mem_toDigits _), Nat.add_zero]

/-- A quote and a star in the prefix, and a clause behind the name. -/
theorem Query.name_enclosed_iff_escaped :
    ∃ (q : Query) (f : Fragment) (called : List Char),
      q.adapter = .dialect .postgres ∧ q.aliases = .sequence "t" ∧
      q.table = .derived { adapter := .plain, aliases := .sequence "t" } (.name "a") ∧
      q.options.aliasPrefix = .text "x\x22*" ∧
      q.compile.run ∅ = (.ok f, ⟨[⟨"t", "x\x22*"⟩]⟩) ∧
      f.text = "SELECT * FROM (SELECT * FROM a) AS ".toList ++
        Dialect.postgres.quotes.quote called ++ " LIMIT 1".toList ∧
      called = "x\x22*1".toList ∧
      Dialect.postgres.quotes.quote called = Dialect.postgres.quotes.enclose called := by
  let q : Query :=
    { adapter := .dialect .postgres, aliases := .sequence "t",
      options := Options.set {} aliasPrefixKey (.text "x\x22*"), limit := 1,
      table := .derived { adapter := .plain, aliases := .sequence "t" } (.name "a") }
  have hadapter : q.adapter = .dialect .postgres := rfl
  have haliases : q.aliases = .sequence "t" := rfl
  have hrun : q.compile.run ∅ = (.ok _, _) := rfl
  obtain ⟨start, body, before, called, rest, hstart, hbody, hcalled, -, -, -, hiff⟩ :=
    name_enclosed_iff hadapter haliases rfl hrun
  cases hstart
  cases hbody
  obtain rfl : called = "x\x22*1".toList := hcalled
  exact ⟨q, _, _, rfl, rfl, rfl, rfl, hrun, by decide +kernel, rfl, hiff.mpr (by decide)⟩

/-- **A dot in the prefix makes two names of one.** -/
theorem Query.name_in_two_parts :
    ∃ (q : Query) (f : Fragment) (written : List Char),
      q.adapter = .dialect .postgres ∧ q.aliases = .sequence "t" ∧
      q.table = .derived { adapter := .plain, aliases := .sequence "t" } (.name "a") ∧
      q.options.aliasPrefix = .text "x.y" ∧
      q.compile.run ∅ = (.ok f, ⟨[⟨"t", "x.y"⟩]⟩) ∧
      f.text = "SELECT * FROM (SELECT * FROM a) AS ".toList ++ written ∧
      written = "\x22x\x22.\x22y1\x22".toList ∧
      Dialect.postgres.quotes.readName written = some (["x", "y1"].map String.toList, []) ∧
      written ≠ Dialect.postgres.quotes.enclose "x.y1".toList := by
  let q : Query :=
    { adapter := .dialect .postgres, aliases := .sequence "t",
      options := Options.set {} aliasPrefixKey (.text "x.y"),
      table := .derived { adapter := .plain, aliases := .sequence "t" } (.name "a") }
  have hquote : Dialect.postgres.quotes.quote "x.y1".toList = "\x22x\x22.\x22y1\x22".toList := by
    decide
  have hread := Dialect.readName_quote_of_endsName .postgres "x.y1".toList .nil
  rw [List.append_nil, hquote] at hread
  exact ⟨q, _, _, rfl, rfl, rfl, rfl, rfl, by decide +kernel, rfl, hread, by decide⟩

end SqlSelect
