import SqlSelect.Proofs.Naming

/-!
# Qualified names

A name can be put together from names with dots between them, as a column is from its table and what
it is called there. Whether the whole is quoted at once or each piece by itself makes no difference
(`Quotes.quote_append_dot`, `Quotes.quote_intercalate`): a dot always ends a part, also where a piece
is empty, begins or ends with a dot, or is a bare `*`.

Quoting writes no dot of its own (`Quotes.splitOn_quote`). So there are as many parts afterwards as
before, one more than dots.
-/

namespace SqlSelect

/-! ## Joining lists with a separator between them -/

/-- Parts of two lists, both with something in them, are joined by one separator more. -/
theorem intercalate_append {α : Type} (separator : List α) {as bs : List (List α)} (ha : as ≠ [])
    (hb : bs ≠ []) :
    separator.intercalate (as ++ bs)
      = separator.intercalate as ++ separator ++ separator.intercalate bs := by
  induction as with
  | nil => exact absurd rfl ha
  | cons a as ih =>
    cases as with
    | nil =>
      rw [List.singleton_append, List.intercalate_cons_of_ne_nil hb, List.intercalate_singleton]
    | cons a' as =>
      rw [List.cons_append, List.intercalate_cons_of_ne_nil (by simp), ih (List.cons_ne_nil a' as),
        List.intercalate_cons_cons]
      simp only [List.append_assoc]

/-- Splitting leaves no separator in the parts. -/
theorem not_mem_of_mem_splitOn {c : Char} {name part : List Char} (h : part ∈ name.splitOn c) :
    c ∉ part := by
  induction name generalizing part with
  | nil =>
    rw [List.splitOn_nil, List.mem_singleton] at h
    rw [h]
    exact List.not_mem_nil
  | cons d name ih =>
    obtain ⟨first, parts, hsplit⟩ := List.exists_cons_of_ne_nil (List.splitOn_ne_nil c name)
    rw [List.splitOn_cons_eq_if_modifyHead, hsplit] at h
    rw [hsplit] at ih
    by_cases hd : d = c
    · rw [if_pos (by simpa using hd)] at h
      rcases List.mem_cons.mp h with rfl | hrest
      · exact List.not_mem_nil
      · exact ih hrest
    · rw [if_neg (by simpa using hd), List.modifyHead_cons] at h
      rcases List.mem_cons.mp h with rfl | hrest
      · rw [List.mem_cons, not_or]
        exact ⟨fun hc => hd hc.symm, ih List.mem_cons_self⟩
      · exact ih (List.mem_cons_of_mem first hrest)

namespace Quotes

variable {q : Quotes}

/-! ## Quoting piece by piece -/

/-- Names with a dot between them are quoted each by itself. -/
theorem quote_append_dot (q : Quotes) (name name' : List Char) :
    q.quote (name ++ '.' :: name') = q.quote name ++ '.' :: q.quote name' := by
  have hne : ∀ n : List Char, (n.splitOn '.').map q.quotePart ≠ [] :=
    fun n h => List.splitOn_ne_nil '.' n (List.map_eq_nil_iff.mp h)
  rw [quote, List.splitOn_append_cons_self, List.map_append,
    intercalate_append ['.'] (hne name) (hne name'), List.append_assoc]
  rfl

/-- So are any number of them. -/
theorem quote_intercalate (q : Quotes) : ∀ {names : List (List Char)}, names ≠ [] →
    q.quote (['.'].intercalate names) = ['.'].intercalate (names.map q.quote)
  | [name], _ => by
    rw [List.map_singleton, List.intercalate_singleton, List.intercalate_singleton]
  | name :: next :: names, _ => by
    have ih := q.quote_intercalate (List.cons_ne_nil next names)
    rw [List.map_cons, List.map_cons, List.intercalate_cons_cons, List.intercalate_cons_cons,
      List.append_assoc, List.append_assoc, List.singleton_append, List.singleton_append,
      quote_append_dot, ih, List.map_cons]

/-! ## Parts of a quoted name -/

/-- Quotes that are no dots put none into a part. -/
theorem dot_not_mem_quotePart (ho : q.opening ≠ '.') (hc : q.closing ≠ '.') {part : List Char}
    (h : '.' ∉ part) : '.' ∉ q.quotePart part := by
  have hchar : ∀ c ∈ part, '.' ∉ q.quoteChar c := by
    intro c hmem hdot
    unfold quoteChar at hdot
    obtain rfl : '.' = c := by split at hdot <;> simpa using hdot
    exact h hmem
  unfold quotePart
  split
  · exact h
  · simp only [enclose, List.mem_cons, List.mem_append, List.mem_flatMap, not_or,
      not_exists, not_and]
    exact ⟨ho.symm, hchar, hc.symm, List.not_mem_nil⟩

/-- Split at its dots, a quoted name falls into the quoted parts of the name. -/
theorem splitOn_quote (ho : q.opening ≠ '.') (hc : q.closing ≠ '.') (name : List Char) :
    (q.quote name).splitOn '.' = (name.splitOn '.').map q.quotePart := by
  refine List.splitOn_intercalate '.' ?_ ?_
  · intro written hwritten
    obtain ⟨part, hpart, rfl⟩ := List.mem_map.mp hwritten
    exact dot_not_mem_quotePart ho hc (not_mem_of_mem_splitOn hpart)
  · exact fun h => List.splitOn_ne_nil '.' name (List.map_eq_nil_iff.mp h)

end Quotes

/-- **Quoting goes piece by piece.** A name that is put together with dots is quoted at once as it is
quoted in pieces, whatever the pieces are, two of them or any number. The quoted name has one part
more than the name has dots: split at its dots it falls into the parts of the name, each of them
quoted, and a reader of quoted names finds just as many. -/
theorem Dialect.quote_qualified (dl : Dialect) :
    (∀ name name' : List Char,
      dl.quotes.quote (name ++ '.' :: name') = dl.quotes.quote name ++ '.' :: dl.quotes.quote name') ∧
    (∀ names : List (List Char), names ≠ [] →
      dl.quotes.quote (['.'].intercalate names) = ['.'].intercalate (names.map dl.quotes.quote)) ∧
    ∀ name : List Char,
      (dl.quotes.quote name).splitOn '.' = (name.splitOn '.').map dl.quotes.quotePart ∧
      ((dl.quotes.quote name).splitOn '.').length = name.count '.' + 1 ∧
      ∃ parts, dl.quotes.readName (dl.quotes.quote name) = some (parts, []) ∧
        parts.length = name.count '.' + 1 := by
  have hsplit : ∀ name : List Char,
      (dl.quotes.quote name).splitOn '.' = (name.splitOn '.').map dl.quotes.quotePart :=
    Quotes.splitOn_quote (by cases dl <;> decide) (by cases dl <;> decide)
  refine ⟨dl.quotes.quote_append_dot, fun names => dl.quotes.quote_intercalate, ?_⟩
  intro name
  have hread := dl.readName_quote_of_endsName name .nil
  rw [List.append_nil] at hread
  refine ⟨hsplit name, ?_, _, hread, length_splitOn_dot name⟩
  rw [hsplit, List.length_map, length_splitOn_dot]

/-- Pieces that are a closing character, empty, a dot and a bare star. -/
theorem Dialect.quote_qualified_brackets :
    let names := ["]", "", ".", "*"].map String.toList
    names ≠ [] ∧
    ['.'].intercalate names = "]....*".toList ∧
    Dialect.msSql.quotes.quote "]....*".toList
      = ['.'].intercalate (names.map Dialect.msSql.quotes.quote) ∧
    Dialect.msSql.quotes.quote "]....*".toList = "[]]].[].[].[].*".toList := by
  intro names
  have hne : names ≠ [] := by decide
  exact ⟨hne, rfl, (Dialect.quote_qualified .msSql).2.1 names hne, by decide⟩

end SqlSelect
