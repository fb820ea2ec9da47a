import SqlSelect.Proofs.Parentheses

/-!
# Reading predicates back

The predicates of a query are written one behind the other, each between parentheses of its own, with
` AND ` between them. The predicates may hold such words and parentheses themselves, so where one ends
and the next begins cannot be told by looking for words. It can be told by counting: a reader that
keeps the number of parentheses that are open finds the one that closes a predicate
(`readInside_eq_some_iff`), if parentheses are paired in it. It goes on where ` AND (` follows.

So the texts of the predicates can be read off what is written of them
(`Select.predicates_read_back`): no two lists of predicates are written alike, and none is taken for
two, or two for one.
-/

namespace SqlSelect

/-! ## Predicates as they are written -/

/-- Predicates, each in parentheses of its own; nothing if there are none. -/
def conjunction (predicates : List Fragment) : Fragment :=
  if predicates.isEmpty then ∅ else .sql "(" ++ .join ") AND (" predicates ++ .sql ")"

theorem Select.whereClause_eq_conjunction (s : Select) :
    s.whereClause = if s.predicates.isEmpty then ∅ else .sql " WHERE " ++ conjunction s.predicates := by
  rw [whereClause, conjunction]
  split
  · rfl
  · ext1 <;> simp

theorem Select.drop_whereClause (s : Select) :
    s.whereClause.text.drop " WHERE ".toList.length = (conjunction s.predicates).text := by
  rw [whereClause_eq_conjunction]
  cases s.predicates with
  | nil => rfl
  | cons f fs => exact List.drop_left

theorem conjunction_eq (predicates : List Fragment) :
    conjunction predicates = .join " AND " (predicates.map Fragment.enclose) := by
  cases predicates with
  | nil => rfl
  | cons f fs => rw [conjunction, if_neg (by simp), Fragment.enclose_join]

theorem text_conjunction_singleton (f : Fragment) :
    (conjunction [f]).text = '(' :: (f.text ++ [')']) := by
  rw [conjunction_eq, List.map_singleton, Fragment.join_singleton]
  rfl

theorem text_conjunction_cons_cons (f g : Fragment) (fs : List Fragment) :
    (conjunction (f :: g :: fs)).text
      = '(' :: (f.text ++ ')' :: (" AND ".toList ++ (conjunction (g :: fs)).text)) := by
  rw [conjunction_eq, conjunction_eq, List.map_cons, List.map_cons, Fragment.join_cons_cons]
  simp [Fragment.enclose]

/-- What is written begins with a parenthesis, if anything is. -/
theorem exists_text_conjunction (f : Fragment) : ∀ fs : List Fragment,
    ∃ more, (conjunction (f :: fs)).text = '(' :: more
  | [] => ⟨_, text_conjunction_singleton f⟩
  | g :: fs => ⟨_, text_conjunction_cons_cons f g fs⟩

/-- Only paired predicates can be told apart. -/
example : (conjunction [⟨"a) AND (b".toList, []⟩]).text
    = (conjunction [⟨"a".toList, []⟩, ⟨"b".toList, []⟩]).text := by decide

/-! ## Where a parenthesis is closed -/

/-- Closes `depth` parentheses more than it opens, and no beginning of it closes more than that. -/
def Closes (depth : Nat) (body : List Char) : Prop :=
  (∀ start, start <+: body → start.count ')' ≤ start.count '(' + depth) ∧
    body.count ')' = body.count '(' + depth

theorem closes_zero_iff {body : List Char} : Closes 0 body ↔ Paired body := Iff.rfl

theorem closes_nil_iff {depth : Nat} : Closes depth [] ↔ depth = 0 := by
  constructor
  · rintro ⟨-, h⟩
    simpa using h.symm
  · rintro rfl
    exact closes_zero_iff.mpr (paired_of_not_mem List.not_mem_nil List.not_mem_nil)

/-- One character more, when as much is left to close behind it. -/
theorem closes_cons_iff {c : Char} {depth left : Nat} {body : List Char}
    (h : ∀ text : List Char, ((c :: text).count ')' : Int) - (c :: text).count '(' - depth
      = text.count ')' - text.count '(' - left) :
    Closes depth (c :: body) ↔ Closes left body := by
  have hbody := h body
  constructor
  · rintro ⟨hstart, htotal⟩
    refine ⟨?_, by omega⟩
    intro start hs
    have hle := hstart (c :: start) (List.cons_prefix_cons.mpr ⟨rfl, hs⟩)
    have hc := h start
    omega
  · rintro ⟨hstart, htotal⟩
    refine ⟨?_, by omega⟩
    intro start hs
    rcases List.prefix_cons_iff.mp hs with rfl | ⟨rest, rfl, hrest⟩
    · exact Nat.zero_le _
    · have hle := hstart rest hrest
      have hc := h rest
      omega

theorem closes_open_iff {depth : Nat} {body : List Char} :
    Closes depth ('(' :: body) ↔ Closes (depth + 1) body := by
  refine closes_cons_iff fun text => ?_
  rw [List.count_cons_self, List.count_cons_of_ne (by decide)]
  omega

theorem closes_close_iff {depth : Nat} {body : List Char} :
    Closes (depth + 1) (')' :: body) ↔ Closes depth body := by
  refine closes_cons_iff fun text => ?_
  rw [List.count_cons_self, List.count_cons_of_ne (by decide)]
  omega

theorem not_closes_zero_close (body : List Char) : ¬ Closes 0 (')' :: body) := by
  intro h
  have hle := h.1 [')'] (List.cons_prefix_cons.mpr ⟨rfl, List.nil_prefix⟩)
  simp at hle

theorem closes_other_iff {c : Char} (ho : c ≠ '(') (hc : c ≠ ')') {depth : Nat}
    {body : List Char} : Closes depth (c :: body) ↔ Closes depth body := by
  refine closes_cons_iff fun text => ?_
  rw [List.count_cons_of_ne hc, List.count_cons_of_ne ho]

/-- Reads up to the parenthesis that closes the text, with `depth` more open before it: what is before
that parenthesis, and what is behind it. -/
def readInside : Nat → List Char → Option (List Char × List Char)
  | _, [] => none
  | depth, c :: text =>
    if c = '(' then (readInside (depth + 1) text).map fun (body, rest) => (c :: body, rest)
    else if c = ')' then
      match depth with
      | 0 => some ([], text)
      | depth + 1 => (readInside depth text).map fun (body, rest) => (c :: body, rest)
    else (readInside depth text).map fun (body, rest) => (c :: body, rest)

/-- What is read with one character more in front. -/
theorem map_cons_eq_some_iff {c : Char} {x : Option (List Char × List Char)}
    {body rest : List Char} :
    x.map (fun (body, rest) => (c :: body, rest)) = some (body, rest) ↔
      ∃ tail, body = c :: tail ∧ x = some (tail, rest) := by
  rw [Option.map_eq_some_iff]
  constructor
  · rintro ⟨⟨tail, r⟩, hx, heq⟩
    cases heq
    exact ⟨tail, rfl, hx⟩
  · rintro ⟨tail, rfl, hx⟩
    exact ⟨(tail, rest), hx, rfl⟩

/-- A character that does not close the text is the first of what is before the closing parenthesis. -/
theorem cons_closes_iff {c : Char} {depth left : Nat} {text body rest : List Char}
    (hclose : c = ')' → depth ≠ 0) (h : ∀ tail, Closes depth (c :: tail) ↔ Closes left tail) :
    c :: text = body ++ ')' :: rest ∧ Closes depth body ↔
      ∃ tail, body = c :: tail ∧ text = tail ++ ')' :: rest ∧ Closes left tail := by
  constructor
  · rintro ⟨htext, hbody⟩
    cases body with
    | nil =>
      obtain ⟨rfl, -⟩ := List.cons.inj htext
      exact absurd (closes_nil_iff.mp hbody) (hclose rfl)
    | cons c' tail =>
      obtain ⟨rfl, htail⟩ := List.cons.inj htext
      exact ⟨tail, rfl, htail, (h tail).mp hbody⟩
  · rintro ⟨tail, rfl, rfl, htail⟩
    exact ⟨rfl, (h tail).mpr htail⟩

/-- **The reader stops at the parenthesis that closes the text,** and there is only one. -/
theorem readInside_eq_some_iff {depth : Nat} {text body rest : List Char} :
    readInside depth text = some (body, rest) ↔ text = body ++ ')' :: rest ∧ Closes depth body := by
  fun_induction readInside depth text generalizing body rest with
  | case1 depth => simp
  | case2 depth text ih =>
    rw [map_cons_eq_some_iff, cons_closes_iff (fun h => absurd h (by decide)) fun _ => closes_open_iff]
    simp only [ih]
  | case3 text =>
    constructor
    · rintro ⟨⟩
      exact ⟨rfl, closes_nil_iff.mpr rfl⟩
    · rintro ⟨htext, hbody⟩
      cases body with
      | nil =>
        cases htext
        rfl
      | cons c tail =>
        obtain ⟨rfl, -⟩ := List.cons.inj htext
        exact absurd hbody (not_closes_zero_close tail)
  | case4 text depth _ ih =>
    rw [map_cons_eq_some_iff, cons_closes_iff (fun _ => Nat.succ_ne_zero _) fun _ => closes_close_iff]
    simp only [ih]
  | case5 depth c text ho hc ih =>
    rw [map_cons_eq_some_iff, cons_closes_iff (fun h => absurd h hc) fun _ => closes_other_iff ho hc]
    simp only [ih]

theorem length_of_readInside {depth : Nat} {text body rest : List Char}
    (h : readInside depth text = some (body, rest)) : rest.length < text.length := by
  rw [(readInside_eq_some_iff.mp h).1, List.length_append, List.length_cons]
  omega

/-! ## Reading predicates one after another -/

/-- What is written between two predicates in their parentheses. -/
def conjunctionWord : List Char := " AND ".toList

/-- Reads predicates in parentheses: their texts, and what is left. It goes on where the word and one
more parenthesis follow. -/
def readConjunction (text : List Char) : Option (List (List Char) × List Char) :=
  match text with
  | '(' :: text =>
    match h : readInside 0 text with
    | none => none
    | some (body, rest) =>
      if conjunctionWord ++ ['('] <+: rest then
        have : rest.length < text.length := length_of_readInside h
        (readConjunction (rest.drop conjunctionWord.length)).map fun (bodies, rest) =>
          (body :: bodies, rest)
      else some ([body], rest)
  | text => some ([], text)
termination_by text.length

variable {body rest : List Char}

theorem readInside_paired (h : Paired body) (rest : List Char) :
    readInside 0 (body ++ ')' :: rest) = some (body, rest) :=
  readInside_eq_some_iff.mpr ⟨rfl, closes_zero_iff.mpr h⟩

/-- Without a parenthesis there is no predicate. -/
theorem readConjunction_of_ne (h : rest.head? ≠ some '(') : readConjunction rest = some ([], rest) := by
  rw [readConjunction.eq_def]
  split
  · exact absurd rfl h
  · rfl

/-- Behind a predicate the reader goes on, or it stops. -/
theorem readConjunction_paired (h : Paired body) (rest : List Char) :
    readConjunction ('(' :: (body ++ ')' :: rest)) =
      if conjunctionWord ++ ['('] <+: rest then
        (readConjunction (rest.drop conjunctionWord.length)).map fun (bodies, rest) =>
          (body :: bodies, rest)
      else some ([body], rest) := by
  rw [readConjunction]
  split
  · next hnone =>
    rw [readInside_paired h] at hnone
    cases hnone
  · next hread =>
    rw [readInside_paired h] at hread
    cases hread
    rfl

theorem readConjunction_last (h : Paired body) (hrest : ¬ conjunctionWord ++ ['('] <+: rest) :
    readConjunction ('(' :: (body ++ ')' :: rest)) = some ([body], rest) := by
  rw [readConjunction_paired h, if_neg hrest]

theorem readConjunction_next (h : Paired body) (more : List Char) :
    readConjunction ('(' :: (body ++ ')' :: (conjunctionWord ++ '(' :: more)))
      = (readConjunction ('(' :: more)).map fun (bodies, rest) => (body :: bodies, rest) := by
  have hmore : conjunctionWord ++ ['('] <+: conjunctionWord ++ '(' :: more :=
    List.prefix_append_right_inj _ |>.mpr (List.cons_prefix_cons.mpr ⟨rfl, List.nil_prefix⟩)
  rw [readConjunction_paired h, if_pos hmore, List.drop_left]

/-- **Predicates are read back from what is written of them,** up to where no more follows. -/
theorem readConjunction_conjunction (hopen : rest.head? ≠ some '(')
    (hword : ¬ conjunctionWord ++ ['('] <+: rest) :
    ∀ {predicates : List Fragment}, (∀ f ∈ predicates, Paired f.text) →
      readConjunction ((conjunction predicates).text ++ rest)
        = some (predicates.map Fragment.text, rest)
  | [], _ => readConjunction_of_ne hopen
  | [f], h => by
    have hf := h f List.mem_cons_self
    rw [text_conjunction_singleton, List.cons_append, List.append_assoc, List.singleton_append]
    exact readConjunction_last hf hword
  | f :: g :: fs, h => by
    obtain ⟨hf, hrest⟩ := List.forall_mem_cons.mp h
    have ih := readConjunction_conjunction hopen hword hrest
    obtain ⟨more, hmore⟩ := exists_text_conjunction g fs
    rw [hmore, List.cons_append] at ih
    rw [text_conjunction_cons_cons, hmore, List.cons_append, List.append_assoc, List.cons_append,
      List.append_assoc, List.cons_append]
    show readConjunction ('(' :: (f.text ++ ')' :: (conjunctionWord ++ '(' :: (more ++ rest)))) = _
    rw [readConjunction_next hf, ih]
    rfl

/-- **The texts of predicates can be read off what is written of them.** If parentheses are paired in
the predicates of two lists, and what is written of the lists is the same, the texts of the predicates
are the same, one by one, and so they are if the clauses of two selects are the same. A reader finds
them, and stops where no further predicate follows. -/
theorem Select.predicates_read_back :
    (∀ fs gs : List Fragment, (∀ f ∈ fs, SqlSelect.Paired f.text) →
      (∀ g ∈ gs, SqlSelect.Paired g.text) → (conjunction fs).text = (conjunction gs).text →
      fs.map Fragment.text = gs.map Fragment.text) ∧
    (∀ s s' : Select, (∀ f ∈ s.predicates, SqlSelect.Paired f.text) →
      (∀ f ∈ s'.predicates, SqlSelect.Paired f.text) → s.whereClause.text = s'.whereClause.text →
      s.predicates.map Fragment.text = s'.predicates.map Fragment.text) ∧
    ∀ (fs : List Fragment) (rest : List Char), (∀ f ∈ fs, SqlSelect.Paired f.text) →
      rest.head? ≠ some '(' → ¬ conjunctionWord ++ ['('] <+: rest →
      readConjunction ((conjunction fs).text ++ rest) = some (fs.map Fragment.text, rest) := by
  have hread : ∀ fs : List Fragment, (∀ f ∈ fs, SqlSelect.Paired f.text) →
      readConjunction (conjunction fs).text = some (fs.map Fragment.text, []) := by
    intro fs h
    have hword : ¬ conjunctionWord ++ ['('] <+: [] := by decide
    have hall := readConjunction_conjunction (by simp) hword h
    rwa [List.append_nil] at hall
  have hlists : ∀ fs gs : List Fragment, (∀ f ∈ fs, SqlSelect.Paired f.text) →
      (∀ g ∈ gs, SqlSelect.Paired g.text) → (conjunction fs).text = (conjunction gs).text →
      fs.map Fragment.text = gs.map Fragment.text := by
    intro fs gs hfs hgs h
    have heq := hread fs hfs
    rw [h, hread gs hgs] at heq
    exact (Prod.mk.inj (Option.some.inj heq)).1.symm
  refine ⟨hlists, ?_, ?_⟩
  · intro s s' hs hs' h
    refine hlists _ _ hs hs' ?_
    rw [← drop_whereClause, h, drop_whereClause]
  · intro fs rest h hopen hword
    exact readConjunction_conjunction hopen hword h

/-- Words and parentheses inside a predicate, and one that is empty. -/
theorem Select.predicates_read_back_nested :
    ∃ (fs : List Fragment) (text : List Char),
      fs = [⟨"(a) AND (b)".toList, []⟩, ⟨[], []⟩, ⟨"c OR (d)".toList, []⟩] ∧
      (conjunction fs).text = text ∧
      text = "((a) AND (b)) AND () AND (c OR (d))".toList ∧
      readConjunction (text ++ " GROUP BY e".toList)
        = some (["(a) AND (b)".toList, [], "c OR (d)".toList], " GROUP BY e".toList) ∧
      ∀ gs : List Fragment, (∀ g ∈ gs, SqlSelect.Paired g.text) → (conjunction gs).text = text →
        gs.map Fragment.text = ["(a) AND (b)".toList, [], "c OR (d)".toList] := by
  let fs : List Fragment := [⟨"(a) AND (b)".toList, []⟩, ⟨[], []⟩, ⟨"c OR (d)".toList, []⟩]
  have hpaired : ∀ f ∈ fs, SqlSelect.Paired f.text := by decide
  obtain ⟨hlists, -, hread⟩ := predicates_read_back
  refine ⟨fs, _, rfl, rfl, by decide, ?_, ?_⟩
  · exact hread fs " GROUP BY e".toList hpaired (by decide) (by decide)
  · intro gs hgs h
    exact hlists gs fs hgs hpaired h

end SqlSelect
