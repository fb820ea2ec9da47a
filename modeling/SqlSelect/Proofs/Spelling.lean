import SqlSelect.Drawing

/-!
# When a sequence repeats a name

A sequence spells a name as a prefix and a number, with nothing between them. Its numbers are all
different, but a prefix may end in digits, and then it is open where the number begins: the first
name, asked for with `t1`, and the eleventh, asked for with `t`, are both `t11`.

There is no other way (`spell_eq_spell_iff`): a later name is an earlier one if and only if the
earlier prefix is the later one and some digits more, and the later number begins with just these
digits and ends in the earlier number. So the names of a sequence are all different as long as no
prefix is another one with digits behind it (`sequence_names_nodup_iff`).
-/

namespace SqlSelect

/-! ## Decimal digits -/

/-- A number is not less than the number it ends in. -/
theorem le_of_toDigits_eq_append {m n : Nat} {w : List Char}
    (h : Nat.toDigits 10 n = w ++ Nat.toDigits 10 m) : m ≤ n := by
  have hn : n = 10 ^ (Nat.toDigits 10 m).length * Nat.ofDigitChars 10 w 0 + m := by
    calc
      n = Nat.ofDigitChars 10 (Nat.toDigits 10 n) 0 := Nat.ofDigitChars_ten_toDigits.symm
      _ = Nat.ofDigitChars 10 (Nat.toDigits 10 m) (Nat.ofDigitChars 10 w 0) := by
        rw [h, Nat.ofDigitChars_append]
      _ = _ := by
        rw [Nat.ofDigitChars_eq_ofDigitChars_zero, Nat.ofDigitChars_ten_toDigits]
  rw [hn]
  exact Nat.le_add_left _ _

/-! ## Two names -/

/-- What the earlier prefix has more than the later one is what the later number has more than the
earlier one. Each request is given by its prefix and its number. -/
def Clash (earlier later : String × Nat) : Prop :=
  ∃ w : List Char, earlier.1.toList = later.1.toList ++ w ∧
    Nat.toDigits 10 later.2 = w ++ Nat.toDigits 10 earlier.2

theorem toList_spell_sequence (name start : String) (n : Nat) :
    ((AliasSource.sequence name).spell start n).toList = start.toList ++ Nat.toDigits 10 n := by
  rw [AliasSource.spell, String.toList_append, Nat.toString_eq_repr, Nat.toList_repr]

/-- A later name is an earlier one if and only if the two requests clash. -/
theorem spell_eq_spell_iff (name : String) {p q : String} {m n : Nat} (h : m < n) :
    (AliasSource.sequence name).spell p m = (AliasSource.sequence name).spell q n ↔
      Clash (p, m) (q, n) := by
  rw [← String.toList_inj, toList_spell_sequence, toList_spell_sequence,
    List.append_eq_append_iff]
  constructor
  · rintro (⟨w, -, hdigits⟩ | hclash)
    · have hle : n ≤ m := le_of_toDigits_eq_append hdigits
      omega
    · exact hclash
  · exact Or.inr

/-- Requests clash only if the earlier prefix is the later one with digits behind it. -/
theorem Clash.digits {p q : String} {m n : Nat} (h : m < n) (hc : Clash (p, m) (q, n)) :
    ∃ w : List Char, w ≠ [] ∧ (∀ c ∈ w, c.isDigit = true) ∧ p.toList = q.toList ++ w := by
  obtain ⟨w, hprefix, hdigits⟩ := hc
  refine ⟨w, ?_, ?_, hprefix⟩
  · rintro rfl
    have hle : n ≤ m := le_of_toDigits_eq_append (w := []) hdigits.symm
    omega
  · intro c hc
    have hmem : c ∈ Nat.toDigits 10 n := by
      rw [hdigits]
      exact List.mem_append_left _ hc
    exact Nat.isDigit_of_mem_toDigits (by decide) (by decide) hmem

/-! ## All names of a sequence -/

/-- Requests to one source, one after another, are answered by the numbers that come next. -/
theorem Drawing.run_mapM_draw (source : AliasSource) (starts : List String) (d : Draws) :
    ∃ e, (starts.mapM source.draw).run d =
      (.ok ((starts.zipIdx (d.count source.name + 1)).map fun x => source.spell x.1 x.2), e) := by
  induction starts generalizing d with
  | nil => exact ⟨d, rfl⟩
  | cons start starts ih =>
    obtain ⟨e, he⟩ := ih (d.add ⟨source.name, start⟩)
    have hcount : (d.add ⟨source.name, start⟩).count source.name = d.count source.name + 1 := by
      rw [Draws.count_add, if_pos rfl]
    rw [hcount] at he
    refine ⟨e, ?_⟩
    rw [List.mapM_cons, run_bind, run_draw]
    dsimp only
    rw [run_bind, he]
    rfl

/-- A later request has a greater number. -/
theorem pairwise_number_lt (starts : List String) (first : Nat) :
    (starts.zipIdx first).Pairwise fun earlier later => earlier.2 < later.2 := by
  rw [List.pairwise_iff_getElem]
  intro i j hi hj hij
  rw [List.getElem_zipIdx, List.getElem_zipIdx]
  omega

theorem nodup_spelled_iff (name : String) (starts : List String) (first : Nat) :
    ((starts.zipIdx first).map fun x => (AliasSource.sequence name).spell x.1 x.2).Nodup ↔
      (starts.zipIdx first).Pairwise fun earlier later => ¬ Clash earlier later := by
  have hlt := pairwise_number_lt starts first
  rw [List.Nodup, List.pairwise_map]
  constructor
  · intro h
    exact (hlt.and h).imp fun hxy hc => hxy.2 ((spell_eq_spell_iff name hxy.1).mpr hc)
  · intro h
    exact (hlt.and h).imp fun hxy heq => hxy.2 ((spell_eq_spell_iff name hxy.1).mp heq)

/-- Without a prefix that is another one with digits behind it there is no clash. -/
theorem pairwise_not_clash {starts : List String} (first : Nat)
    (h : ∀ p ∈ starts, ∀ q ∈ starts, ∀ w : List Char, w ≠ [] → (∀ c ∈ w, c.isDigit = true) →
      p.toList ≠ q.toList ++ w) :
    (starts.zipIdx first).Pairwise fun earlier later => ¬ Clash earlier later := by
  refine (pairwise_number_lt starts first).imp_of_mem ?_
  intro earlier later hearlier hlater hlt hc
  obtain ⟨w, hne, hdigits, hw⟩ := hc.digits hlt
  exact h _ (List.fst_mem_of_mem_zipIdx hearlier) _ (List.fst_mem_of_mem_zipIdx hlater) w hne
    hdigits hw

/-- **When all names of a sequence are different.** Whatever the prefixes: the requests to a sequence
are all answered, and the names are different if and only if no later request clashes with an
earlier one. That is so if no prefix is another one with digits behind it. -/
theorem AliasSource.sequence_names_nodup_iff (name : String) (starts : List String) (d : Draws) :
    ∃ names e, (starts.mapM (AliasSource.sequence name).draw).run d = (.ok names, e) ∧
      names.length = starts.length ∧
      (names.Nodup ↔ (starts.zipIdx (d.count name + 1)).Pairwise fun earlier later =>
        ¬ Clash earlier later) ∧
      ((∀ p ∈ starts, ∀ q ∈ starts, ∀ w : List Char, w ≠ [] → (∀ c ∈ w, c.isDigit = true) →
        p.toList ≠ q.toList ++ w) → names.Nodup) := by
  obtain ⟨e, he⟩ := Drawing.run_mapM_draw (.sequence name) starts d
  have hiff := nodup_spelled_iff name starts (d.count name + 1)
  refine ⟨_, e, he, ?_, hiff, ?_⟩
  · rw [List.length_map, List.length_zipIdx]
  · intro h
    exact hiff.mpr (pairwise_not_clash _ h)

/-- Two prefixes, neither of which ends in a digit. -/
theorem AliasSource.sequence_names_nodup_three : ∃ names e,
    (["t_", "sub", "t_"].mapM (AliasSource.sequence "s").draw).run ∅ = (.ok names, e) ∧
      names.Nodup := by
  obtain ⟨names, e, hrun, -, -, hnodup⟩ :=
    AliasSource.sequence_names_nodup_iff "s" ["t_", "sub", "t_"] ∅
  refine ⟨names, e, hrun, hnodup ?_⟩
  intro p hp q _ w hne hdigits hw
  -- The last character of `w` would be that of the prefix.
  have hlast : p.toList.getLast? = some (w.getLast hne) := by
    rw [hw, List.getLast?_append, List.getLast?_eq_some_getLast hne, Option.some_or]
  have hdigit : (w.getLast hne).isDigit = true := hdigits _ (List.getLast_mem hne)
  have hall : ∀ p ∈ ["t_", "sub", "t_"], (p.toList.getLast?.map Char.isDigit) = some false := by
    decide
  have hfalse := hall p hp
  rw [hlast, Option.map_some, hdigit] at hfalse
  cases hfalse

/-- One name given out twice: to the first request, with the prefix `t1`, and to the eleventh, with
the prefix `t`. -/
theorem AliasSource.sequence_repeats_name : ∃ names e,
    (("t1" :: List.replicate 10 "t").mapM (AliasSource.sequence "s").draw).run ∅ = (.ok names, e) ∧
      names[0]? = some "t11" ∧ names[10]? = some "t11" ∧ ¬ names.Nodup := by
  refine ⟨["t11", "t2", "t3", "t4", "t5", "t6", "t7", "t8", "t9", "t10", "t11"], _, rfl, rfl, rfl, ?_⟩
  decide

end SqlSelect
