import SqlSelect.Proofs.Ordering
import SqlSelect.Proofs.Rounding
import SqlSelect.Query.Basic

/-!
# How many rows a number stands for

Whatever number is given, the count is its distance from the nearest multiple of `2 ^ 32`. For an
integer it does not matter which type its word has (`Quantity.count_word`). For a floating-point
number it is the distance of its whole part, however great: each step on the way is exact
(`Quantity.count_number`).
-/

namespace SqlSelect

open Select (countText)

/-! ## Words -/

/-- The integer that a word stands for. -/
def IntegerType.value (t : IntegerType) (w : BitVec t.width) : ℤ :=
  if t.signed then w.toInt else w.toNat

theorem IntegerType.toInt_toInt32 (t : IntegerType) (w : BitVec t.width) :
    (t.toInt32 w).toInt = (t.value w).bmod (2 ^ 32) := by
  rw [toInt32, value]
  split
  · exact BitVec.toInt_ofInt _
  · exact BitVec.toInt_setWidth w

namespace Quantity

theorem toNat_magnitude (n : Int32) : (magnitude n).toNat = n.toInt.natAbs := by
  have hn : n.toInt = n.toBitVec.toInt := rfl
  have habs : (magnitude n).toNat = n.toBitVec.abs.toNat := rfl
  rw [hn, habs, BitVec.toNat_abs, BitVec.toInt_eq_msb_cond]
  have hlt := n.toBitVec.isLt
  split <;> omega

/-- The distance from the nearest multiple is the shorter of the ways down and up. -/
theorem natAbs_bmod (n : ℤ) :
    ((n.bmod (2 ^ 32)).natAbs : ℤ) = min (n % 2 ^ 32) (2 ^ 32 - n % 2 ^ 32) := by
  rw [Int.bmod_def]
  omega

/-- A word and an integer that it stands for up to multiples of `2 ^ 32`. -/
theorem toNat_magnitude_of_bmod {i : Int32} {n : ℤ} (h : i.toInt = n.bmod (2 ^ 32)) :
    ((magnitude i).toNat : ℤ) = min (n % 2 ^ 32) (2 ^ 32 - n % 2 ^ 32) := by
  rw [toNat_magnitude, h, natAbs_bmod]

theorem toNat_count_word (t : IntegerType) (w : BitVec t.width) :
    ((word t w).count.toNat : ℤ)
      = min (t.value w % 2 ^ 32) (2 ^ 32 - t.value w % 2 ^ 32) :=
  toNat_magnitude_of_bmod (t.toInt_toInt32 w)

/-- Words that stand for the same number, or for opposite ones, up to multiples of `2 ^ 32`. -/
theorem count_word_congr {t t' : IntegerType} {w : BitVec t.width} {w' : BitVec t'.width} {k : ℤ}
    (h : t'.value w' = t.value w + k * 2 ^ 32 ∨ t'.value w' = -t.value w + k * 2 ^ 32) :
    (word t' w').count = (word t w).count := by
  have hw := toNat_count_word t w
  have hw' := toNat_count_word t' w'
  rw [← UInt32.toNat_inj]
  omega

/-- A count is written where the number is no multiple of `2 ^ 32`, in decimal digits. -/
theorem countText_count_word (keyword : String) (t : IntegerType) (w : BitVec t.width) :
    countText keyword (word t w).count =
      if (2 ^ 32 : ℤ) ∣ t.value w then []
      else keyword.toList ++ Nat.toDigits 10 (word t w).count.toNat := by
  have hw := toNat_count_word t w
  rw [countText]
  by_cases h : (2 ^ 32 : ℤ) ∣ t.value w
  · rw [if_pos h, if_neg (by omega)]
  · rw [if_neg h, if_pos (by omega)]

end Quantity

/-! ## Where a count is written -/

/-- **With other counts a query compiles as before,** and only what is written of them is another. -/
theorem Query.exists_run_compile_withCounts (q : Query) (d : Draws) :
    ∃ (before : Except Error Fragment) (e : Draws), ∀ limit offset : UInt32,
      ({ q with limit, offset } : Query).compile.run d =
        (before.map fun f =>
          ⟨f.text ++ countText " LIMIT " limit ++ countText " OFFSET " offset, f.values⟩, e) := by
  obtain ⟨before, e, hrun⟩ := q.toSelect.exists_run_compile_withEnd q.table d
  refine ⟨before.map fun f => ⟨f.text ++ orderedBy (q.order.map (OrderItem.text q.adapter)), f.values⟩,
    e, fun limit offset => ?_⟩
  have h := hrun q.order limit offset
  rw [Query.compile]
  cases before <;> exact h

namespace Quantity

/-- **An integer stands for its distance from the nearest multiple of `2 ^ 32`,** whichever type its
word has. That is at most `2 ^ 31`, and the magnitude of the number as far as that goes. Words of any
types have the same count if they stand for the same number, for opposite numbers, or for numbers that
are multiples of `2 ^ 32` apart. As a limit or an offset the count is written in decimal digits, and
nothing is written if and only if the number is itself a multiple. -/
theorem count_word (t : IntegerType) (w : BitVec t.width) :
    ((word t w).count.toNat : ℤ) = min (t.value w % 2 ^ 32) (2 ^ 32 - t.value w % 2 ^ 32) ∧
    (∃ k : ℤ, (word t w).count.toNat = (t.value w - k * 2 ^ 32).natAbs) ∧
    (∀ k : ℤ, (word t w).count.toNat ≤ (t.value w - k * 2 ^ 32).natAbs) ∧
    (word t w).count.toNat ≤ 2 ^ 31 ∧
    ((t.value w).natAbs ≤ 2 ^ 31 → (word t w).count.toNat = (t.value w).natAbs) ∧
    (∀ (t' : IntegerType) (w' : BitVec t'.width) (k : ℤ),
      t'.value w' = t.value w + k * 2 ^ 32 ∨ t'.value w' = -t.value w + k * 2 ^ 32 →
        (word t' w').count = (word t w).count) ∧
    ∀ (q : Query) (d : Draws), ∃ (before : Except Error Fragment) (e : Draws),
      ({ q with limit := 0, offset := 0 } : Query).compile.run d = (before, e) ∧
      (q.setLimit (word t w)).compile.run d = (before.map fun f =>
        ⟨f.text ++ (if (2 ^ 32 : ℤ) ∣ t.value w then []
            else " LIMIT ".toList ++ Nat.toDigits 10 (word t w).count.toNat) ++
          countText " OFFSET " q.offset, f.values⟩, e) ∧
      (q.setOffset (word t w)).compile.run d = (before.map fun f =>
        ⟨f.text ++ countText " LIMIT " q.limit ++ (if (2 ^ 32 : ℤ) ∣ t.value w then []
            else " OFFSET ".toList ++ Nat.toDigits 10 (word t w).count.toNat), f.values⟩, e) := by
  have hcount := toNat_count_word t w
  refine ⟨hcount, ?nearest, ?least, ?bound, ?small, fun t' w' k h => count_word_congr h, ?written⟩
  case nearest =>
    -- One of the two multiples around the number.
    rcases le_or_gt (t.value w % 2 ^ 32) (2 ^ 32 - t.value w % 2 ^ 32) with h | h
    · exact ⟨t.value w / 2 ^ 32, by omega⟩
    · exact ⟨t.value w / 2 ^ 32 + 1, by omega⟩
  case least =>
    intro k
    omega
  case bound => omega
  case small =>
    intro h
    omega
  case written =>
    intro q d
    obtain ⟨before, e, hrun⟩ := q.exists_run_compile_withCounts d
    refine ⟨before, e, ?_, ?_, ?_⟩
    · rw [hrun]
      cases before with
      | error x => rfl
      | ok f =>
        show (Except.ok (Fragment.mk (f.text ++ [] ++ []) f.values), e) = _
        rw [List.append_nil, List.append_nil]
    · rw [← countText_count_word]
      exact hrun (word t w).count q.offset
    · rw [← countText_count_word]
      exact hrun q.limit (word t w).count

/-- The least signed word of 32 bits has a count, and so has an unsigned one that is `2 ^ 32` from its
magnitude. -/
theorem count_word_least :
    IntegerType.int32.value 0x80000000#32 = -2 ^ 31 ∧
    IntegerType.uint64.value 0x180000000#64 = 2 ^ 31 + 2 ^ 32 ∧
    (word .int32 0x80000000#32).count.toNat = (IntegerType.int32.value 0x80000000#32).natAbs ∧
    (word .uint64 0x180000000#64).count = (word .int32 0x80000000#32).count :=
  ⟨by decide, by decide, (count_word .int32 _).2.2.2.2.1 (by decide),
    (count_word .int32 _).2.2.2.2.2.1 .uint64 _ 1 (.inr (by decide))⟩

/-! ## Floating-point numbers -/

open BinaryFormat (binary32 binary64)

theorem value?_wordCount : wordCount.value? = some ((2 ^ 32 : Nat) : ℚ) := by
  rw [wordCount, BinaryNumber.value?, BinaryNumber.signed]
  norm_num

/-- The whole part of a number and its remainder are numbers of the format. -/
theorem value?_remEuclid_truncate {x : BinaryNumber} {v : ℚ} (hx : x.value? = some v)
    (h : binary64.Holds v) :
    (binary64.truncate x).value? = some (towardZero v : ℚ) ∧
      (binary64.remEuclid (binary64.truncate x) wordCount).value?
        = some ((towardZero v % 2 ^ 32 : ℤ) : ℚ) := by
  have hwhole := BinaryFormat.value?_truncate hx h (by decide) (by decide)
  exact ⟨hwhole, BinaryFormat.value?_remEuclid hwhole value?_wordCount (by decide) (by decide)
    (by decide) (by decide)⟩

theorem toNat_countNumber {x : BinaryNumber} {v : ℚ} (hx : x.value? = some v)
    (h : binary64.Holds v) :
    ((countNumber x).toNat : ℤ)
      = min (towardZero v % 2 ^ 32) (2 ^ 32 - towardZero v % 2 ^ 32) := by
  obtain ⟨negative, m, q, rfl, -⟩ := BinaryNumber.exists_of_value? hx
  obtain ⟨r, hr⟩ : ∃ r : Nat, (r : ℤ) = towardZero v % 2 ^ 32 :=
    ⟨(towardZero v % 2 ^ 32).toNat, by omega⟩
  have hvalue := (value?_remEuclid_truncate hx h).2
  rw [← hr, Int.cast_natCast] at hvalue
  have hlt : r < 2 ^ 32 := by omega
  rw [countNumber, BinaryNumber.toUInt32_eq hvalue hlt]
  refine toNat_magnitude_of_bmod ?_
  show (BitVec.ofNat 32 r).toInt = _
  rw [BitVec.toInt_eq_toNat_bmod, BitVec.toNat_ofNat, Nat.mod_eq_of_lt hlt, hr]
  exact Int.emod_bmod _ (2 ^ 32)

theorem countNumber_of_value?_eq_none {x : BinaryNumber} (h : x.value? = none) :
    countNumber x = 0 := by
  cases x with
  | finite => cases h
  | infinite | notANumber => rfl

/-- A number of 32 bits is a number of 64 bits. -/
theorem holds_binary64 {x : ℚ} (h : binary32.Holds x) : binary64.Holds x := by
  obtain ⟨m, k, hx, hm, hleast, hgreatest⟩ := h
  have hl : binary64.leastExponent ≤ binary32.leastExponent := by decide
  have hg : binary32.greatestExponent ≤ binary64.greatestExponent := by decide
  exact ⟨m, k, hx, hm.trans (by decide), hl.trans hleast, hgreatest.trans hg⟩

theorem holds_of_decode32 {bits : UInt32} {v : ℚ}
    (h : (binary32.decode bits.toNat).value? = some v) : binary64.Holds v :=
  holds_binary64 (BinaryFormat.holds_of_decode (by decide) h)

theorem holds_of_decode64 {bits : UInt64} {v : ℚ}
    (h : (binary64.decode bits.toNat).value? = some v) : binary64.Holds v :=
  BinaryFormat.holds_of_decode (by decide) h

/-- Every number of 32 bits has a pattern of 64 bits. -/
theorem exists_wide (bits : UInt32) :
    ∃ wide : UInt64, (binary64.decode wide.toNat).value? = (binary32.decode bits.toNat).value? := by
  cases h : (binary32.decode bits.toNat).value? with
  | none => exact ⟨0x7ff0000000000000, rfl⟩
  | some v =>
    obtain ⟨wide, hlt, hwide⟩ := BinaryFormat.exists_decode (holds_of_decode32 h) (by decide)
    refine ⟨.ofNat wide, ?_⟩
    rw [UInt64.toNat_ofNat_of_lt' hlt, hwide]

/-- **A floating-point number stands for what its whole part stands for.** Each pattern of 64 bits that
is no finite number counts as zero. For every other one the whole part, however great, decides as it
would if it were an integer: the count is its distance from the nearest multiple of `2 ^ 32`, and that
of each word that stands for it. The whole part and its remainder are exact on the way. A pattern of
32 bits has the count of the patterns of 64 bits with its value, and there always is one. -/
theorem count_number :
    (∀ bits : UInt64, (binary64.decode bits.toNat).value? = none → (float64 bits).count = 0) ∧
    (∀ (bits : UInt64) (x : ℚ), (binary64.decode bits.toNat).value? = some x →
      ((float64 bits).count.toNat : ℤ)
        = min (towardZero x % 2 ^ 32) (2 ^ 32 - towardZero x % 2 ^ 32) ∧
      (∀ (t : IntegerType) (w : BitVec t.width), t.value w = towardZero x →
        (word t w).count = (float64 bits).count) ∧
      (binary64.truncate (binary64.decode bits.toNat)).value? = some (towardZero x : ℚ) ∧
      (binary64.remEuclid (binary64.truncate (binary64.decode bits.toNat)) wordCount).value?
        = some ((towardZero x % 2 ^ 32 : ℤ) : ℚ)) ∧
    ∀ bits : UInt32,
      (∃ wide : UInt64,
        (binary64.decode wide.toNat).value? = (binary32.decode bits.toNat).value?) ∧
      ∀ wide : UInt64, (binary64.decode wide.toNat).value? = (binary32.decode bits.toNat).value? →
        (float32 bits).count = (float64 wide).count := by
  refine ⟨fun bits h => countNumber_of_value?_eq_none h, ?finite, fun bits => ⟨exists_wide bits, ?_⟩⟩
  case finite =>
    intro bits x hx
    have hholds := holds_of_decode64 hx
    have hcount := toNat_countNumber hx hholds
    refine ⟨hcount, ?_, value?_remEuclid_truncate hx hholds⟩
    intro t w hw
    have hword := toNat_count_word t w
    rw [hw, ← hcount] at hword
    exact UInt32.toNat_inj.mp (by exact_mod_cast hword)
  · intro wide hwide
    have hconvert : (binary64.convert (binary32.decode bits.toNat)).value?
        = (binary32.decode bits.toNat).value? :=
      BinaryFormat.value?_convert fun v hv => holds_of_decode32 hv
    show countNumber _ = countNumber _
    cases hv : (binary64.decode wide.toNat).value? with
    | none =>
      rw [countNumber_of_value?_eq_none hv,
        countNumber_of_value?_eq_none (hconvert.trans (hwide.symm.trans hv))]
    | some v =>
      have hholds := holds_of_decode64 hv
      have h64 := toNat_countNumber hv hholds
      have h32 := toNat_countNumber (hconvert.trans (hwide.symm.trans hv)) hholds
      rw [← h64] at h32
      exact UInt32.toNat_inj.mp (by exact_mod_cast h32)

/-- A number below zero with a fraction whose remainder wraps around, one of 32 bits with the pattern
of 64 bits that has its value, and one that is not finite. -/
theorem count_number_wrapped :
    (binary64.decode (0xc1f0000000180000 : UInt64).toNat).value? = some (-8589934595 / 2) ∧
    towardZero (-8589934595 / 2) = -4294967297 ∧
    ((float64 0xc1f0000000180000).count.toNat : ℤ)
      = min (-4294967297 % 2 ^ 32) (2 ^ 32 - -4294967297 % 2 ^ 32) ∧
    (float64 0xc1f0000000180000).count = 1 ∧
    (binary64.decode (0xc0179999a0000000 : UInt64).toNat).value?
      = (binary32.decode (0xc0bccccd : UInt32).toNat).value? ∧
    (float32 0xc0bccccd).count = (float64 0xc0179999a0000000).count ∧
    (float64 0x7ff0000000000000).count = 0 := by
  have hvalue : (binary64.decode (0xc1f0000000180000 : UInt64).toNat).value?
      = some (-8589934595 / 2) := by
    have hdecode : binary64.decode (0xc1f0000000180000 : UInt64).toNat
      = .finite true 4503599628943360 (-20) := by decide
    rw [hdecode, BinaryNumber.value?, BinaryNumber.signed]
    norm_num
  have hwhole : towardZero (-8589934595 / 2) = -4294967297 := by
    norm_num [towardZero]
  have hnarrow : (binary64.decode (0xc0179999a0000000 : UInt64).toNat).value?
      = (binary32.decode (0xc0bccccd : UInt32).toNat).value? := by
    have hwide : binary64.decode (0xc0179999a0000000 : UInt64).toNat
      = .finite true 6642809557745664 (-50) := by decide
    have hdecode : binary32.decode (0xc0bccccd : UInt32).toNat
      = .finite true 12373197 (-21) := by decide
    simp only [hwide, hdecode, BinaryNumber.value?, BinaryNumber.signed]
    norm_num
  have hcount := (count_number.2.1 _ _ hvalue).1
  rw [hwhole] at hcount
  exact ⟨hvalue, hwhole, hcount, by decide, hnarrow, (count_number.2.2 _).2 _ hnarrow,
    count_number.1 _ rfl⟩

end Quantity

end SqlSelect
