import Mathlib.Algebra.Order.Field.Power
import Mathlib.Data.Rat.Floor
import Mathlib.Tactic.Linarith
import Mathlib.Tactic.NormNum
import Mathlib.Tactic.Positivity
import Mathlib.Tactic.Ring
import SqlSelect.Number.Arithmetic

/-!
# Rounding that does nothing

A finite number stands for a rational number (`BinaryNumber.value?`). A format has those whose
significand fits and whose step is neither too small nor too great (`BinaryFormat.Holds`). What a
format has is its own rounding (`BinaryFormat.value?_round`), so an operation gives its exact result
whenever the format has that. It does for the whole part of a number, for the remainder of whole
numbers and for every whole number with few enough digits.
-/

namespace SqlSelect

/-! ## Steps -/

theorem inSteps_mul {m : Nat} {q e : Int} (h : e ≤ q) :
    (inSteps m q e : ℚ) * 2 ^ e = m * 2 ^ q := by
  have hq : ((q - e).toNat : Int) = q - e := Int.toNat_of_nonneg (by omega)
  rw [inSteps, Nat.pow_eq, Nat.cast_mul, Nat.cast_pow, Nat.cast_ofNat, ← zpow_natCast, hq, mul_assoc,
    ← zpow_add₀ two_ne_zero, sub_add_cancel]

/-- How many steps a number has is decided by its value. -/
theorem eq_of_mul_zpow_eq {m n : Nat} {e : Int} (h : (m : ℚ) * 2 ^ e = n * 2 ^ e) : m = n := by
  have he : (2 : ℚ) ^ e ≠ 0 := zpow_ne_zero _ two_ne_zero
  exact_mod_cast mul_right_cancel₀ he h

theorem roundedQuotient_mul (n k : Nat) : roundedQuotient (n * 2 ^ k) k = n := by
  have hk : 0 < 2 ^ k := Nat.two_pow_pos k
  simp only [roundedQuotient, Nat.pow_eq, Nat.mul_div_cancel n hk, Nat.mul_mod_left]
  rw [if_pos (by omega)]

/-- No whole number is nearer to a quotient than its rounding. -/
theorem dist_roundedQuotient_le (m k n : Nat) :
    ((m : ℤ) - (roundedQuotient m k * 2 ^ k : Nat)).natAbs ≤ ((m : ℤ) - (n * 2 ^ k : Nat)).natAbs := by
  have hpos : 0 < 2 ^ k := Nat.two_pow_pos k
  have hm := Nat.div_add_mod' m (2 ^ k)
  have hr := Nat.mod_lt m hpos
  rw [roundedQuotient, Nat.pow_eq]
  generalize 2 ^ k = p at *
  generalize m / p = b at *
  generalize m % p = r at *
  have hside : n * p ≤ b * p ∨ (b + 1) * p ≤ n * p :=
    (le_or_gt n b).imp (Nat.mul_le_mul_right p) (Nat.mul_le_mul_right p)
  rw [Nat.add_mul, Nat.one_mul] at hside
  split_ifs
  · omega
  · -- Halfway between two, both are as near.
    rcases Nat.mod_two_eq_zero_or_one b with h | h
    · rw [h, Nat.add_zero]
      omega
    · rw [h, Nat.add_mul, Nat.one_mul]
      omega
  · rw [Nat.add_mul, Nat.one_mul]
    omega

/-! ## The greatest power of two in a number -/

theorem zpow_log2_le {m : Nat} (h : m ≠ 0) (q : Int) : (2 : ℚ) ^ (m.log2 + q) ≤ m * 2 ^ q := by
  rw [zpow_add₀ two_ne_zero, zpow_natCast]
  have hm : ((2 ^ m.log2 : Nat) : ℚ) ≤ m := by exact_mod_cast Nat.log2_self_le h
  rw [Nat.cast_pow, Nat.cast_ofNat] at hm
  exact mul_le_mul_of_nonneg_right hm (by positivity)

theorem lt_zpow_log2 (m : Nat) (q : Int) : (m : ℚ) * 2 ^ q < 2 ^ (m.log2 + 1 + q) := by
  rw [zpow_add₀ two_ne_zero, ← Nat.cast_one, ← Nat.cast_add, zpow_natCast]
  have hm : (m : ℚ) < ((2 ^ (m.log2 + 1) : Nat) : ℚ) := by exact_mod_cast Nat.lt_log2_self
  rw [Nat.cast_pow, Nat.cast_ofNat] at hm
  exact mul_lt_mul_of_pos_right hm (by positivity)

theorem log2_add_eq {m n : Nat} {q e : Int} (h : (m : ℚ) * 2 ^ q = n * 2 ^ e) (hm : m ≠ 0)
    (hn : n ≠ 0) : m.log2 + q = n.log2 + e := by
  have hlt : (2 : ℚ) ^ (m.log2 + q) < 2 ^ (n.log2 + 1 + e) :=
    (zpow_log2_le hm q).trans_lt (h ▸ lt_zpow_log2 n e)
  have hgt : (2 : ℚ) ^ (n.log2 + e) < 2 ^ (m.log2 + 1 + q) :=
    (zpow_log2_le hn e).trans_lt (h ▸ lt_zpow_log2 m q)
  rw [zpow_lt_zpow_iff_right₀ one_lt_two] at hlt hgt
  omega

/-! ## Values -/

namespace BinaryNumber

/-- The rational number that a finite number stands for. -/
def value? : BinaryNumber → Option ℚ
  | .finite negative m q => some (signed negative m * 2 ^ q)
  | .infinite _ | .notANumber => none

theorem exists_of_value? {x : BinaryNumber} {v : ℚ} (h : x.value? = some v) :
    ∃ negative m q, x = .finite negative m q ∧ v = (signed negative m : ℚ) * 2 ^ q := by
  cases x with
  | finite negative m q => exact ⟨negative, m, q, rfl, (Option.some.inj h).symm⟩
  | infinite | notANumber => cases h

theorem cast_signed (negative : Bool) (m : Nat) :
    (signed negative m : ℚ) = signed negative 1 * m := by
  cases negative <;> simp [signed]

theorem abs_signed_mul (negative : Bool) (m : Nat) (q : Int) :
    |(signed negative m : ℚ) * 2 ^ q| = m * 2 ^ q := by
  have hq : (0 : ℚ) ≤ m * 2 ^ q := by positivity
  cases negative <;> simp [signed, abs_of_nonneg hq]

end BinaryNumber

open BinaryNumber

namespace BinaryFormat

variable {f : BinaryFormat}

/-- Whether a format has a number: its significand fits, and so does its step. -/
def Holds (f : BinaryFormat) (x : ℚ) : Prop :=
  ∃ (m : Nat) (k : Int), |x| = m * 2 ^ k ∧ m < 2 ^ (f.fractionBits + 1) ∧
    f.leastExponent ≤ k ∧ k ≤ f.greatestExponent

/-! ## Rounding -/

theorem stepExponent_congr {m n : Nat} {q e : Int} (h : (m : ℚ) * 2 ^ q = n * 2 ^ e) :
    f.stepExponent m q = f.stepExponent n e := by
  have hzero : m = 0 ↔ n = 0 := by
    have hq : (2 : ℚ) ^ q ≠ 0 := zpow_ne_zero _ two_ne_zero
    have he : (2 : ℚ) ^ e ≠ 0 := zpow_ne_zero _ two_ne_zero
    rw [← Nat.cast_eq_zero (R := ℚ), ← mul_eq_zero_iff_right hq, h, mul_eq_zero_iff_right he,
      Nat.cast_eq_zero]
  rw [stepExponent, stepExponent]
  by_cases hm : m = 0
  · rw [if_pos hm, if_pos (hzero.mp hm)]
  · have hn : n ≠ 0 := fun hn => hm (hzero.mpr hn)
    have hlog := log2_add_eq h hm hn
    rw [if_neg hm, if_neg hn]
    omega

/-- A number of the format needs no smaller step than it is written with. -/
theorem stepExponent_le {m : Nat} {k : Int} (hm : m < 2 ^ (f.fractionBits + 1))
    (hk : f.leastExponent ≤ k) : f.stepExponent m k ≤ k := by
  rw [stepExponent]
  split
  · exact hk
  · next hne =>
    have hlog : m.log2 < f.fractionBits + 1 := (Nat.log2_lt hne).mpr hm
    omega

/-- **What a format has is its own rounding.** -/
theorem value?_round {negative : Bool} {m : Nat} {q : Int} (h : f.Holds (m * 2 ^ q)) :
    (f.round negative m q).value? = some ((signed negative m : ℚ) * 2 ^ q) := by
  obtain ⟨a, k, hvalue, ha, hleast, hgreatest⟩ := h
  rw [abs_of_nonneg (by positivity)] at hvalue
  have hstep : f.stepExponent m q = f.stepExponent a k := stepExponent_congr hvalue
  have hle : f.stepExponent m q ≤ k := hstep ▸ stepExponent_le ha hleast
  generalize he : f.stepExponent m q = e at hstep hle
  -- Counted in steps of the format the number is whole, and rounding finds it.
  have hn : (inSteps a k e : ℚ) * 2 ^ e = m * 2 ^ q := (inSteps_mul hle).trans hvalue.symm
  have hround : roundedQuotient (inSteps m q e) (e - q).toNat = inSteps a k e := by
    rcases le_or_gt e q with heq | hqe
    · have hzero : (e - q).toNat = 0 := by omega
      have hsteps : inSteps m q e = inSteps a k e :=
        eq_of_mul_zpow_eq ((inSteps_mul heq).trans hn.symm)
      rw [hsteps, hzero]
      simpa only [pow_zero, mul_one] using roundedQuotient_mul (inSteps a k e) 0
    · have hzero : inSteps m q e = m := by
        have : (q - e).toNat = 0 := by omega
        rw [inSteps, this, Nat.pow_eq, pow_zero, mul_one]
      have hsteps : inSteps (inSteps a k e) e q = m :=
        eq_of_mul_zpow_eq ((inSteps_mul hqe.le).trans hn)
      rw [hzero, ← hsteps]
      exact roundedQuotient_mul _ _
  have hfits : ¬ f.greatestExponent < f.stepExponent (inSteps a k e) e := by
    rw [stepExponent_congr hn, he]
    omega
  rw [round, he, hround, if_neg hfits, value?, cast_signed, cast_signed negative m, mul_assoc, hn,
    mul_assoc]

theorem holds_abs {x : ℚ} : f.Holds |x| ↔ f.Holds x := by
  rw [Holds, Holds, abs_abs]

/-- A format has every whole number with few enough digits. -/
theorem holds_intCast {z : ℤ} (hz : z.natAbs < 2 ^ (f.fractionBits + 1))
    (hleast : f.leastExponent ≤ 0) (hgreatest : 0 ≤ f.greatestExponent) : f.Holds z :=
  ⟨z.natAbs, 0, by rw [zpow_zero, mul_one, Nat.cast_natAbs, Int.cast_abs], hz, hleast, hgreatest⟩

/-- A pattern stands for a number that its format has. -/
theorem holds_of_decode {bits : Nat} {x : ℚ} (hf : 2 ≤ f.exponentBits)
    (h : (f.decode bits).value? = some x) : f.Holds x := by
  have hfraction : f.fraction bits < 2 ^ f.fractionBits := Nat.mod_lt _ (Nat.two_pow_pos _)
  have hfield : f.exponentField bits < 2 ^ f.exponentBits := Nat.mod_lt _ (Nat.two_pow_pos _)
  have hfour : 2 ^ 2 ≤ 2 ^ f.exponentBits := Nat.pow_le_pow_right (by decide) hf
  have hprecision : 2 ^ (f.fractionBits + 1) = 2 ^ f.fractionBits + 2 ^ f.fractionBits := by
    rw [pow_succ, mul_two]
  rw [decode, Nat.pow_eq, Nat.pow_eq] at h
  split_ifs at h with hnone hinfinite hzero
  · cases h
  · cases h
  · cases h
    refine ⟨_, _, abs_signed_mul _ _ _, by omega, le_refl _, ?_⟩
    rw [greatestExponent, Nat.pow_eq]
    omega
  · cases h
    refine ⟨_, _, abs_signed_mul _ _ _, by omega, by omega, ?_⟩
    rw [greatestExponent, Nat.pow_eq]
    omega

end BinaryFormat

/-! ## Whole parts -/

/-- A number without the part after the point. -/
def towardZero (x : ℚ) : ℤ := if x < 0 then ⌈x⌉ else ⌊x⌋

theorem towardZero_neg (x : ℚ) : towardZero (-x) = -towardZero x := by
  rw [towardZero, towardZero, Int.ceil_neg, Int.floor_neg]
  rcases lt_trichotomy x 0 with h | rfl | h
  · rw [if_neg (neg_pos.mpr h).not_gt, if_pos h]
  · simp
  · rw [if_pos (neg_neg_of_pos h), if_neg h.not_gt]

theorem floor_mul_zpow (m : Nat) (q : Int) : ⌊(m : ℚ) * 2 ^ q⌋ = wholePart m q := by
  rw [wholePart, Nat.pow_eq, Nat.pow_eq]
  rcases le_or_gt 0 q with hq | hq
  · have hnat : (2 : ℚ) ^ q = ((2 ^ q.toNat : Nat) : ℚ) := by
      rw [Nat.cast_pow, Nat.cast_ofNat, ← zpow_natCast, Int.toNat_of_nonneg hq]
    have hone : (-q).toNat = 0 := by omega
    rw [hnat, hone, pow_zero, Nat.div_one, ← Nat.cast_mul, Int.floor_natCast]
  · have hnat : (2 : ℚ) ^ q = ((2 ^ (-q).toNat : Nat) : ℚ)⁻¹ := by
      rw [Nat.cast_pow, Nat.cast_ofNat, ← zpow_natCast, Int.toNat_of_nonneg (by omega), zpow_neg,
        inv_inv]
    have hone : q.toNat = 0 := by omega
    rw [hnat, hone, pow_zero, mul_one, ← div_eq_mul_inv, Rat.floor_natCast_div_natCast]
    rfl

theorem towardZero_signed (negative : Bool) (m : Nat) (q : Int) :
    towardZero ((signed negative m : ℚ) * 2 ^ q) = signed negative (wholePart m q) := by
  have hpos : towardZero ((m : ℚ) * 2 ^ q) = wholePart m q := by
    have hnonneg : (0 : ℚ) ≤ m * 2 ^ q := by positivity
    rw [towardZero, if_neg hnonneg.not_gt, floor_mul_zpow]
  cases negative with
  | false => exact hpos
  | true =>
    rw [signed, if_pos rfl, signed, if_pos rfl, Int.cast_neg, Int.cast_natCast, neg_mul,
      towardZero_neg, hpos]

namespace BinaryFormat

variable {f : BinaryFormat}

/-- A format has the whole part of each of its numbers. -/
theorem holds_wholePart {m : Nat} {q : Int} (h : f.Holds (m * 2 ^ q)) (hleast : f.leastExponent ≤ 0)
    (hgreatest : 0 ≤ f.greatestExponent) : f.Holds (wholePart m q) := by
  obtain ⟨a, k, hvalue, ha, hk⟩ := h
  rw [abs_of_nonneg (by positivity)] at hvalue
  have hwhole : wholePart m q = wholePart a k := by
    have hfloor := floor_mul_zpow m q
    rw [hvalue, floor_mul_zpow] at hfloor
    exact_mod_cast hfloor.symm
  rw [hwhole, wholePart, Nat.pow_eq, Nat.pow_eq]
  rcases le_or_gt 0 k with hk0 | hk0
  · -- A number with a step of one or more is whole.
    have hone : (-k).toNat = 0 := by omega
    refine ⟨a, k, ?_, ha, hk⟩
    rw [hone, pow_zero, Nat.div_one, Nat.cast_mul, Nat.cast_pow, Nat.cast_ofNat, ← zpow_natCast,
      Int.toNat_of_nonneg hk0, abs_of_nonneg (by positivity)]
  · have hone : k.toNat = 0 := by omega
    rw [hone, pow_zero, mul_one, ← Int.cast_natCast]
    refine holds_intCast ?_ hleast hgreatest
    exact (Nat.div_le_self _ _).trans_lt ha

theorem value?_truncate {x : BinaryNumber} {v : ℚ} (hx : x.value? = some v) (h : f.Holds v)
    (hleast : f.leastExponent ≤ 0) (hgreatest : 0 ≤ f.greatestExponent) :
    (f.truncate x).value? = some (towardZero v : ℚ) := by
  obtain ⟨negative, m, q, rfl, rfl⟩ := exists_of_value? hx
  have hm : f.Holds (m * 2 ^ q) := by
    rwa [← abs_signed_mul negative, holds_abs]
  have hwhole := holds_wholePart hm hleast hgreatest
  rw [truncate, value?_round (by rwa [zpow_zero, mul_one]), zpow_zero, mul_one, towardZero_signed]

/-! ## Sums and remainders -/

theorem signed_inSteps_mul (negative : Bool) {m : Nat} {q e : Int} (h : e ≤ q) :
    (signed negative (inSteps m q e) : ℚ) * 2 ^ e = signed negative m * 2 ^ q := by
  rw [cast_signed, cast_signed negative m, mul_assoc, inSteps_mul h, mul_assoc]

theorem signed_natAbs (z : ℤ) (negative : Bool) :
    signed (if z = 0 then negative else decide (z < 0)) z.natAbs = z := by
  rcases lt_trichotomy z 0 with h | rfl | h
  · rw [if_neg h.ne, signed, if_pos (by simpa using h)]
    omega
  · cases negative <;> rfl
  · rw [if_neg h.ne', signed, if_neg (by simpa using h.le)]
    omega

/-- **A sum is exact if the format has it.** -/
theorem value?_add {x y : BinaryNumber} {u v : ℚ} (hx : x.value? = some u) (hy : y.value? = some v)
    (h : f.Holds (u + v)) : (f.add x y).value? = some (u + v) := by
  obtain ⟨s, m, q, rfl, rfl⟩ := exists_of_value? hx
  obtain ⟨t, n, r, rfl, rfl⟩ := exists_of_value? hy
  rw [add]
  generalize he : min q r = e
  generalize hsum : signed s (inSteps m q e) + signed t (inSteps n r e) = sum
  have hvalue : (sum : ℚ) * 2 ^ e = signed s m * 2 ^ q + signed t n * 2 ^ r := by
    rw [← hsum, Int.cast_add, add_mul, signed_inSteps_mul s (he ▸ min_le_left q r),
      signed_inSteps_mul t (he ▸ min_le_right q r)]
  have he0 : (0 : ℚ) < 2 ^ e := zpow_pos two_pos e
  have habs : (sum.natAbs : ℚ) * 2 ^ e = |(sum : ℚ) * 2 ^ e| := by
    rw [abs_mul, Nat.cast_natAbs, Int.cast_abs, abs_of_pos he0]
  rw [value?_round (by rwa [habs, holds_abs, hvalue]), signed_natAbs, hvalue]

/-- A remainder is the same counted in steps of any power of two. -/
theorem mod_mul_zpow {a b u v : Nat} {e : Int} (ha : (a : ℚ) * 2 ^ e = u) (hb : (b : ℚ) * 2 ^ e = v) :
    ((a % b : Nat) : ℚ) * 2 ^ e = ((u % v : Nat) : ℚ) := by
  have he : (2 : ℚ) ^ e ≠ 0 := zpow_ne_zero _ two_ne_zero
  have hquotient : a / b = u / v := by
    have hfloor : ⌊(a : ℚ) / b⌋ = ⌊(u : ℚ) / v⌋ := by rw [← ha, ← hb, mul_div_mul_right _ _ he]
    rw [Rat.floor_natCast_div_natCast, Rat.floor_natCast_div_natCast] at hfloor
    exact_mod_cast hfloor
  have hleft : ((a % b : Nat) : ℚ) = a - b * (a / b : Nat) := by
    rw [eq_sub_iff_add_eq]
    exact_mod_cast Nat.mod_add_div a b
  have hright : ((u % v : Nat) : ℚ) = u - v * (u / v : Nat) := by
    rw [eq_sub_iff_add_eq]
    exact_mod_cast Nat.mod_add_div u v
  rw [hleft, hright, hquotient, ← ha, ← hb]
  ring

theorem signed_tmod (negative : Bool) (k n : Nat) :
    (signed negative k).tmod n = signed negative (k % n) := by
  cases negative with
  | false => exact (Int.ofNat_tmod k n).symm
  | true =>
    show (-(k : ℤ)).tmod n = -((k % n : Nat) : ℤ)
    rw [Int.neg_tmod, Int.ofNat_tmod]

/-- **A remainder of whole numbers is exact if the format has it.** -/
theorem value?_remainder {x y : BinaryNumber} {z : ℤ} {n : Nat} (hx : x.value? = some (z : ℚ))
    (hy : y.value? = some (n : ℚ)) (hn : n ≠ 0) (h : f.Holds (z.tmod n)) :
    (f.remainder x y).value? = some (z.tmod n : ℚ) := by
  obtain ⟨s, m, q, rfl, hz⟩ := exists_of_value? hx
  obtain ⟨t, k, r, rfl, hk⟩ := exists_of_value? hy
  have hza : (m : ℚ) * 2 ^ q = z.natAbs := by
    rw [← abs_signed_mul s, ← hz, Nat.cast_natAbs, Int.cast_abs]
  have hna : (k : ℚ) * 2 ^ r = n := by
    rw [← abs_signed_mul t, ← hk, Nat.abs_cast]
  have hk0 : k ≠ 0 := by
    rintro rfl
    rw [Nat.cast_zero, zero_mul] at hna
    exact hn (by exact_mod_cast hna.symm)
  have hsign : z = signed s z.natAbs := by
    have hcast : (z : ℚ) = (signed s z.natAbs : ℤ) := by
      rw [hz, cast_signed, mul_assoc, hza, ← cast_signed]
    exact_mod_cast hcast
  rw [remainder, if_neg hk0]
  generalize he : min q r = e
  have hvalue : ((inSteps m q e % inSteps k r e : Nat) : ℚ) * 2 ^ e = ((z.natAbs % n : Nat) : ℚ) :=
    mod_mul_zpow ((inSteps_mul (he ▸ min_le_left q r)).trans hza)
      ((inSteps_mul (he ▸ min_le_right q r)).trans hna)
  have htmod : z.tmod n = signed s (z.natAbs % n) := by
    rw [← signed_tmod, ← hsign]
  have hholds : f.Holds ((z.natAbs % n : Nat) : ℚ) := by
    have habs := abs_signed_mul s (z.natAbs % n) 0
    rw [zpow_zero, mul_one, mul_one] at habs
    rwa [← habs, ← htmod, holds_abs]
  rw [value?_round (by rwa [hvalue]), cast_signed, mul_assoc, hvalue, ← cast_signed, ← htmod]

end BinaryFormat

namespace BinaryNumber

theorem isBelowZero_iff {x : BinaryNumber} {v : ℚ} (h : x.value? = some v) :
    x.isBelowZero = true ↔ v < 0 := by
  obtain ⟨negative, m, q, rfl, rfl⟩ := exists_of_value? h
  have hq : (0 : ℚ) < 2 ^ q := zpow_pos two_pos q
  rw [← zero_mul ((2 : ℚ) ^ q), mul_lt_mul_iff_of_pos_right hq, Int.cast_lt_zero, isBelowZero, signed]
  cases negative <;> simp [Nat.pos_iff_ne_zero]

theorem value?_abs {x : BinaryNumber} {v : ℚ} (h : x.value? = some v) : x.abs.value? = some |v| := by
  obtain ⟨negative, m, q, rfl, rfl⟩ := exists_of_value? h
  rw [abs_signed_mul]
  rfl

/-- A whole number that is a word of 32 bits is taken as that word. -/
theorem toUInt32_eq {x : BinaryNumber} {n : Nat} (h : x.value? = some (n : ℚ)) (hn : n < 2 ^ 32) :
    x.toUInt32 = .ofNat n := by
  obtain ⟨negative, m, q, rfl, hv⟩ := exists_of_value? h
  have hwhole : (n : ℤ) = signed negative (wholePart m q) := by
    rw [← towardZero_signed, ← hv, towardZero, if_neg (Nat.cast_nonneg n).not_gt, Int.floor_natCast]
  rw [toUInt32]
  cases negative with
  | true =>
    have hzero : n = 0 := by
      rw [signed, if_pos rfl] at hwhole
      omega
    rw [hzero]
    rfl
  | false =>
    have hn' : wholePart m q = n := by
      rw [signed, if_neg Bool.false_ne_true] at hwhole
      omega
    have hle : n ≤ UInt32.size - 1 := Nat.le_pred_of_lt hn
    rw [if_neg Bool.false_ne_true, hn', Nat.min_eq_left hle]

end BinaryNumber

namespace BinaryFormat

variable {f : BinaryFormat}

/-- **The remainder that is not below zero is exact** for a whole number and a modulus that fits. -/
theorem value?_remEuclid {x y : BinaryNumber} {z : ℤ} {n : Nat} (hx : x.value? = some (z : ℚ))
    (hy : y.value? = some (n : ℚ)) (hn : n ≠ 0) (hfits : n < 2 ^ (f.fractionBits + 1))
    (hleast : f.leastExponent ≤ 0) (hgreatest : 0 ≤ f.greatestExponent) :
    (f.remEuclid x y).value? = some ((z % n : ℤ) : ℚ) := by
  have hn0 : (0 : ℤ) < n := by omega
  have hholds : ∀ r : ℤ, r.natAbs ≤ n → f.Holds r := fun r hr =>
    holds_intCast (hr.trans_lt hfits) hleast hgreatest
  have hpos := Int.emod_nonneg z hn0.ne'
  have hlt := Int.emod_lt_of_pos z hn0
  have htmod := Int.tmod_eq_emod (a := z) (b := n)
  rw [Int.natAbs_natCast] at htmod
  have hr := value?_remainder hx hy hn (hholds _ (by split_ifs at htmod <;> omega))
  rw [remEuclid]
  by_cases hneg : z.tmod n < 0
  · -- One modulus more: the sum is at most the modulus, so it is exact too.
    have hbelow := (isBelowZero_iff hr).mpr (by exact_mod_cast hneg)
    have hsum : z.tmod n + n = z % n := by split_ifs at htmod <;> omega
    have hy' := value?_abs hy
    rw [Nat.abs_cast] at hy'
    rw [if_pos hbelow]
    have hcast : ((z.tmod n : ℤ) : ℚ) + (n : ℚ) = ((z % n : ℤ) : ℚ) := by
      rw [← hsum, Int.cast_add, Int.cast_natCast]
    rw [value?_add hr hy' (by rw [hcast]; exact hholds _ (by omega)), hcast]
  · have hbelow : ¬ (f.remainder x y).isBelowZero = true := by
      rw [isBelowZero_iff hr, Int.cast_lt_zero]
      exact hneg
    have heq : z.tmod n = z % n := by split_ifs at htmod <;> omega
    rw [if_neg hbelow, hr, heq]

/-- A number keeps its value in another format that has it. -/
theorem value?_convert {x : BinaryNumber} (h : ∀ v, x.value? = some v → f.Holds v) :
    (f.convert x).value? = x.value? := by
  cases x with
  | finite negative m q =>
    have hm : f.Holds (m * 2 ^ q) := by
      rw [← abs_signed_mul negative, holds_abs]
      exact h _ rfl
    exact value?_round hm
  | infinite | notANumber => rfl

/-! ## Patterns of numbers -/

/-- The pattern with these fields. -/
def pattern (f : BinaryFormat) (negative : Bool) (field fraction : Nat) : Nat :=
  (negative.toNat * 2 ^ f.exponentBits + field) * 2 ^ f.fractionBits + fraction

section Pattern

variable {negative : Bool} {field fraction : Nat}

theorem fraction_pattern (h : fraction < 2 ^ f.fractionBits) :
    f.fraction (f.pattern negative field fraction) = fraction := by
  rw [BinaryFormat.fraction, pattern, Nat.pow_eq, Nat.mul_add_mod', Nat.mod_eq_of_lt h]

theorem pattern_div (h : fraction < 2 ^ f.fractionBits) :
    f.pattern negative field fraction / 2 ^ f.fractionBits
      = negative.toNat * 2 ^ f.exponentBits + field := by
  rw [pattern, Nat.mul_comm, Nat.mul_add_div (Nat.two_pow_pos _), Nat.div_eq_of_lt h, Nat.add_zero]

theorem exponentField_pattern (hfield : field < 2 ^ f.exponentBits)
    (h : fraction < 2 ^ f.fractionBits) :
    f.exponentField (f.pattern negative field fraction) = field := by
  rw [exponentField, Nat.pow_eq, Nat.pow_eq, pattern_div h, Nat.mul_add_mod',
    Nat.mod_eq_of_lt hfield]

theorem isNegative_pattern (hfield : field < 2 ^ f.exponentBits)
    (h : fraction < 2 ^ f.fractionBits) :
    f.isNegative (f.pattern negative field fraction) = negative := by
  rw [isNegative, Nat.pow_eq, pow_add, ← Nat.div_div_eq_div_mul, pattern_div h, Nat.mul_comm,
    Nat.mul_add_div (Nat.two_pow_pos _), Nat.div_eq_of_lt hfield]
  cases negative <;> rfl

theorem pattern_lt (hfield : field < 2 ^ f.exponentBits) (h : fraction < 2 ^ f.fractionBits) :
    f.pattern negative field fraction < 2 ^ (f.fractionBits + f.exponentBits + 1) := by
  have hsign : negative.toNat ≤ 1 := Bool.toNat_le negative
  have hword : f.pattern negative field fraction / 2 ^ f.fractionBits
      < 2 ^ (f.exponentBits + 1) := by
    rw [pattern_div h, pow_succ]
    have := Nat.mul_le_mul_right (2 ^ f.exponentBits) hsign
    omega
  rw [Nat.add_assoc, pow_add, Nat.mul_comm]
  exact (Nat.div_lt_iff_lt_mul (Nat.two_pow_pos _)).mp hword

end Pattern

/-- A number of the format with as much in its significand as fits: only where the step is the
smallest is the leading one missing. -/
theorem Holds.exists_leading {x : ℚ} (h : f.Holds x) :
    ∃ (n : Nat) (e : Int), |x| = n * 2 ^ e ∧ n < 2 ^ (f.fractionBits + 1) ∧
      f.leastExponent ≤ e ∧ e ≤ f.greatestExponent ∧
      (n < 2 ^ f.fractionBits → e = f.leastExponent) := by
  obtain ⟨a, k, hvalue, ha, hleast, hgreatest⟩ := h
  have hle : f.stepExponent a k ≤ k := stepExponent_le ha hleast
  generalize he : f.stepExponent a k = e at hle
  generalize hn : inSteps a k e = n
  have hn' : |x| = n * 2 ^ e := by rw [← hn, inSteps_mul hle, hvalue]
  -- Written with its step, a number has that step.
  have hstep : f.stepExponent n e = e := by
    rw [stepExponent_congr (hn'.symm.trans hvalue), he]
  rw [stepExponent] at hstep
  by_cases hzero : n = 0
  · rw [if_pos hzero] at hstep
    exact ⟨n, e, hn', by rw [hzero]; exact Nat.two_pow_pos _, hstep.le, hle.trans hgreatest,
      fun _ => hstep.symm⟩
  · rw [if_neg hzero] at hstep
    have hlog : n.log2 ≤ f.fractionBits := by omega
    refine ⟨n, e, hn', (Nat.log2_lt hzero).mp (Nat.lt_succ_of_le hlog), by omega,
      hle.trans hgreatest, ?_⟩
    intro hsmall
    have hlog' : n.log2 < f.fractionBits := (Nat.log2_lt hzero).mpr hsmall
    omega

theorem eq_signed_mul_of_abs_eq {x : ℚ} {n : Nat} {e : Int} (h : |x| = n * 2 ^ e) :
    x = (signed (decide (x < 0)) n : ℚ) * 2 ^ e := by
  rw [cast_signed, mul_assoc, ← h]
  rcases lt_or_ge x 0 with hneg | hnonneg
  · rw [abs_of_neg hneg, decide_eq_true hneg]
    simp [signed]
  · rw [abs_of_nonneg hnonneg, decide_eq_false hnonneg.not_gt]
    simp [signed]

/-- **Every number that a format has is named by a pattern.** -/
theorem exists_decode {x : ℚ} (h : f.Holds x) (hf : 2 ≤ f.exponentBits) :
    ∃ bits, bits < 2 ^ (f.fractionBits + f.exponentBits + 1) ∧
      (f.decode bits).value? = some x := by
  obtain ⟨n, e, hvalue, hlt, hleast, hgreatest, hleading⟩ := h.exists_leading
  have hx := eq_signed_mul_of_abs_eq hvalue
  have hfour : 2 ^ 2 ≤ 2 ^ f.exponentBits := Nat.pow_le_pow_right (by decide) hf
  rcases lt_or_ge n (2 ^ f.fractionBits) with hsmall | hlarge
  · have hfield : 0 < 2 ^ f.exponentBits := Nat.two_pow_pos _
    refine ⟨f.pattern (decide (x < 0)) 0 n, pattern_lt hfield hsmall, ?_⟩
    rw [decode, exponentField_pattern hfield hsmall, isNegative_pattern hfield hsmall,
      fraction_pattern hsmall, Nat.pow_eq, if_neg (by omega), if_pos rfl, value?,
      ← hleading hsmall, ← hx]
  · -- The leading one is dropped, and the field counts the steps above the smallest.
    obtain ⟨field, rfl⟩ : ∃ field : Nat, e = f.leastExponent + field :=
      ⟨(e - f.leastExponent).toNat, by omega⟩
    have hfield : field + 1 < 2 ^ f.exponentBits - 1 := by
      rw [greatestExponent, Nat.pow_eq] at hgreatest
      omega
    have hrest : n - 2 ^ f.fractionBits < 2 ^ f.fractionBits := by
      rw [pow_succ] at hlt
      omega
    refine ⟨f.pattern (decide (x < 0)) (field + 1) (n - 2 ^ f.fractionBits),
      pattern_lt (by omega) hrest, ?_⟩
    rw [decode, exponentField_pattern (by omega) hrest, isNegative_pattern (by omega) hrest,
      fraction_pattern hrest, Nat.pow_eq, Nat.pow_eq, if_neg (by omega), if_neg (by omega), value?,
      Nat.add_sub_cancel, Nat.add_sub_cancel' hlarge, ← hx]

end BinaryFormat

end SqlSelect
