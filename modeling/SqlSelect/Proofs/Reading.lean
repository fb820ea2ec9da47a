import Mathlib.Algebra.Ring.Int.Defs
import Mathlib.Algebra.Ring.Nat
import SqlSelect.Value

/-!
# Integers read back

An integer can be read out of a value if the value is an integer, or a text that spells one. How a
text spells an integer is a grammar (`Text.Spells`): a sign or none, then one or more digits, which
count by their places. The reader accepts just these texts (`Text.integer?_eq_some_iff`).

What is read has to be a signed word of 64 bits. The bounds are on the integer and not on its
digits, so leading zeros do no harm, and the least word is read although its magnitude is no such word.
-/

namespace SqlSelect

/-! ## Texts that spell an integer -/

namespace Text

/-- One or more ASCII digits. -/
def IsNumeral (digits : List Char) : Prop := digits ≠ [] ∧ ∀ c ∈ digits, '0' ≤ c ∧ c ≤ '9'

/-- The number of a numeral: each digit counts as often as its place says. -/
def placeValue : List Char → Nat
  | [] => 0
  | c :: digits => (c.toNat - '0'.toNat) * 10 ^ digits.length + placeValue digits

/-- A text and the integer that it spells. -/
inductive Spells : List Char → Int → Prop
  | unsigned {digits : List Char} (h : IsNumeral digits) : Spells digits (placeValue digits)
  | positive {digits : List Char} (h : IsNumeral digits) : Spells ('+' :: digits) (placeValue digits)
  | negative {digits : List Char} (h : IsNumeral digits) :
      Spells ('-' :: digits) (-(placeValue digits : Int))

theorem isDigit_iff {c : Char} : c.isDigit = true ↔ '0' ≤ c ∧ c ≤ '9' := by
  rw [Char.isDigit, Bool.and_eq_true, decide_eq_true_iff, decide_eq_true_iff]
  exact Iff.rfl

/-- Digits that are read one by one count by their places. -/
theorem digitsValue_eq (digits : List Char) : digitsValue digits = placeValue digits := by
  induction digits with
  | nil => rfl
  | cons c digits ih =>
    have hcons : digitsValue (c :: digits) = Nat.ofDigitChars 10 digits (c.toNat - '0'.toNat) := by
      show Nat.ofDigitChars 10 digits (10 * 0 + _) = _
      rw [Nat.mul_zero, Nat.zero_add]
    rw [hcons, Nat.ofDigitChars_eq_ofDigitChars_zero, Nat.mul_comm, placeValue, ← ih]
    rfl

theorem natural?_eq_some_iff {cs : List Char} {n : Nat} :
    natural? cs = some n ↔ IsNumeral cs ∧ placeValue cs = n := by
  have hnumeral : IsNumeral cs ↔ ¬ (cs.isEmpty || !cs.all Char.isDigit) = true := by
    simp [IsNumeral, isDigit_iff]
  rw [natural?, hnumeral, digitsValue_eq]
  split
  · next h => exact ⟨nofun, fun h' => absurd h h'.1⟩
  · next h => exact ⟨fun heq => ⟨h, Option.some.inj heq⟩, fun h' => congrArg some h'.2⟩

/-- A numeral begins with a digit, not with a sign. -/
theorem IsNumeral.head?_ne {digits : List Char} (h : IsNumeral digits) {c : Char}
    (hc : c.isDigit = false) : digits.head? ≠ some c := by
  intro hhead
  have hmem : c ∈ digits := List.mem_of_head? hhead
  rw [isDigit_iff.mpr (h.2 c hmem)] at hc
  cases hc

theorem integer?_negative (digits : List Char) :
    integer? ('-' :: digits) = (natural? digits).map fun m : Nat => -(m : Int) := by
  rw [integer?]
  cases natural? digits <;> rfl

theorem integer?_positive (digits : List Char) :
    integer? ('+' :: digits) = (natural? digits).map fun m : Nat => (m : Int) := by
  rw [integer?]
  cases natural? digits <;> rfl

theorem integer?_unsigned {cs : List Char} (hminus : cs.head? ≠ some '-')
    (hplus : cs.head? ≠ some '+') : integer? cs = (natural? cs).map fun m : Nat => (m : Int) := by
  unfold integer?
  split
  · exact absurd rfl hminus
  · exact absurd rfl hplus
  · cases natural? cs <;> rfl

/-- Digits that are read and then given a sign. -/
theorem map_natural?_eq_some_iff {digits : List Char} {sign : Nat → Int} {n : Int} :
    (natural? digits).map sign = some n ↔ IsNumeral digits ∧ sign (placeValue digits) = n := by
  rw [Option.map_eq_some_iff]
  constructor
  · rintro ⟨m, hm, rfl⟩
    obtain ⟨hdigits, rfl⟩ := natural?_eq_some_iff.mp hm
    exact ⟨hdigits, rfl⟩
  · rintro ⟨hdigits, rfl⟩
    exact ⟨_, natural?_eq_some_iff.mpr ⟨hdigits, rfl⟩, rfl⟩

/-- **The reader accepts the texts that spell an integer,** and no others. -/
theorem integer?_eq_some_iff {cs : List Char} {n : Int} : integer? cs = some n ↔ Spells cs n := by
  constructor
  · intro h
    by_cases hminus : cs.head? = some '-'
    · obtain ⟨digits, rfl⟩ := List.head?_eq_some_iff.mp hminus
      rw [integer?_negative, map_natural?_eq_some_iff] at h
      obtain ⟨hdigits, rfl⟩ := h
      exact .negative hdigits
    by_cases hplus : cs.head? = some '+'
    · obtain ⟨digits, rfl⟩ := List.head?_eq_some_iff.mp hplus
      rw [integer?_positive, map_natural?_eq_some_iff] at h
      obtain ⟨hdigits, rfl⟩ := h
      exact .positive hdigits
    rw [integer?_unsigned hminus hplus, map_natural?_eq_some_iff] at h
    obtain ⟨hdigits, rfl⟩ := h
    exact .unsigned hdigits
  · intro h
    cases h with
    | unsigned hdigits =>
      rw [integer?_unsigned (hdigits.head?_ne rfl) (hdigits.head?_ne rfl)]
      exact map_natural?_eq_some_iff.mpr ⟨hdigits, rfl⟩
    | positive hdigits =>
      rw [integer?_positive]
      exact map_natural?_eq_some_iff.mpr ⟨hdigits, rfl⟩
    | negative hdigits =>
      rw [integer?_negative]
      exact map_natural?_eq_some_iff.mpr ⟨hdigits, rfl⟩

/-- The decimal digits of a number are a numeral of it. -/
theorem natural?_toDigits (n : Nat) : natural? (Nat.toDigits 10 n) = some n := by
  rw [natural?_eq_some_iff, ← digitsValue_eq]
  refine ⟨⟨Nat.toDigits_ne_nil, fun c hc => ?_⟩, Nat.ofDigitChars_ten_toDigits⟩
  exact isDigit_iff.mp (Nat.isDigit_of_mem_toDigits (by decide) (by decide) hc)

/-- The decimal text of an integer spells it. -/
theorem spells_toString (n : Int) : Spells (toString n).toList n := by
  cases n with
  | ofNat m =>
    have htext : (toString (Int.ofNat m)).toList = Nat.toDigits 10 m := Nat.toList_repr
    obtain ⟨hdigits, hvalue⟩ := natural?_eq_some_iff.mp (natural?_toDigits m)
    have h := Spells.unsigned hdigits
    rw [hvalue] at h
    rwa [htext]
  | negSucc m =>
    have htext : (toString (Int.negSucc m)).toList = '-' :: Nat.toDigits 10 (m + 1) := by
      show ("-" ++ (m + 1).repr).toList = _
      rw [String.toList_append, Nat.toList_repr]
      rfl
    obtain ⟨hdigits, hvalue⟩ := natural?_eq_some_iff.mp (natural?_toDigits (m + 1))
    have h := Spells.negative hdigits
    rw [hvalue] at h
    rwa [htext]

end Text

namespace Value

/-! ## Bounds -/

/-- An integer that is a signed word of 64 bits is that word. -/
theorem int64?_eq_some_iff {n : Int} {w : Int64} : int64? n = some w ↔ w.toInt = n := by
  have hmin : Int64.minValue.toInt = -2 ^ 63 := rfl
  have hmax : Int64.maxValue.toInt = 2 ^ 63 - 1 := rfl
  rw [int64?, hmin, hmax]
  constructor
  · intro h
    split at h
    · next hn =>
      cases h
      exact Int64.toInt_ofInt_of_le hn.1 (by omega)
    · cases h
  · rintro rfl
    have hlow := w.le_toInt
    have hhigh := w.toInt_lt
    rw [if_pos ⟨hlow, by omega⟩, Int64.ofInt_toInt]

/-- One that is not is refused. -/
theorem int64?_eq_none_of_le {n : Int} (h : 2 ^ 63 ≤ n) : int64? n = none := by
  have hmax : Int64.maxValue.toInt = 2 ^ 63 - 1 := rfl
  rw [int64?, hmax, if_neg (by omega)]

theorem map_toInt_int64? {n : Int} (hlow : -2 ^ 63 ≤ n) (hhigh : n ≤ 2 ^ 63 - 1) :
    (int64? n).map Int64.toInt = some n := by
  have hword : (Int64.ofInt n).toInt = n := Int64.toInt_ofInt_of_le hlow (by omega)
  rw [int64?_eq_some_iff.mpr hword, Option.map_some, hword]

/-! ## Values that are integers -/

/-- A value that is an integer, of whatever width, and the integer. -/
inductive IsInteger : Value → Int → Prop
  | int8 (n : Int8) : IsInteger (.int8 n) n.toInt
  | int16 (n : Int16) : IsInteger (.int16 n) n.toInt
  | int32 (n : Int32) : IsInteger (.int32 n) n.toInt
  | int64 (n : Int64) : IsInteger (.int64 n) n.toInt
  | uint8 (n : UInt8) : IsInteger (.uint8 n) n.toNat
  | uint16 (n : UInt16) : IsInteger (.uint16 n) n.toNat
  | uint32 (n : UInt32) : IsInteger (.uint32 n) n.toNat
  | uint64 (n : UInt64) : IsInteger (.uint64 n) n.toNat

/-- Texts, of the program or not. -/
def IsText (v : Value) (s : String) : Prop := v = .text s ∨ v = .literal s

theorem IsInteger.le {v : Value} {n : Int} (h : v.IsInteger n) : -2 ^ 63 ≤ n := by
  cases h with
  | int8 n => have := n.le_toInt; omega
  | int16 n => have := n.le_toInt; omega
  | int32 n => have := n.le_toInt; omega
  | int64 n => exact n.le_toInt
  | uint8 | uint16 | uint32 | uint64 => omega

theorem IsInteger.asInt64 {v : Value} {n : Int} (h : v.IsInteger n) : v.asInt64 = int64? n := by
  cases h <;> rfl

theorem IsText.asInt64_of_spells {v : Value} {s : String} {n : Int} (hv : v.IsText s)
    (h : Text.Spells s.toList n) : v.asInt64 = int64? n := by
  have hread := Text.integer?_eq_some_iff.mpr h
  rcases hv with rfl | rfl <;> rw [asInt64, integer?, hread] <;> rfl

theorem IsText.spells_of_asInt64 {v : Value} {s : String} {w : Int64} (hv : v.IsText s)
    (h : v.asInt64 = some w) : ∃ n, Text.Spells s.toList n ∧ int64? n = some w := by
  have hbind : (Text.integer? s.toList).bind int64? = some w := by
    rcases hv with rfl | rfl <;> exact h
  obtain ⟨n, hread, hw⟩ := Option.bind_eq_some_iff.mp hbind
  exact ⟨n, Text.integer?_eq_some_iff.mp hread, hw⟩

/-- **Which integer is read out of a text:** the one that it spells, if it is within the bounds. -/
theorem IsText.map_toInt_asInt64_iff {v : Value} {s : String} (hv : v.IsText s) {n : Int} :
    v.asInt64.map Int64.toInt = some n ↔
      Text.Spells s.toList n ∧ -2 ^ 63 ≤ n ∧ n ≤ 2 ^ 63 - 1 := by
  constructor
  · intro h
    obtain ⟨w, hread, rfl⟩ := Option.map_eq_some_iff.mp h
    obtain ⟨m, hspells, hw⟩ := hv.spells_of_asInt64 hread
    obtain rfl : w.toInt = m := int64?_eq_some_iff.mp hw
    have hhigh := w.toInt_lt
    exact ⟨hspells, w.le_toInt, by omega⟩
  · rintro ⟨hspells, hlow, hhigh⟩
    rw [hv.asInt64_of_spells hspells]
    exact map_toInt_int64? hlow hhigh

/-- **Reading an integer back.** Out of an integer of any width the integer itself is read, unless it
is `2 ^ 63` or more. Out of a text, of the program or not, an integer is read if and only if the text
spells it, by a sign or none and one or more digits, and it is within the bounds of a signed word of
64 bits. Nothing is read out of null, truth values and floating-point numbers. So each signed word
of 64 bits is read back from its decimal text, and a text that spells an integer gives what a value
gives that is this integer. -/
theorem asInt64_reads_back :
    (∀ (v : Value) (n : Int), v.IsInteger n →
      (n ≤ 2 ^ 63 - 1 → v.asInt64.map Int64.toInt = some n) ∧ (2 ^ 63 ≤ n → v.asInt64 = none)) ∧
    (∀ (v : Value) (s : String), v.IsText s → ∀ n : Int,
      v.asInt64.map Int64.toInt = some n ↔
        Text.Spells s.toList n ∧ -2 ^ 63 ≤ n ∧ n ≤ 2 ^ 63 - 1) ∧
    (Value.null.asInt64 = none ∧ (∀ b, (Value.bool b).asInt64 = none) ∧
      (∀ bits, (Value.float32 bits).asInt64 = none) ∧
      ∀ bits, (Value.float64 bits).asInt64 = none) ∧
    (∀ (v : Value) (w : Int64), v.IsText (toString w.toInt) → v.asInt64 = some w) ∧
    ∀ (v v' : Value) (s : String) (n : Int), v.IsText s → v'.IsInteger n →
      (s = toString n ∨ Text.Spells s.toList n) → v.asInt64 = v'.asInt64 := by
  refine ⟨?integers, fun v s hv n => hv.map_toInt_asInt64_iff,
    ⟨rfl, fun _ => rfl, fun _ => rfl, fun _ => rfl⟩, ?decimal, ?same⟩
  case integers =>
    intro v n hv
    rw [hv.asInt64]
    exact ⟨map_toInt_int64? hv.le, int64?_eq_none_of_le⟩
  case decimal =>
    intro v w hv
    rw [hv.asInt64_of_spells (Text.spells_toString w.toInt)]
    exact int64?_eq_some_iff.mpr rfl
  case same =>
    intro v v' s n hv hv' h
    have hspells : Text.Spells s.toList n := by
      rcases h with rfl | h
      · exact Text.spells_toString n
      · exact h
    rw [hv.asInt64_of_spells hspells, hv'.asInt64]

/-- The least word with zeros before it, and the number after the greatest word. -/
theorem asInt64_reads_back_bounds :
    (Value.text "-0009223372036854775808").asInt64.map Int64.toInt = some (-9223372036854775808) ∧
    Text.Spells "-0009223372036854775808".toList (-9223372036854775808) ∧
    (Value.uint64 9223372036854775808).asInt64 = none ∧
    (Value.literal "9223372036854775808").asInt64 = (Value.uint64 9223372036854775808).asInt64 ∧
    (Value.literal "-").asInt64 = none := by
  obtain ⟨hintegers, htexts, -, -, hsame⟩ := asInt64_reads_back
  have hleast : Text.Spells "-0009223372036854775808".toList (-9223372036854775808) :=
    Text.integer?_eq_some_iff.mp (by decide)
  have hword : (Value.uint64 9223372036854775808).IsInteger 9223372036854775808 :=
    .uint64 9223372036854775808
  refine ⟨(htexts _ _ (.inl rfl) _).mpr ⟨hleast, by decide, by decide⟩, hleast,
    (hintegers _ _ hword).2 (by decide), ?_, rfl⟩
  exact hsame _ _ _ _ (.inr rfl) hword (.inl rfl)

end Value

end SqlSelect
