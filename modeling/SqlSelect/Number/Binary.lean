/-!
# Binary floating-point numbers

A binary interchange format is given by its two field widths. A pattern of bits is read exactly: a
finite number is a sign, a significand `m` and an exponent `q`, and stands for `m * 2 ^ q`. All
arithmetic on such numbers is on `m` and `q`, in whole numbers.
-/

namespace SqlSelect

/-- A binary interchange format: one sign bit, then the exponent field, then the fraction field. -/
structure BinaryFormat where
  fractionBits : Nat
  exponentBits : Nat
  /-- Every number of the format is named by this many significant decimal digits. -/
  maxDigits : Nat

/-- What a pattern of bits stands for; a finite one for `significand * 2 ^ exponent`. -/
inductive BinaryNumber where
  | notANumber
  | infinite (negative : Bool)
  | finite (negative : Bool) (significand : Nat) (exponent : Int)
  deriving DecidableEq, Repr

namespace BinaryFormat

/-- The format of 32 bits. -/
def binary32 : BinaryFormat := ⟨23, 8, 9⟩

/-- The format of 64 bits. -/
def binary64 : BinaryFormat := ⟨52, 11, 17⟩

/-! ## The fields of a pattern -/

/-- The exponent of the smallest step between two numbers of the format. -/
def leastExponent (f : BinaryFormat) : Int :=
  2 - Nat.pow 2 (f.exponentBits - 1) - f.fractionBits

/-- The fraction field. -/
def fraction (f : BinaryFormat) (bits : Nat) : Nat := bits % Nat.pow 2 f.fractionBits

/-- The exponent field. -/
def exponentField (f : BinaryFormat) (bits : Nat) : Nat :=
  bits / Nat.pow 2 f.fractionBits % Nat.pow 2 f.exponentBits

/-- The sign bit. -/
def isNegative (f : BinaryFormat) (bits : Nat) : Bool :=
  bits / Nat.pow 2 (f.fractionBits + f.exponentBits) % 2 == 1

/-! ## Reading a pattern -/

/--
What a pattern stands for. The greatest exponent field is kept for the infinities and for what is
not a number; the field zero drops the leading one of the significand.
-/
def decode (f : BinaryFormat) (bits : Nat) : BinaryNumber :=
  if f.exponentField bits = Nat.pow 2 f.exponentBits - 1 then
    if f.fraction bits = 0 then .infinite (f.isNegative bits) else .notANumber
  else if f.exponentField bits = 0 then
    .finite (f.isNegative bits) (f.fraction bits) f.leastExponent
  else
    .finite (f.isNegative bits) (Nat.pow 2 f.fractionBits + f.fraction bits)
      (f.leastExponent + (f.exponentField bits - 1 : Nat))

/-- Whether a pattern is not a number. -/
def isNaN (f : BinaryFormat) (bits : Nat) : Bool := f.decode bits == .notANumber

/-- Whether a pattern is one of the two zeros. -/
def isZero (f : BinaryFormat) (bits : Nat) : Bool :=
  f.exponentField bits == 0 && f.fraction bits == 0

/--
Equality of numbers: what is not a number equals nothing, itself included, the two zeros are equal,
and all other numbers have one pattern each.
-/
def equal (f : BinaryFormat) (a b : Nat) : Bool :=
  !f.isNaN a && !f.isNaN b && (a == b || (f.isZero a && f.isZero b))

end BinaryFormat

/-! ## Whole part -/

/-- The whole number that is left of `m * 2 ^ q` when the part after the point is dropped. -/
def wholePart (m : Nat) (q : Int) : Nat :=
  m * Nat.pow 2 q.toNat / Nat.pow 2 (-q).toNat

end SqlSelect
