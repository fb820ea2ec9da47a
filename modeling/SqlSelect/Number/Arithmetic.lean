import SqlSelect.Number.Binary

/-!
# Arithmetic of floating-point numbers

An operation is worked out in whole numbers and its result is rounded: it is the number of the format
that is nearest to the exact result, and of two equally near ones the one with an even significand.
A result is rounded even where the exact one is always a number of the format, as the remainder of a
division is; that rounding does nothing there is a theorem, not part of the definition.
-/

namespace SqlSelect

/-! ## Rounding -/

/-- `m / 2 ^ k` as the nearest whole number, and as the even one halfway between two. -/
def roundedQuotient (m k : Nat) : Nat :=
  let below := m / Nat.pow 2 k
  let rest := m % Nat.pow 2 k
  if 2 * rest < Nat.pow 2 k then below
  else if 2 * rest = Nat.pow 2 k then below + below % 2
  else below + 1

/-- `m * 2 ^ q` counted in steps of `2 ^ e`, where `e` is not greater than `q`. -/
def inSteps (m : Nat) (q e : Int) : Nat := m * Nat.pow 2 (q - e).toNat

namespace BinaryFormat

/-- The exponent of the greatest step between two numbers of the format. -/
def greatestExponent (f : BinaryFormat) : Int :=
  f.leastExponent + Nat.pow 2 f.exponentBits - 3

/-- The exponent of the step between the numbers of the format around `m * 2 ^ q`, if there were no
greatest one. -/
def stepExponent (f : BinaryFormat) (m : Nat) (q : Int) : Int :=
  if m = 0 then f.leastExponent else max f.leastExponent (q + m.log2 - f.fractionBits)

/--
The number of the format that is nearest to `m * 2 ^ q`, with a sign. It is infinite if it would need
a step that is greater than the greatest one.
-/
def round (f : BinaryFormat) (negative : Bool) (m : Nat) (q : Int) : BinaryNumber :=
  let e := f.stepExponent m q
  let n := roundedQuotient (inSteps m q e) (e - q).toNat
  if f.greatestExponent < f.stepExponent n e then .infinite negative else .finite negative n e

end BinaryFormat

/-! ## Signs -/

namespace BinaryNumber

/-- Whether a number is below zero; neither zero is. -/
def isBelowZero : BinaryNumber → Bool
  | .finite negative m _ => negative && m != 0
  | .infinite negative => negative
  | .notANumber => false

/-- A number without its sign. -/
def abs : BinaryNumber → BinaryNumber
  | .finite _ m q => .finite false m q
  | .infinite _ => .infinite false
  | .notANumber => .notANumber

/-- A significand with its sign. -/
def signed (negative : Bool) (m : Nat) : Int := if negative then -m else m

end BinaryNumber

/-! ## Operations -/

namespace BinaryFormat

variable (f : BinaryFormat)

/-- A number of another format as one of this format. -/
def convert : BinaryNumber → BinaryNumber
  | .finite negative m q => f.round negative m q
  | x => x

/-- A number without the part after the point. -/
def truncate : BinaryNumber → BinaryNumber
  | .finite negative m q => f.round negative (wholePart m q) 0
  | x => x

/-- What is left of a number when as many of the other as fit are taken away; it has the sign of the
first. -/
def remainder : BinaryNumber → BinaryNumber → BinaryNumber
  | .finite negative m q, .finite _ n r =>
    if n = 0 then .notANumber
    else
      let e := min q r
      f.round negative (inSteps m q e % inSteps n r e) e
  | .finite negative m q, .infinite _ => .finite negative m q
  | _, _ => .notANumber

/-- The sum of two numbers; a sum of zero is negative only if both numbers are. -/
def add : BinaryNumber → BinaryNumber → BinaryNumber
  | .finite s m q, .finite t n r =>
    let e := min q r
    let sum := BinaryNumber.signed s (inSteps m q e) + BinaryNumber.signed t (inSteps n r e)
    f.round (if sum = 0 then s && t else sum < 0) sum.natAbs e
  | .infinite s, .infinite t => if s = t then .infinite s else .notANumber
  | .infinite s, .finite .. => .infinite s
  | .finite .., .infinite t => .infinite t
  | _, _ => .notANumber

/-- The remainder that is not below zero. -/
def remEuclid (x y : BinaryNumber) : BinaryNumber :=
  let r := f.remainder x y
  if r.isBelowZero then f.add r y.abs else r

end BinaryFormat

namespace BinaryNumber

/-- The whole part of a number as a word of 32 bits, or the word that is nearest to it. -/
def toUInt32 : BinaryNumber → UInt32
  | .finite negative m q =>
    if negative then 0 else UInt32.ofNat (min (wholePart m q) (UInt32.size - 1))
  | .infinite negative => if negative then 0 else UInt32.ofNat (UInt32.size - 1)
  | .notANumber => 0

end BinaryNumber

end SqlSelect
