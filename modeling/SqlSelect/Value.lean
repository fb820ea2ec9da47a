import SqlSelect.Number.Binary
import SqlSelect.Text.Integer

/-!
# Values bound to placeholders

A value travels beside the text of a statement and is never looked at on the way. It is looked at
only when a result is read back: `asInt64` reads an integer out of it.

## Two equalities

`=` compares values as data, floating-point numbers by their bits. `Value.equal` compares numbers
as numbers: what is not a number equals nothing, and the two zeros are equal. Both keep a text that
is part of the program apart from a text that is not.
-/

namespace SqlSelect

/-- A value for one placeholder. Floating-point numbers are kept as their bits. -/
inductive Value where
  | null
  | bool (b : Bool)
  /-- A text made while the program runs. -/
  | text (s : String)
  /-- A text that stands in the program. -/
  | literal (s : String)
  | int8 (n : Int8)
  | int16 (n : Int16)
  | int32 (n : Int32)
  | int64 (n : Int64)
  | uint8 (n : UInt8)
  | uint16 (n : UInt16)
  | uint32 (n : UInt32)
  | uint64 (n : UInt64)
  | float32 (bits : UInt32)
  | float64 (bits : UInt64)
  deriving DecidableEq, Inhabited

namespace Value

/-- Whether the value is null. -/
def isNull (v : Value) : Bool := v matches .null

/-- Equality of values, numbers compared as numbers. -/
def equal : Value → Value → Bool
  | .float32 a, .float32 b => BinaryFormat.binary32.equal a.toNat b.toNat
  | .float64 a, .float64 b => BinaryFormat.binary64.equal a.toNat b.toNat
  | a, b => decide (a = b)

/-! ## Reading an integer back -/

/-- The integer that a value stands for, of any size. Text stands for one if it spells one. -/
def integer? : Value → Option Int
  | .int8 n => some n.toInt
  | .int16 n => some n.toInt
  | .int32 n => some n.toInt
  | .int64 n => some n.toInt
  | .uint8 n => some n.toNat
  | .uint16 n => some n.toNat
  | .uint32 n => some n.toNat
  | .uint64 n => some n.toNat
  | .text s => Text.integer? s.toList
  | .literal s => Text.integer? s.toList
  | .null | .bool _ | .float32 _ | .float64 _ => none

/-- An integer as a signed word of 64 bits, if it fits. -/
def int64? (n : Int) : Option Int64 :=
  if Int64.minValue.toInt ≤ n ∧ n ≤ Int64.maxValue.toInt then some (Int64.ofInt n) else none

/-- The integer that a value stands for, if it fits into a signed word of 64 bits. -/
def asInt64 (v : Value) : Option Int64 := v.integer?.bind int64?

end Value

end SqlSelect
