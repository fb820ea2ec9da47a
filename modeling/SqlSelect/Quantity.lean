import SqlSelect.Number.Arithmetic
import SqlSelect.Number.Integer

/-!
# Numbers as row counts

The number of rows to take or to skip is given as any number and never refused. An integer is read as
a signed word of 32 bits and its sign is dropped. A floating-point number is cut to a whole number and
brought between zero and `2 ^ 32` first, by arithmetic of its own format; one that is not finite
counts as zero.
-/

namespace SqlSelect

/-- A number given for a count of rows. Floating-point numbers are kept as their bits. -/
inductive Quantity where
  | word (t : IntegerType) (bits : BitVec t.width)
  | float32 (bits : UInt32)
  | float64 (bits : UInt64)
  deriving DecidableEq, Inhabited

namespace Quantity

/-! ## Integers of fixed width -/

instance : Coe Int8 Quantity := ⟨fun n => .word .int8 n.toBitVec⟩

instance : Coe Int16 Quantity := ⟨fun n => .word .int16 n.toBitVec⟩

instance : Coe Int32 Quantity := ⟨fun n => .word .int32 n.toBitVec⟩

instance : Coe Int64 Quantity := ⟨fun n => .word .int64 n.toBitVec⟩

instance : Coe UInt8 Quantity := ⟨fun n => .word .uint8 n.toBitVec⟩

instance : Coe UInt16 Quantity := ⟨fun n => .word .uint16 n.toBitVec⟩

instance : Coe UInt32 Quantity := ⟨fun n => .word .uint32 n.toBitVec⟩

instance : Coe UInt64 Quantity := ⟨fun n => .word .uint64 n.toBitVec⟩

/-- A whole number as a signed word of 64 bits. -/
def integer (n : Int) : Quantity := Int64.ofInt n

/-! ## Counting rows -/

/-- A signed word without its sign. Only the least one has a magnitude that is no signed word. -/
def magnitude (n : Int32) : UInt32 := n.abs.toUInt32

/-- `2 ^ 32`, the number of words of 32 bits. -/
def wordCount : BinaryNumber := .finite false 1 32

/-- A floating-point number as a count of rows, all arithmetic on it in 64 bits. -/
def countNumber (x : BinaryNumber) : UInt32 :=
  match x with
  | .finite .. =>
    let wrapped := BinaryFormat.binary64.remEuclid (BinaryFormat.binary64.truncate x) wordCount
    magnitude wrapped.toUInt32.toInt32
  | .infinite _ | .notANumber => 0

/-- The count of rows that a number stands for. -/
def count : Quantity → UInt32
  | .word t bits => magnitude (t.toInt32 bits)
  | .float32 bits =>
    countNumber (BinaryFormat.binary64.convert (BinaryFormat.binary32.decode bits.toNat))
  | .float64 bits => countNumber (BinaryFormat.binary64.decode bits.toNat)

end Quantity

end SqlSelect
