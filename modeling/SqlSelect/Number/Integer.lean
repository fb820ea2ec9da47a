/-!
# Integers of fixed width

A type of integers is given by how many bits its words have and by whether the first of them is a
sign. A word gets longer by repeating its sign in front, or by zeros if it has none, and shorter by
losing bits in front.
-/

namespace SqlSelect

/-- A type of integers of fixed width. -/
structure IntegerType where
  width : Nat
  signed : Bool
  deriving DecidableEq, Repr, Inhabited

namespace IntegerType

def int8 : IntegerType := ⟨8, true⟩

def int16 : IntegerType := ⟨16, true⟩

def int32 : IntegerType := ⟨32, true⟩

def int64 : IntegerType := ⟨64, true⟩

def uint8 : IntegerType := ⟨8, false⟩

def uint16 : IntegerType := ⟨16, false⟩

def uint32 : IntegerType := ⟨32, false⟩

def uint64 : IntegerType := ⟨64, false⟩

/-- A word as one of 32 bits, read with a sign. -/
def toInt32 (t : IntegerType) (w : BitVec t.width) : Int32 :=
  .ofBitVec (if t.signed then w.signExtend 32 else w.setWidth 32)

end IntegerType

end SqlSelect
