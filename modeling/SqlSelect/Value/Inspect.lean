import SqlSelect.Number.Decimal
import SqlSelect.Text.Escaped
import SqlSelect.Value

/-!
# Values in messages

A message shows a value by the name of its kind and, in parentheses, what it holds: texts between
quotes, integers in decimal, floating-point numbers by the fewest digits that read back.
-/

namespace SqlSelect

/-- The name of a kind of value with what it holds. -/
def labelled (label payload : String) : String := label ++ "(" ++ payload ++ ")"

/-- A value as messages show it. -/
def Value.inspect : Value → String
  | .null => "Null"
  | .bool b => labelled "Bool" (if b then "true" else "false")
  | .text s => labelled "String" (Text.quoted s)
  | .literal s => labelled "StaticString" (Text.quoted s)
  | .int8 n => labelled "I8" (toString n.toInt)
  | .int16 n => labelled "I16" (toString n.toInt)
  | .int32 n => labelled "I32" (toString n.toInt)
  | .int64 n => labelled "I64" (toString n.toInt)
  | .uint8 n => labelled "U8" (toString n.toNat)
  | .uint16 n => labelled "U16" (toString n.toNat)
  | .uint32 n => labelled "U32" (toString n.toNat)
  | .uint64 n => labelled "U64" (toString n.toNat)
  | .float32 bits => labelled "F32" (BinaryFormat.binary32.inspect bits.toNat)
  | .float64 bits => labelled "F64" (BinaryFormat.binary64.inspect bits.toNat)

end SqlSelect
