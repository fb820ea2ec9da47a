import SqlSelect.Value.Inspect

/-!
# Values of options

An option is set to a truth value, an integer or a text.
-/

namespace SqlSelect

/-- What an option is set to. -/
inductive OptionValue where
  | bool (b : Bool)
  | int (n : Int64)
  | text (s : String)
  deriving DecidableEq, Inhabited

/-- A value of an option as messages show it. -/
def OptionValue.inspect : OptionValue → String
  | .bool b => labelled "Bool" (if b then "true" else "false")
  | .int n => labelled "Int" (toString n.toInt)
  | .text s => labelled "Text" (Text.quoted s)

end SqlSelect
