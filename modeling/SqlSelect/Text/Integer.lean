/-!
# Whole numbers in decimal text

A whole number is written as an optional single sign and one or more ASCII digits, and nothing
else: no blanks, no separators. Leading zeros are allowed, so reading is not injective.
-/

namespace SqlSelect.Text

/-- The value of a run of decimal digits, the most significant first. -/
def digitsValue (cs : List Char) : Nat :=
  cs.foldl (fun n c => 10 * n + (c.toNat - '0'.toNat)) 0

/-- Reads one or more ASCII digits. -/
def natural? (cs : List Char) : Option Nat :=
  if cs.isEmpty || !cs.all Char.isDigit then none else some (digitsValue cs)

/-- Reads an optional sign and one or more ASCII digits. -/
def integer? : List Char → Option Int
  | '-' :: digits => (natural? digits).map fun n => -(n : Int)
  | '+' :: digits => (natural? digits).map fun n => (n : Int)
  | digits => (natural? digits).map fun n => (n : Int)

end SqlSelect.Text
