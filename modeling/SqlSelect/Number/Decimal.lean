import SqlSelect.Number.Shortest

/-!
# Floating-point numbers as text

A number is shown by the fewest digits that read back. How they are laid out is one value of
`DecimalLayout`: between two exponents the digits stand around a point, outside of them there is
one digit before the point and the exponent follows.
-/

namespace SqlSelect

/-- Which numbers are written without an exponent. -/
structure DecimalLayout where
  /-- The least exponent of the leading digit that is written without an exponent. -/
  least : Int
  /-- The least exponent of the leading digit that is written with an exponent again. -/
  beyond : Int

namespace DecimalLayout

/-- From `0.0001` up and below `10 ^ 16` a number is written without an exponent. -/
def inspect : DecimalLayout := ⟨-4, 16⟩

/-! ## Laying out digits -/

/-- Digits around a point, where `e` is the exponent of the first; a whole number ends in `.0`. -/
def positional (ds : List Char) (e : Int) : List Char :=
  if e < 0 then
    ['0', '.'] ++ List.replicate (-e - 1).toNat '0' ++ ds
  else
    let whole := e.toNat + 1
    let after := ds.drop whole
    ds.take whole ++ List.replicate (whole - ds.length) '0' ++
      ['.'] ++ (if after.isEmpty then ['0'] else after)

/-- One digit, the others after a point if there are any, and the exponent without padding. -/
def scientific (ds : List Char) (e : Int) : List Char :=
  let after := ds.drop 1
  ds.take 1 ++ (if after.isEmpty then [] else '.' :: after) ++ ['e'] ++ (toString e).toList

/-- The text of a positive decimal number. -/
def write (l : DecimalLayout) (d : Decimal) : List Char :=
  let ds := Nat.toDigits 10 d.digits
  let e := d.exponent + ds.length - 1
  if l.least ≤ e ∧ e < l.beyond then positional ds e else scientific ds e

end DecimalLayout

/-- The text of a pattern of bits. Zero has no leading digit and is always `0.0`. -/
def BinaryFormat.inspect (f : BinaryFormat) (bits : Nat) : String :=
  match f.decode bits with
  | .notANumber => "NaN"
  | .infinite negative => if negative then "-inf" else "inf"
  | .finite negative m q =>
    let sign := if negative then "-" else ""
    sign ++
      (if m = 0 then "0.0" else String.ofList (DecimalLayout.inspect.write (f.shortest m q)))

end SqlSelect
