import SqlSelect.Number.Binary

/-!
# The fewest digits that read back

A finite number of a binary format is named by any decimal number that rounds to it, that is, by any
one between the midpoints to its two neighbours. Among the decimal numbers with the fewest digits in
that interval the nearest one is taken, and of two equally near ones the greater.

## How it is found

For `n = 1, 2, …` digits the number lies between two neighbours on the grid of the decimal numbers
with `n` digits. If any point of the grid is in the interval, one of these two is. Everything is
counted in quarters of the step `2 ^ q`, as a fraction of whole numbers, so that the midpoints are
whole as well and every comparison is exact.
-/

namespace SqlSelect

/-- The decimal number `digits * 10 ^ exponent`. -/
structure Decimal where
  digits : Nat
  exponent : Int
  deriving DecidableEq, Repr

namespace Shortest

/-! ## The decimal exponent -/

/-- How many decimal digits a whole number has. -/
def digitCount (n : Nat) : Nat := (Nat.toDigits 10 n).length

/--
The exponent of the leading digit of the positive fraction `a / b`: the greatest `e` with
`10 ^ e ≤ a / b`. Below one it is found from the least whole number that is not below `b / a`.
-/
def leadingExponent (a b : Nat) : Int :=
  if b ≤ a then (digitCount (a / b) : Int) - 1 else -(digitCount ((b - 1) / a) : Int)

/-! ## One grid -/

/--
A number and its interval on a grid: the number is `value / scale` grid steps, and the interval
goes from `low / scale` to `high / scale`, its ends included if `closed`.
-/
structure Window where
  value : Nat
  low : Nat
  high : Nat
  scale : Nat
  closed : Bool

/-- Whether the grid point `d` is in the interval. -/
def Window.holds (w : Window) (d : Nat) : Bool :=
  if w.closed then decide (w.low ≤ d * w.scale) && decide (d * w.scale ≤ w.high)
  else decide (w.low < d * w.scale) && decide (d * w.scale < w.high)

/-- The grid point in the interval that is nearest to the number, the upper one of two. -/
def Window.nearest? (w : Window) : Option Nat :=
  let below := w.value / w.scale
  match w.holds below, w.holds (below + 1) with
  | true, true =>
    some (if (2 * below + 1) * w.scale ≤ 2 * w.value then below + 1 else below)
  | true, false => some below
  | false, true => some (below + 1)
  | false, false => none

/--
The number `m * 2 ^ q` on the grid of step `10 ^ k`. The interval reaches half a step `2 ^ q` to
both sides, but only a quarter down where the numbers below lie twice as close.
-/
def window (m : Nat) (q : Int) (closeBelow : Bool) (k : Int) : Window :=
  let quarter := Nat.pow 2 (q - 2).toNat * Nat.pow 10 (-k).toNat
  { value := 4 * m * quarter
    low := (4 * m - if closeBelow then 1 else 2) * quarter
    high := (4 * m + 2) * quarter
    scale := Nat.pow 2 (2 - q).toNat * Nat.pow 10 k.toNat
    closed := m % 2 == 0 }

/-! ## The search over grids -/

/-- The number on the grid of `n` digits, if one of its points is in the interval. -/
def withDigits? (m : Nat) (q : Int) (closeBelow : Bool) (lead : Int) (n : Nat) :
    Option Decimal :=
  let k := lead - n + 1
  ((window m q closeBelow k).nearest?).map fun d => ⟨d, k⟩

/-- The same number with no zero at the end of its digits. -/
def dropZeros (d : Decimal) : Decimal :=
  if h : d.digits ≠ 0 ∧ d.digits % 10 = 0 then dropZeros ⟨d.digits / 10, d.exponent + 1⟩ else d
termination_by d.digits
decreasing_by exact Nat.div_lt_self (by omega) (by omega)

end Shortest

open Shortest in
/--
The shortest decimal number that names the positive number `m * 2 ^ q` of a format. Some grid of at
most `maxDigits` digits has a point in the interval; should none have, the number is cut off there.
-/
def BinaryFormat.shortest (f : BinaryFormat) (m : Nat) (q : Int) : Decimal :=
  let closeBelow := m == Nat.pow 2 f.fractionBits && decide (f.leastExponent < q)
  let lead := leadingExponent (m * Nat.pow 2 q.toNat) (Nat.pow 2 (-q).toNat)
  let found := (List.range f.maxDigits).findSome? fun n =>
    withDigits? m q closeBelow lead (n + 1)
  dropZeros (found.getD
    (let k := lead - f.maxDigits + 1
     let w := window m q closeBelow k
     ⟨w.value / w.scale, k⟩))

end SqlSelect
