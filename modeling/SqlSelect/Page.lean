/-!
# Pages of rows

Rows are cut into pages of equal length, counted from zero. A page is shown by skipping the rows of
the pages before it and taking as many as a page holds.
-/

namespace SqlSelect

/-- A page by its number, and how many rows a page holds. -/
structure Page where
  number : UInt32 := 0
  perPage : UInt32 := 15
  deriving DecidableEq, Repr, Inhabited

namespace Page

/-- How many rows are taken. -/
def limit (p : Page) : UInt32 := p.perPage

/-- How many rows are skipped, or the greatest word of 32 bits if it is more than that. -/
def offset (p : Page) : UInt32 :=
  UInt32.ofNat (min (p.number.toNat * p.perPage.toNat) (UInt32.size - 1))

end Page

end SqlSelect
