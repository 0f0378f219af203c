/-!
# Tables of code point ranges

A property of characters that a standard fixes is kept as a table of inclusive ranges.

* `RangeTable` — the ranges, in increasing order;
* `RangeTable.find?` — the range that holds a code point;
* `RangeTable.contains` — whether some range holds it.
-/

namespace GrammarKit.Text

/-- Inclusive ranges of code points, in increasing order. -/
structure RangeTable where
  ranges : Array (Nat × Nat)

namespace RangeTable

/-- The range that holds the code point among those from index `lo` to before `hi`. Each step halves
their number. -/
def findBetween (table : RangeTable) (point : Nat) : (steps lo hi : Nat) → Option (Nat × Nat)
  | 0, _, _ => none
  | steps + 1, lo, hi =>
    let mid := (lo + hi) / 2
    if h : mid < table.ranges.size ∧ lo < hi then
      let range := table.ranges[mid]
      if point < range.1 then table.findBetween point steps lo mid
      else if range.2 < point then table.findBetween point steps (mid + 1) hi
      else some range
    else none

/-- The range that holds the code point. -/
def find? (table : RangeTable) (point : Nat) : Option (Nat × Nat) :=
  table.findBetween point (table.ranges.size.log2 + 1) 0 table.ranges.size

/-- Whether some range holds the code point. -/
def contains (table : RangeTable) (point : Nat) : Bool :=
  (table.find? point).isSome

end RangeTable

end GrammarKit.Text
