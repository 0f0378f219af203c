import GrammarKit.Text.RangeTable

/-!
# Blank characters

Spaces, tabulators, line ends and the information separators.

* `blankPoints` — the table of blank code points;
* `isBlank` — whether a code point is blank.
-/

namespace GrammarKit.Text

/-- The blank code points. -/
def blankPoints : RangeTable := ⟨#[
    (0x9, 0xd), (0x1c, 0x20), (0x85, 0x85), (0xa0, 0xa0), (0x1680, 0x1680), (0x2000, 0x200a),
    (0x2028, 0x2029), (0x202f, 0x202f), (0x205f, 0x205f), (0x3000, 0x3000)]⟩

/-- Whether a code point is blank. -/
def isBlank (point : Nat) : Bool :=
  blankPoints.contains point

end GrammarKit.Text
