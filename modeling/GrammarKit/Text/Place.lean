/-!
# Places in a text

A place is a line and a column, both counted from one; a line ends after each line feed.

* `Place` — a line and a column;
* `Place.after` — the place after one more character;
* `Place.ofText` — the place just after a text.
-/

namespace GrammarKit.Text

/-- A line and a column, counted from one. -/
structure Place where
  line : Nat
  column : Nat
deriving DecidableEq, Repr

namespace Place

/-- The place before the first character. -/
def start : Place := ⟨1, 1⟩

/-- The place after one more character. -/
def after (place : Place) (c : Char) : Place :=
  if c = '\n' then ⟨place.line + 1, 1⟩ else ⟨place.line, place.column + 1⟩

/-- The place just after a text. -/
def ofText (chars : List Char) : Place :=
  chars.foldl after start

@[simp] theorem ofText_nil : ofText [] = start := rfl

@[simp] theorem ofText_concat (chars : List Char) (c : Char) :
    ofText (chars ++ [c]) = (ofText chars).after c := by
  simp [ofText]

/-- Lines and columns are at least one. -/
theorem one_le_ofText (chars : List Char) :
    1 ≤ (ofText chars).line ∧ 1 ≤ (ofText chars).column := by
  suffices h : ∀ p : Place, 1 ≤ p.line ∧ 1 ≤ p.column →
      1 ≤ (chars.foldl after p).line ∧ 1 ≤ (chars.foldl after p).column from
    h _ (by decide)
  induction chars with
  | nil => intro p h; exact h
  | cons c chars ih =>
    intro p h
    refine ih _ ?_
    unfold after
    split
    · exact ⟨by simp, Nat.le_refl 1⟩
    · exact ⟨h.1, by simp⟩

end Place

end GrammarKit.Text
