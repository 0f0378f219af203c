import GrammarKit.Fault
import GrammarKit.Text.Indexed
import GrammarKit.Text.Place

/-!
# Cursors

A cursor is a position in a source text, from before its first character to after its last. It never
changes: moving gives a new cursor, so going back is keeping the old one.

* `Cursor` — a source and a position in it;
* `Cursor.make` — the cursor at a given position, if there is one;
* `Cursor.peek` — the next characters, fewer near the end;
* `Cursor.startsWith` — whether a given text comes next;
* `Cursor.forward` — the cursor some characters further, at most at the end;
* `Cursor.advance` — the same for any integer, which may lead outside the source;
* `Cursor.place`, `Cursor.span` — line and column, and the empty span there.
-/

namespace GrammarKit

/-- A position in a source text. -/
structure Cursor where
  source : IndexedText
  pos : Nat
  pos_le : pos ≤ source.size
deriving DecidableEq

namespace Cursor

/-- The cursor at a given position. -/
def make (source : IndexedText) (pos : Int) : Except Fault Cursor :=
  if h : 0 ≤ pos ∧ pos ≤ source.size then .ok ⟨source, pos.toNat, by omega⟩
  else .error (.cursorOutside pos source.size)

/-- The cursor before the first character. -/
def start (source : IndexedText) : Cursor := ⟨source, 0, Nat.zero_le _⟩

/-- Whether nothing is left. -/
def atEnd (c : Cursor) : Bool := c.pos == c.source.size

/-- The number of characters left. -/
def remaining (c : Cursor) : Nat := c.source.size - c.pos

/-- The next `n` characters, or what is left if that is less. -/
def peek (c : Cursor) (n : Nat) : List Char :=
  (c.source.chars.extract c.pos (c.pos + n)).toList

/-- All characters that are left, as a text. -/
def restText (c : Cursor) : String :=
  c.source.dropped c.pos

/-- Whether the `n` characters from a position on are the first `n` of others. -/
def agree (source : Array Char) (pos : Nat) (chars : Array Char) : (n : Nat) → Bool
  | 0 => true
  | n + 1 => source.getD (pos + n) '\x00' == chars.getD n '\x00' && agree source pos chars n

/-- The most characters that are compared one by one. -/
def maxCompared : Nat := 32

/-- Whether the next characters are those of a text. -/
def startsWith (c : Cursor) (text : IndexedText) : Bool :=
  if text.size ≤ maxCompared then
    text.size ≤ c.remaining && agree c.source.chars c.pos text.chars text.size
  else text.size ≤ c.remaining && c.source.startsAt c.pos text.text

/-- The next character. -/
def next? (c : Cursor) : Option Char := c.source.chars[c.pos]?

/-- The cursor `n` characters further, or at the end if that is nearer. -/
def forward (c : Cursor) (n : Nat) : Cursor :=
  ⟨c.source, min (c.pos + n) c.source.size, Nat.min_le_right _ _⟩

/-- The cursor `count` characters further, at most at the end; before the start there is none. -/
def advance (c : Cursor) (count : Int) : Except Fault Cursor :=
  make c.source (min (c.pos + count) c.source.size)

/-- Line and column of the position. -/
def place (c : Cursor) : Text.Place :=
  c.source.chars.foldl Text.Place.after .start 0 c.pos

/-- The place is the one just after the characters before the position. -/
theorem place_eq (c : Cursor) :
    c.place = Text.Place.ofText (c.source.chars.extract 0 c.pos).toList := by
  rw [place, Text.Place.ofText, Array.foldl_eq_foldl_extract, Array.foldl_toList]

/-- The empty span at the position. -/
def span (c : Cursor) : Span where
  start := c.pos
  stop := c.pos
  line := c.place.line
  column := c.place.column
  start_le_stop := Nat.le_refl _
  line_pos := c.place_eq ▸ (Text.Place.one_le_ofText _).1
  column_pos := c.place_eq ▸ (Text.Place.one_le_ofText _).2

/-- A cursor is at the end if its position is the length of its source. -/
theorem atEnd_iff {c : Cursor} : c.atEnd = true ↔ c.pos = c.source.size := beq_iff_eq

@[simp] theorem forward_source (c : Cursor) (n : Nat) : (c.forward n).source = c.source := rfl

@[simp] theorem forward_pos (c : Cursor) (n : Nat) :
    (c.forward n).pos = min (c.pos + n) c.source.size := rfl

/-- Moving ahead never leads outside the source. -/
theorem advance_natCast (c : Cursor) (n : Nat) : c.advance n = .ok (c.forward n) := by
  rw [advance, make, dif_pos (by omega)]
  congr 2
  omega

/-! ### What is seen ahead -/

/-- Agreement is agreement character by character. -/
theorem agree_iff (source : Array Char) (pos : Nat) (chars : Array Char) (n : Nat) :
    agree source pos chars n = true ↔
      ∀ i < n, source.getD (pos + i) '\x00' = chars.getD i '\x00' := by
  induction n with
  | zero => simp [agree]
  | succ n ih =>
    rw [agree, Bool.and_eq_true, beq_iff_eq, ih, Nat.forall_lt_succ_right, and_comm]

/-- What is seen ahead is a beginning of the characters from the position on. -/
theorem peek_eq_take (c : Cursor) (n : Nat) :
    c.peek n = (c.source.chars.toList.drop c.pos).take n := by
  rw [peek, Array.toList_extract, List.extract_eq_take_drop, Nat.add_sub_cancel_left]

/-- Characters that are compared one by one are what is seen ahead. -/
theorem agree_iff_peek (c : Cursor) (chars : Array Char) :
    (chars.size ≤ c.remaining ∧ agree c.source.chars c.pos chars chars.size = true) ↔
      c.peek chars.size = chars.toList := by
  have hpos := c.pos_le
  rw [agree_iff]
  unfold remaining
  rw [← c.source.size_chars] at *
  constructor
  · rintro ⟨hsize, hchars⟩
    apply List.ext_getElem
    · simp [peek]
      omega
    · intro i _ hi
      rw [Array.length_toList] at hi
      have hi' : c.pos + i < c.source.chars.size := by omega
      simpa [peek, Array.getD, hi, hi'] using hchars i hi
  · intro h
    have hsize : chars.size ≤ c.source.chars.size - c.pos := by
      have := congrArg List.length h
      simp [peek] at this
      omega
    refine ⟨hsize, fun i hi => ?_⟩
    have hi' : c.pos + i < c.source.chars.size := by omega
    have key := congrArg (·[i]?) h
    simp only [peek, Array.getElem?_toList] at key
    rw [Array.getElem?_extract] at key
    simp [hi, hi', show i < min (c.pos + chars.size) c.source.chars.size - c.pos by omega] at key
    simp [Array.getD, hi, hi', key]

/-- A text comes next if its characters are what is seen ahead. -/
theorem startsWith_iff (c : Cursor) (text : IndexedText) :
    c.startsWith text = true ↔ c.peek text.size = text.chars.toList := by
  rw [startsWith]
  split
  · rw [Bool.and_eq_true, decide_eq_true_eq, ← text.size_chars, agree_iff_peek]
  · rw [Bool.and_eq_true, decide_eq_true_eq, IndexedText.startsAt_iff, ← text.toList_chars_eq,
      peek_eq_take, List.prefix_iff_eq_take, Array.length_toList, text.size_chars, eq_comm]
    refine ⟨fun h => h.2, fun h => ⟨?_, h⟩⟩
    have := congrArg List.length h
    simp only [List.length_take, List.length_drop, Array.length_toList, text.size_chars,
      c.source.size_chars] at this
    rw [remaining]
    omega

/-- The rest is all that is seen ahead. -/
theorem restText_eq (c : Cursor) : c.restText = String.ofList (c.peek c.remaining) := by
  rw [restText, IndexedText.dropped_eq, peek, remaining, ← IndexedText.size_chars,
    Array.toList_extract, List.extract_eq_take_drop, Nat.add_sub_cancel_left,
    List.take_of_length_le (by simp)]

end Cursor

end GrammarKit
