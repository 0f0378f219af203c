import GrammarKit.Cursor
import Mathlib.Algebra.Ring.Nat
import Mathlib.Data.List.DropRight

/-!
# Lines and columns as coordinates

A position in a text can be told by its offset or by its line and column. Both say the same: each
place in one of the lines is that of one position, and places come in the order of positions.

* `Text.lines`, `Text.lineStart` — the lines of a text, and where each of them starts;
* `Text.Place.IsIn`, `Text.Place.offset`, `Text.Place.Precedes` — the places in the lines, the
  characters before them, and their order;
* `Text.Place.IsIn.offset_lt_offset` — places that precede others have smaller offsets;
* `Text.Place.ofText_cons` — what one more character in front of a text does to the place after it;
* `Text.Place.ofText_take` — the place after some characters is in the lines, and has these before
  it;
* `Text.Place.line_ofText`, `Text.Place.column_ofText` — line feeds and the characters after them
  are counted;
* `Cursor.place_coordinates` — places of cursors.
-/

namespace GrammarKit

namespace Text

/-! ### Lines -/

/-- The lines of a text, without the line feeds between them. -/
def lines (chars : List Char) : List (List Char) := chars.splitOn '\n'

/-- The number of characters before the line with an index. Each line has a line feed after it. -/
def lineStart (lines : List (List Char)) (n : Nat) : Nat :=
  ((lines.take n).map fun line => line.length + 1).sum

theorem lines_cons_feed (chars : List Char) : lines ('\n' :: chars) = [] :: lines chars := by
  rw [lines, List.splitOn_cons_eq_if_modifyHead, if_pos (by decide), lines]

theorem lines_cons_of_ne {c : Char} (hc : c ≠ '\n') (chars : List Char) :
    ∃ line rest, lines chars = line :: rest ∧ lines (c :: chars) = (c :: line) :: rest := by
  obtain ⟨line, rest, h⟩ := List.exists_cons_of_ne_nil (List.splitOn_ne_nil '\n' chars)
  refine ⟨line, rest, h, ?_⟩
  rw [lines, List.splitOn_cons_eq_if_modifyHead, if_neg (by simpa using hc), h,
    List.modifyHead_cons]

section

variable {lines : List (List Char)} {line : List Char} {m n : Nat}

@[simp] theorem lineStart_zero : lineStart lines 0 = 0 := rfl

@[simp] theorem lineStart_cons_succ :
    lineStart (line :: lines) (n + 1) = line.length + 1 + lineStart lines n := by
  simp [lineStart]

theorem lineStart_succ (h : lines[n]? = some line) :
    lineStart lines (n + 1) = lineStart lines n + line.length + 1 := by
  simp [lineStart, List.take_add_one, h, Nat.add_assoc]

theorem lineStart_mono (h : m ≤ n) : lineStart lines m ≤ lineStart lines n := by
  obtain ⟨d, rfl⟩ := Nat.exists_eq_add_of_le h
  simp [lineStart, List.take_add]

end

/-- The lines take all characters, and one line feed more than there are. -/
theorem lineStart_length (chars : List Char) :
    lineStart (lines chars) (lines chars).length = chars.length + 1 := by
  induction chars with
  | nil => rfl
  | cons c chars ih =>
    by_cases hc : c = '\n'
    · rw [hc, lines_cons_feed, List.length_cons, lineStart_cons_succ, ih]
      exact Nat.add_comm ..
    · obtain ⟨line, rest, hlines, hcons⟩ := lines_cons_of_ne hc chars
      rw [hlines, List.length_cons, lineStart_cons_succ] at ih
      rw [hcons, List.length_cons, lineStart_cons_succ, List.length_cons, List.length_cons]
      omega

namespace Place

/-! ### Places in the lines -/

/-- The place is in one of the lines, at most just after the last character. -/
structure IsIn (lines : List (List Char)) (place : Place) : Prop where
  line_pos : 1 ≤ place.line
  line_le : place.line ≤ lines.length
  column_pos : 1 ≤ place.column
  column_le : ∀ line, lines[place.line - 1]? = some line → place.column ≤ line.length + 1

/-- The number of characters before a place. -/
def offset (lines : List (List Char)) (place : Place) : Nat :=
  lineStart lines (place.line - 1) + (place.column - 1)

/-- The place is in a line further up than the other, or further left in the same line. -/
def Precedes (place other : Place) : Prop :=
  place.line < other.line ∨ place.line = other.line ∧ place.column < other.column

variable {lines : List (List Char)} {place other : Place}

theorem precedes_or_eq_or_precedes (place other : Place) :
    place.Precedes other ∨ place = other ∨ other.Precedes place := by
  rcases place with ⟨line, column⟩
  rcases other with ⟨line', column'⟩
  simp only [Precedes, mk.injEq]
  omega

/-- No place in a line is as far as the next line. -/
theorem IsIn.offset_lt (h : place.IsIn lines) :
    place.offset lines < lineStart lines place.line := by
  obtain ⟨hline, hle, hpos, hcolumn⟩ := h
  obtain ⟨line, hget⟩ : ∃ line, lines[place.line - 1]? = some line :=
    ⟨_, List.getElem?_eq_getElem (by omega)⟩
  have hcolumn := hcolumn line hget
  have hnext := lineStart_succ hget
  rw [Nat.sub_add_cancel hline] at hnext
  unfold offset
  omega

/-- Places that precede others have smaller offsets. -/
theorem IsIn.offset_lt_offset (h : place.IsIn lines) (hbefore : place.Precedes other) :
    place.offset lines < other.offset lines := by
  rcases hbefore with hline | ⟨hline, hcolumn⟩
  · have hmono : lineStart lines place.line ≤ lineStart lines (other.line - 1) :=
      lineStart_mono (by omega)
    have hlt := h.offset_lt
    unfold offset at hlt ⊢
    omega
  · have hpos := h.column_pos
    unfold offset
    rw [hline]
    omega

/-- Places with the same offset are the same. -/
theorem IsIn.eq_of_offset_eq (h : place.IsIn lines) (hother : other.IsIn lines)
    (heq : place.offset lines = other.offset lines) : place = other := by
  rcases precedes_or_eq_or_precedes place other with hbefore | rfl | hbefore
  · exact absurd heq (Nat.ne_of_lt (h.offset_lt_offset hbefore))
  · rfl
  · exact absurd heq.symm (Nat.ne_of_lt (hother.offset_lt_offset hbefore))

/-- The order of places is that of their offsets. -/
theorem IsIn.precedes_iff (h : place.IsIn lines) (hother : other.IsIn lines) :
    place.Precedes other ↔ place.offset lines < other.offset lines := by
  refine ⟨h.offset_lt_offset, fun hlt => ?_⟩
  rcases precedes_or_eq_or_precedes place other with hbefore | rfl | hbefore
  · exact hbefore
  · exact absurd hlt (Nat.lt_irrefl _)
  · exact absurd hlt (Nat.lt_asymm (hother.offset_lt_offset hbefore))

/-- No place has more characters before it than there are. -/
theorem IsIn.offset_le {chars : List Char} (h : place.IsIn (Text.lines chars)) :
    place.offset (Text.lines chars) ≤ chars.length := by
  have hlt := h.offset_lt
  have hmono : lineStart (Text.lines chars) place.line ≤ chars.length + 1 :=
    (lineStart_mono h.line_le).trans_eq (lineStart_length chars)
  omega

/-! ### The place after a text -/

/-- The place after a text that has one more character in front, `place` being the one without
it. -/
def behind (c : Char) (place : Place) : Place :=
  if c = '\n' then ⟨place.line + 1, place.column⟩
  else if place.line = 1 then ⟨1, place.column + 1⟩
  else place

theorem after_behind (c d : Char) (h : 1 ≤ place.line) :
    (place.behind c).after d = (place.after d).behind c := by
  unfold behind after
  split_ifs <;> simp_all

theorem ofText_cons (c : Char) (chars : List Char) :
    ofText (c :: chars) = (ofText chars).behind c := by
  induction chars using List.reverseRecOn with
  | nil => simp [ofText, behind, after, start]
  | append_singleton chars d ih =>
    rw [← List.cons_append, ofText_concat, ih, after_behind c d (one_le_ofText chars).1,
      ofText_concat]

/-- One more character in front of the text is one more before each place. -/
theorem IsIn.behind {chars : List Char} (h : place.IsIn (Text.lines chars)) (c : Char) :
    (place.behind c).IsIn (Text.lines (c :: chars)) ∧
      (place.behind c).offset (Text.lines (c :: chars)) = place.offset (Text.lines chars) + 1 := by
  obtain ⟨hline, hle, hpos, hcolumn⟩ := h
  obtain ⟨n, hn⟩ := Nat.exists_eq_add_of_le' hline
  rw [hn, Nat.add_sub_cancel] at hcolumn
  by_cases hc : c = '\n'
  · rw [hc, lines_cons_feed, Place.behind, if_pos rfl]
    refine ⟨⟨Nat.le_add_left .., Nat.succ_le_succ hle, hpos, fun line => ?_⟩, ?_⟩
    · simpa [hn] using hcolumn line
    · simp only [offset, hn, Nat.add_sub_cancel, lineStart_cons_succ, List.length_nil]
      omega
  · obtain ⟨first, rest, hlines, hcons⟩ := lines_cons_of_ne hc chars
    rw [hlines] at hle hcolumn ⊢
    rw [hcons, Place.behind, if_neg hc]
    cases n with
    | zero =>
      have hfirst := hcolumn first rfl
      rw [if_pos hn]
      refine ⟨⟨Nat.le_refl 1, Nat.le_add_left .., Nat.le_add_left .., ?_⟩, ?_⟩
      · rintro _ ⟨⟩
        exact Nat.succ_le_succ hfirst
      · simp only [offset, hn, Nat.sub_self, lineStart_zero]
        omega
    | succ n =>
      rw [if_neg (by omega)]
      refine ⟨⟨hline, hle, hpos, fun line => ?_⟩, ?_⟩
      · simpa [hn] using hcolumn line
      · simp only [offset, hn, Nat.add_sub_cancel, lineStart_cons_succ, List.length_cons]
        omega

/-- The place after some characters of a text is in its lines and has these characters before it.
The induction is on the text, from its first character on. -/
theorem ofText_take {chars : List Char} {pos : Nat} (h : pos ≤ chars.length) :
    (ofText (chars.take pos)).IsIn (Text.lines chars) ∧
      (ofText (chars.take pos)).offset (Text.lines chars) = pos := by
  induction chars generalizing pos with
  | nil =>
    obtain rfl := Nat.le_zero.1 h
    exact ⟨⟨Nat.le_refl 1, Nat.le_refl 1, Nat.le_refl 1, fun _ _ => Nat.le_add_left ..⟩, rfl⟩
  | cons c chars ih =>
    cases pos with
    | zero =>
      refine ⟨⟨Nat.le_refl 1, ?_, Nat.le_refl 1, fun _ _ => Nat.le_add_left ..⟩, rfl⟩
      exact List.length_pos_of_ne_nil (List.splitOn_ne_nil _ _)
    | succ pos =>
      obtain ⟨hin, hoffset⟩ := ih (Nat.le_of_succ_le_succ h)
      rw [List.take_succ_cons, ofText_cons]
      exact ⟨(hin.behind c).1, (hin.behind c).2.trans (congrArg Nat.succ hoffset)⟩

/-- The line is the number of line feeds before, and one more. -/
theorem line_ofText (chars : List Char) : (ofText chars).line = chars.count '\n' + 1 := by
  induction chars using List.reverseRecOn with
  | nil => rfl
  | append_singleton chars c ih =>
    rw [ofText_concat, List.count_append, after]
    split
    · next hc => simp [ih, hc]
    · next hc => simp [ih, hc]

/-- The column is the number of characters after the last line feed, and one more. -/
theorem column_ofText (chars : List Char) :
    (ofText chars).column = (chars.rtakeWhile (· ≠ '\n')).length + 1 := by
  induction chars using List.reverseRecOn with
  | nil => rfl
  | append_singleton chars c ih =>
    rw [ofText_concat, List.rtakeWhile_concat, after]
    split
    · next hc => simp [hc]
    · next hc => simp [ih, hc]

end Place

end Text

namespace Cursor

/-- The place of a cursor is the one after the characters before it. -/
theorem place_eq_ofText_take (c : Cursor) :
    c.place = Text.Place.ofText (c.source.text.toList.take c.pos) := by
  rw [place_eq, Array.toList_extract, List.extract_eq_take_drop, IndexedText.toList_chars_eq,
    List.drop_zero, Nat.sub_zero]

/-- **Lines and columns are coordinates.** Take any source and its lines. The line of a cursor is
the number of line feeds before it and one more, the column is the number of characters after the
last of these and one more, and

* this is a place in the lines, from 1 to their number and from 1 to one after the last character of
  the line, and the cursor has as many characters before it as the place: all of the lines before,
  each with its line feed, and those of its own line up to the column;
* each place in the lines is the place of exactly one cursor;
* a cursor is before another if its line is, or if its column is and their lines are the same;
* so the position, the line and the column always make a span, with which nothing is wrong. -/
theorem place_coordinates (source : IndexedText) :
    let lines := Text.lines source.text.toList
    (∀ c : Cursor, c.source = source →
      let before := source.text.toList.take c.pos
      c.place.line = before.count '\n' + 1 ∧
      c.place.column = (before.rtakeWhile (· ≠ '\n')).length + 1 ∧
      c.place.IsIn lines ∧ c.pos = c.place.offset lines) ∧
    (∀ place : Text.Place, place.IsIn lines → ∃! c : Cursor, c.source = source ∧ c.place = place) ∧
    (∀ c c' : Cursor, c.source = source → c'.source = source →
      (c.pos < c'.pos ↔ c.place.Precedes c'.place)) ∧
    ∀ c : Cursor, c.source = source →
      Span.make c.pos c.pos c.place.line c.place.column = .ok c.span := by
  intro lines
  have hplace : ∀ c : Cursor, c.source = source →
      c.place.IsIn lines ∧ c.place.offset lines = c.pos := by
    rintro c rfl
    rw [place_eq_ofText_take]
    exact Text.Place.ofText_take c.pos_le
  refine ⟨?_, ?_, ?_, fun c _ => Span.make_self c.span⟩
  · rintro c rfl
    obtain ⟨hin, hoffset⟩ := hplace c rfl
    refine ⟨?_, ?_, hin, hoffset.symm⟩
    · rw [place_eq_ofText_take, Text.Place.line_ofText]
    · rw [place_eq_ofText_take, Text.Place.column_ofText]
  · intro place hin
    refine ⟨⟨source, place.offset lines, hin.offset_le⟩, ⟨rfl, ?_⟩, ?_⟩
    · obtain ⟨hin', hoffset⟩ := hplace ⟨source, place.offset lines, hin.offset_le⟩ rfl
      exact hin'.eq_of_offset_eq hin hoffset
    · rintro c ⟨rfl, rfl⟩
      simp only [(hplace c rfl).2]
  · intro c c' hc hc'
    rw [(hplace c hc).1.precedes_iff (hplace c' hc').1, (hplace c hc).2, (hplace c' hc').2]

/-- A line feed belongs to the line that it ends. -/
example : (List.range 5).map (fun n => ((start "a\n\nb").forward n).place) =
    [⟨1, 1⟩, ⟨1, 2⟩, ⟨2, 1⟩, ⟨3, 1⟩, ⟨3, 2⟩] := by decide

end Cursor

end GrammarKit
