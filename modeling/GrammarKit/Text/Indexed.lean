/-!
# Texts with an index

A text is read both as a whole and character by character. An index keeps its characters, so that
each of them is found at once, and their offsets, so that a part of the text is copied without going
through its characters. Neither is made before it is needed.

* `IndexedText` — a text with an index;
* `IndexedText.chars` — its characters;
* `IndexedText.dropped` — the text from an index on;
* `IndexedText.startsAt` — whether another text comes at an index.
-/

namespace GrammarKit

namespace Text

/-- The characters of a text. -/
def chars (text : String) : Array Char :=
  text.toList.toArray

@[simp] theorem toList_chars (text : String) : (chars text).toList = text.toList := by
  simp [chars]

@[simp] theorem size_chars (text : String) : (chars text).size = text.length := by
  rw [← Array.length_toList, toList_chars, String.length_toList]

/-- The number of bytes of several characters. -/
def byteCount : List Char → Nat
  | [] => 0
  | c :: chars => c.utf8Size + byteCount chars

theorem byteCount_append (chars others : List Char) :
    byteCount (chars ++ others) = byteCount chars + byteCount others := by
  induction chars with
  | nil => simp [byteCount]
  | cons c chars ih => simp [byteCount, ih, Nat.add_assoc]

/-- The bytes of a text are those of its characters. -/
theorem utf8ByteSize_ofList (chars : List Char) :
    (String.ofList chars).utf8ByteSize = byteCount chars := by
  induction chars with
  | nil => rfl
  | cons c chars ih =>
    rw [show c :: chars = [c] ++ chars from rfl, String.ofList_append,
      String.utf8ByteSize_append, ih, byteCount_append, ← String.singleton_eq_ofList,
      String.utf8ByteSize_singleton, byteCount, byteCount, Nat.add_zero]

/-- Every character has at least one byte. -/
theorem length_le_byteCount (chars : List Char) : chars.length ≤ byteCount chars := by
  induction chars with
  | nil => exact Nat.le_refl 0
  | cons c chars ih =>
    have := c.utf8Size_pos
    rw [List.length_cons, byteCount]
    omega

/-- The offsets so far, and the one of the next character, after one more character. -/
def addOffset (offsets : Array Nat × Nat) (c : Char) : Array Nat × Nat :=
  (offsets.1.push offsets.2, offsets.2 + c.utf8Size)

/-- The offset of each character of a text in bytes. -/
def offsets (text : String) : Array Nat :=
  (text.toList.foldl addOffset (#[], 0)).1

/-- The offsets of characters of which the first has a given one. -/
def offsetsFrom (first : Nat) : List Char → List Nat
  | [] => []
  | c :: chars => first :: offsetsFrom (first + c.utf8Size) chars

theorem toList_foldl_addOffset (chars : List Char) (offsets : Array Nat) (next : Nat) :
    (chars.foldl addOffset (offsets, next)).1.toList =
      offsets.toList ++ offsetsFrom next chars := by
  induction chars generalizing offsets next with
  | nil => simp [offsetsFrom]
  | cons c chars ih => simp [addOffset, offsetsFrom, ih]

/-- An offset is the number of bytes before the character. -/
theorem getElem?_offsetsFrom (chars : List Char) (first i : Nat) (h : i < chars.length) :
    (offsetsFrom first chars)[i]? = some (first + byteCount (chars.take i)) := by
  induction chars generalizing first i with
  | nil => simp at h
  | cons c chars ih =>
    cases i with
    | zero => simp [offsetsFrom, byteCount]
    | succ i =>
      rw [List.length_cons] at h
      simp [offsetsFrom, byteCount, ih _ i (by omega), Nat.add_assoc]

theorem length_offsetsFrom (first : Nat) (chars : List Char) :
    (offsetsFrom first chars).length = chars.length := by
  induction chars generalizing first with
  | nil => rfl
  | cons c chars ih => rw [offsetsFrom, List.length_cons, List.length_cons, ih]

theorem toList_offsets (text : String) : (offsets text).toList = offsetsFrom 0 text.toList := by
  rw [offsets, toList_foldl_addOffset, List.nil_append]

end Text

/-- A text whose characters can be found by their index. -/
structure IndexedText where
  text : String
  charIndex : Thunk (Array Char)
  offsetIndex : Thunk (Array Nat)
  charIndex_eq : charIndex.get = Text.chars text
  offsetIndex_eq : offsetIndex.get = Text.offsets text

namespace IndexedText

/-- A text with its index. -/
def ofText (text : String) : IndexedText where
  text := text
  charIndex := Thunk.mk fun _ => Text.chars text
  offsetIndex := Thunk.mk fun _ => Text.offsets text
  charIndex_eq := rfl
  offsetIndex_eq := rfl

instance : Coe String IndexedText := ⟨ofText⟩

/-- A text has only one index. -/
theorem eq_of_text_eq {t u : IndexedText} (h : t.text = u.text) : t = u := by
  obtain ⟨text, chars, offsets, hc, ho⟩ := t
  obtain ⟨text', chars', offsets', hc', ho'⟩ := u
  cases h
  cases Thunk.ext (hc.trans hc'.symm)
  cases Thunk.ext (ho.trans ho'.symm)
  rfl

instance : DecidableEq IndexedText := fun t u =>
  decidable_of_iff (t.text = u.text) ⟨eq_of_text_eq, congrArg text⟩

/-- The characters. -/
def chars (t : IndexedText) : Array Char := t.charIndex.get

/-- The number of characters. -/
def size (t : IndexedText) : Nat := t.text.length

@[simp] theorem text_ofText (text : String) : (ofText text).text = text := rfl

@[simp] theorem chars_ofText (text : String) : (ofText text).chars = Text.chars text := rfl

@[simp] theorem size_ofText (text : String) : (ofText text).size = text.length := rfl

/-- The characters are those of the text. -/
theorem toList_chars_eq (t : IndexedText) : t.chars.toList = t.text.toList := by
  rw [chars, t.charIndex_eq, Text.toList_chars]

theorem size_chars (t : IndexedText) : t.chars.size = t.size := by
  rw [chars, t.charIndex_eq, Text.size_chars, size]

/-- The text is made of the characters. -/
theorem ofList_chars (t : IndexedText) : String.ofList t.chars.toList = t.text := by
  rw [toList_chars_eq, String.ofList_toList]

/-- The offset of a character in bytes. If all characters have one byte, it is the index. -/
def byteOffset (t : IndexedText) (n : Nat) : Nat :=
  if t.text.utf8ByteSize = t.size then min n t.size
  else t.offsetIndex.get.getD n t.text.utf8ByteSize

/-- The offset is the number of bytes before the character. -/
theorem byteOffset_eq (t : IndexedText) (n : Nat) :
    t.byteOffset n = (String.ofList (t.text.toList.take n)).utf8ByteSize := by
  have htext : t.text.utf8ByteSize = Text.byteCount t.text.toList := by
    rw [← Text.utf8ByteSize_ofList, String.ofList_toList]
  rw [Text.utf8ByteSize_ofList, byteOffset]
  split
  · next h =>
    have hsplit : Text.byteCount t.text.toList =
        Text.byteCount (t.text.toList.take n) + Text.byteCount (t.text.toList.drop n) := by
      rw [← Text.byteCount_append, List.take_append_drop]
    have h₁ := Text.length_le_byteCount (t.text.toList.take n)
    have h₂ := Text.length_le_byteCount (t.text.toList.drop n)
    simp only [List.length_take, List.length_drop, String.length_toList, size] at h h₁ h₂ ⊢
    omega
  · rw [t.offsetIndex_eq, Array.getD_eq_getD_getElem?, ← Array.getElem?_toList,
      Text.toList_offsets]
    by_cases hn : n < t.text.toList.length
    · rw [Text.getElem?_offsetsFrom _ _ _ hn, Option.getD_some, Nat.zero_add]
    · rw [List.getElem?_eq_none (by rw [Text.length_offsetsFrom]; omega), Option.getD_none,
        List.take_of_length_le (by omega), htext]

/-- At the offset a character begins, or the text ends. -/
theorem isValid_byteOffset (t : IndexedText) (n : Nat) :
    String.Pos.Raw.IsValid t.text ⟨t.byteOffset n⟩ := by
  rw [String.Pos.Raw.isValid_iff_exists_append]
  refine ⟨String.ofList (t.text.toList.take n), String.ofList (t.text.toList.drop n), ?_, ?_⟩
  · rw [← String.ofList_append, List.take_append_drop, String.ofList_toList]
  · exact congrArg String.Pos.Raw.mk (t.byteOffset_eq n)

/-- The part of the text from an index on. -/
def sliceAt (t : IndexedText) (n : Nat) : String.Slice :=
  t.text.sliceFrom (t.text.pos ⟨t.byteOffset n⟩ (t.isValid_byteOffset n))

/-- The text from an index on. -/
def dropped (t : IndexedText) (n : Nat) : String :=
  (t.sliceAt n).copy

/-- The text from an index on has the characters from there on. -/
theorem dropped_eq (t : IndexedText) (n : Nat) :
    t.dropped n = String.ofList (t.chars.toList.drop n) := by
  have h : (t.text.pos ⟨t.byteOffset n⟩ (t.isValid_byteOffset n)).Splits
      (String.ofList (t.text.toList.take n)) (String.ofList (t.text.toList.drop n)) := by
    refine ⟨?_, ?_⟩
    · rw [← String.ofList_append, List.take_append_drop, String.ofList_toList]
    · exact congrArg String.Pos.Raw.mk (t.byteOffset_eq n)
  rw [toList_chars_eq]
  exact (String.Pos.splits _).eq_right h

/-- Whether the text from an index on starts with another one. -/
def startsAt (t : IndexedText) (n : Nat) (other : String) : Bool :=
  (t.sliceAt n).startsWith other

/-- It does if the characters from there on do. -/
theorem startsAt_iff (t : IndexedText) (n : Nat) (other : String) :
    t.startsAt n other = true ↔ other.toList <+: t.chars.toList.drop n := by
  rw [startsAt, String.Slice.startsWith_string_iff, ← dropped, dropped_eq, String.toList_ofList]

end IndexedText

end GrammarKit
