import GrammarKit.Proofs.CharClass.Complement

/-!
# Written classes

A class given by characters and ranges is written as a pattern: one after the other, with a hyphen
inside each range, and a backslash before each character that has a meaning in patterns. Whatever
stands next to each other, the pattern denotes the class that was written.

* `WrittenItem` — a character or a range, with `WrittenItem.Holds` for what belongs to it;
* `CharClass.escape`, `WrittenItem.chars`, `writtenPattern` — how they are written;
* `Scan.ofChars_escape` — a character that is written is an atom;
* `readItems_written` — the items that are read are those that were written;
* `classOf_written` — patterns with a caret and without one match accordingly.
-/

namespace GrammarKit

/-! ### Writing -/

namespace CharClass

/-- The characters that have a meaning in patterns. -/
def isSpecial (c : Char) : Bool := c ∈ ['\\', '[', ']', '^', '-']

/-- A character as it is written in a pattern. -/
def escape (c : Char) : List Char := if isSpecial c then ['\\', c] else [c]

theorem escape_cases (c : Char) :
    ((c = '\\' ∨ c = '[' ∨ c = ']' ∨ c = '^' ∨ c = '-') ∧ escape c = ['\\', c]) ∨
      (c ≠ '\\' ∧ c ≠ '[' ∧ c ≠ ']' ∧ c ≠ '^' ∧ c ≠ '-') ∧ escape c = [c] := by
  by_cases h : isSpecial c = true
  · exact Or.inl ⟨by simpa [isSpecial] using h, if_pos h⟩
  · exact Or.inr ⟨by simpa [isSpecial] using h, if_neg h⟩

/-- A character that has a meaning is not written alone. -/
theorem escape_ne_singleton {c : Char} (h : isSpecial c = true) (c' : Char) : escape c' ≠ [c] := by
  intro heq
  unfold escape at heq
  split at heq
  · cases heq
  · cases heq
    contradiction

end CharClass

open CharClass

/-- A character, or a range of them. -/
inductive WrittenItem where
  | single (c : Char)
  | span (lo hi : Char) (lo_le_hi : lo ≤ hi)

namespace WrittenItem

/-- How the item is written. -/
def chars : WrittenItem → List Char
  | single c => escape c
  | span lo hi _ => escape lo ++ '-' :: escape hi

/-- The character belongs to the item. -/
def Holds : WrittenItem → Char → Prop
  | single c, char => char = c
  | span lo hi _, char => lo ≤ char ∧ char ≤ hi

/-- The item of a class that is meant. -/
def item : WrittenItem → ClassItem
  | single c => .range c.toNat c.toNat
  | span lo hi _ => .range lo.toNat hi.toNat

/-- Characters are compared by their code points. -/
theorem contains_item (i : WrittenItem) (char : Char) :
    i.item.contains char.toNat = true ↔ i.Holds char := by
  cases i with
  | single c =>
    simp only [item, ClassItem.contains, Bool.and_eq_true, decide_eq_true_eq, Holds]
    constructor
    · rintro ⟨hle, hge⟩
      exact Char.toNat_inj.1 (Nat.le_antisymm hge hle)
    · rintro rfl
      exact ⟨Nat.le_refl _, Nat.le_refl _⟩
  | span lo hi h =>
    simp only [item, ClassItem.contains, Bool.and_eq_true, decide_eq_true_eq, Holds]
    exact Iff.rfl

end WrittenItem

/-- The pattern in which items are written one after the other. -/
def writtenPattern (items : List WrittenItem) : List Char := items.flatMap WrittenItem.chars

@[simp] theorem writtenPattern_nil : writtenPattern [] = [] := rfl

@[simp] theorem writtenPattern_cons (i : WrittenItem) (items : List WrittenItem) :
    writtenPattern (i :: items) = i.chars ++ writtenPattern items := rfl

/-- Each item is written with its first character in front. -/
theorem WrittenItem.exists_chars_eq (i : WrittenItem) : ∃ c rest, i.chars = escape c ++ rest := by
  cases i with
  | single c => exact ⟨c, [], (List.append_nil _).symm⟩
  | span lo hi h => exact ⟨lo, '-' :: escape hi, rfl⟩

/-! ### Scanning -/

variable {names : CharNames}

/-- The atom of a character that is written. -/
def escapeAtom (c : Char) (pos : Nat) : Atom :=
  ⟨.point c.toNat, escape c, pos + (escape c).length⟩

/-- A character other than a backslash is an atom. -/
theorem Scan.ofChars_cons {c : Char} (h : c ≠ '\\') (pos : Nat) (chars : List Char) :
    ofChars names pos (c :: chars) =
      .atom ⟨.point c.toNat, [c], pos + 1⟩ (ofChars names (pos + 1) chars) := by
  rw [ofChars, run]
  simp only [ScanState.feed, ScanState.feedPlain, if_neg h]
  rfl

/-- A character that is written is an atom. -/
theorem Scan.ofChars_escape (c : Char) (pos : Nat) (chars : List Char) :
    ofChars names pos (escape c ++ chars) =
      .atom (escapeAtom c pos) (ofChars names (pos + (escape c).length) chars) := by
  rcases escape_cases c with ⟨hspecial, hescape⟩ | ⟨⟨hbackslash, -⟩, hescape⟩
  · rcases hspecial with rfl | rfl | rfl | rfl | rfl <;> rfl
  · rw [escapeAtom, hescape, List.singleton_append, ofChars_cons hbackslash]
    rfl

/-- After an item that is written there is no hyphen. -/
theorem noHyphen_written (items : List WrittenItem) (pos : Nat) :
    (Scan.ofChars names pos (writtenPattern items ++ [']'])).NoHyphen := by
  cases items with
  | nil =>
    rw [writtenPattern_nil, List.nil_append, Scan.ofChars_cons (by decide)]
    exact (by decide : [']'] ≠ ['-'])
  | cons i items =>
    obtain ⟨c, rest, hchars⟩ := i.exists_chars_eq
    rw [writtenPattern_cons, hchars, List.append_assoc, List.append_assoc, Scan.ofChars_escape]
    exact escape_ne_singleton rfl c

/-- **What is read is what was written.** The induction is on the items. After each of them there is
an atom that is no hyphen, so no items are joined. -/
theorem readItems_written (items : List WrittenItem) {first : Bool} (pos : Nat)
    (h : first = true → items ≠ []) :
    readItems first (.ofChars names pos (writtenPattern items ++ [']'])) =
      .ok (items.map WrittenItem.item, pos + (writtenPattern items).length + 1) := by
  have hopen (c : Char) (first : Bool) (pos : Nat) : ¬ (escapeAtom c pos).Closes first :=
    fun hcloses => escape_ne_singleton rfl c hcloses.1
  induction items generalizing first pos with
  | nil =>
    have hfirst : first = false := Bool.eq_false_iff.2 fun htrue => h htrue rfl
    rw [writtenPattern_nil, List.nil_append, Scan.ofChars_cons (by decide),
      readItems_of_closes ⟨rfl, by simp [hfirst]⟩]
    rfl
  | cons i items ih =>
    have hrest (pos : Nat) : readItems false (.ofChars names pos (writtenPattern items ++ [']'])) =
        .ok (items.map WrittenItem.item, pos + (writtenPattern items).length + 1) :=
      ih pos nofun
    rw [writtenPattern_cons, List.append_assoc, List.map_cons]
    cases i with
    | single c =>
      rw [WrittenItem.chars, Scan.ofChars_escape,
        readItems_item (hopen c first pos) (noHyphen_written items _), hrest]
      simp [Except.map, WrittenItem.item, escapeAtom, Meaning.item]
      omega
    | span lo hi hle =>
      have hrange (pos pos' : Nat) : range? (escapeAtom lo pos) (escapeAtom hi pos') =
          some (.range lo.toNat hi.toNat) := if_pos hle
      rw [WrittenItem.chars, List.append_assoc, Scan.ofChars_escape, List.cons_append,
        Scan.ofChars_cons (by decide), Scan.ofChars_escape,
        readItems_range (hopen lo first pos) rfl (escape_ne_singleton rfl hi) (hrange _ _), hrest]
      simp [Except.map, WrittenItem.item]
      omega

/-! ### Patterns -/

/-- Brackets are not written without a backslash. -/
theorem bareBracket?_written (items : List WrittenItem) (offset : Nat) :
    bareBracket? false offset (writtenPattern items) = none := by
  have hescape (c : Char) (offset : Nat) (chars : List Char) :
      bareBracket? false offset (escape c ++ chars) =
        bareBracket? false (offset + (escape c).length) chars := by
    rcases escape_cases c with ⟨-, hescape⟩ | ⟨⟨hbackslash, hopen, hclose, -⟩, hescape⟩
    · rw [hescape]
      rfl
    · rw [hescape, List.singleton_append, bareBracket?]
      simp [hbackslash, hopen, hclose]
  induction items generalizing offset with
  | nil => rfl
  | cons i items ih =>
    rw [writtenPattern_cons]
    cases i with
    | single c =>
      rw [WrittenItem.chars, hescape]
      exact ih _
    | span lo hi h =>
      rw [WrittenItem.chars, List.append_assoc, hescape, List.cons_append, bareBracket?]
      simp only [Char.reduceEq, Bool.false_eq_true, or_self, if_false]
      rw [hescape]
      exact ih _

/-- The first character that is written is no caret. -/
theorem head?_writtenPattern (items : List WrittenItem) :
    (writtenPattern items).head? ≠ some '^' := by
  cases items with
  | nil => nofun
  | cons i items =>
    obtain ⟨c, rest, hchars⟩ := i.exists_chars_eq
    rw [writtenPattern_cons, hchars]
    rcases escape_cases c with ⟨-, hescape⟩ | ⟨⟨-, -, -, hcaret, -⟩, hescape⟩
    · simp [hescape]
    · simpa [hescape] using hcaret

theorem writtenPattern_ne_nil {items : List WrittenItem} (h : items ≠ []) :
    writtenPattern items ≠ [] := by
  obtain ⟨i, items, rfl⟩ := List.exists_cons_of_ne_nil h
  obtain ⟨c, rest, hchars⟩ := i.exists_chars_eq
  rw [writtenPattern_cons, hchars]
  rcases escape_cases c with ⟨-, hescape⟩ | ⟨-, hescape⟩ <;> simp [hescape]

/-- A pattern that is written is read as the class that is meant. -/
theorem CharClass.read_written {items : List WrittenItem} (h : items ≠ []) :
    read names (writtenPattern items) = .ok ⟨false, items.map WrittenItem.item⟩ := by
  have hne := writtenPattern_ne_nil h
  have hcaret := head?_writtenPattern items
  exact read_eq_ok_iff.2 ⟨hne, bareBracket?_written items 0, _,
    (readBracketed_eq_ok_iff hne hcaret).2 ⟨_, readItems_written items 1 fun _ => h, rfl⟩⟩

theorem CharClass.contains_written (items : List WrittenItem) (char : Char) :
    (CharClass.mk false (items.map WrittenItem.item)).contains char = true ↔
      ∃ i ∈ items, i.Holds char := by
  simp [contains, WrittenItem.contains_item]

/-- **A class that is written is the class that is read.** Let items be written one after the other,
with backslashes before the characters that have a meaning. The pattern is accepted, and takes the
characters that belong to one of the items, one at a time. With a caret in front it is accepted,
too, and takes all others. At the end neither matches. -/
theorem classOf_written (names : CharNames) {items : List WrittenItem} (h : items ≠ []) :
    ∃ cls neg,
      Blueprint.classOf names (.text (String.ofList (writtenPattern items))) = .ok cls ∧
      Blueprint.classOf names (.text ("^" ++ String.ofList (writtenPattern items))) = .ok neg ∧
      (Matcher.charClass cls .identity).Takes (fun char => ∃ i ∈ items, i.Holds char) ∧
      (Matcher.charClass neg .identity).Takes (fun char => ¬ ∃ i ∈ items, i.Holds char) := by
  have hread := @CharClass.read_written names items h
  have hcaret := CharClass.read_caret_of_read (head?_writtenPattern items) hread
  have hcls : Blueprint.classOf names (.text (String.ofList (writtenPattern items))) =
      .ok (CharClass.mk false (items.map WrittenItem.item)).compact :=
    Blueprint.classOf_eq_ok_iff.2 ⟨_, by rwa [String.toList_ofList], rfl⟩
  have hneg : Blueprint.classOf names (.text ("^" ++ String.ofList (writtenPattern items))) =
      .ok (CharClass.mk false (items.map WrittenItem.item)).complement.compact :=
    Blueprint.classOf_eq_ok_iff.2 ⟨_, by rwa [toList_caret, String.toList_ofList], rfl⟩
  refine ⟨_, _, hcls, hneg, Matcher.takes_charClass fun char => ?_,
    Matcher.takes_charClass fun char => ?_⟩
  · rw [CharClass.contains_compact, CharClass.contains_written]
  · rw [CharClass.contains_compact, CharClass.contains_complement, ← CharClass.contains_written]
    simp

/-- Characters with a meaning, and ranges from one of them to another, side by side. They are
written `\-\[-\]\-\^*-\-`. -/
def specialItems : List WrittenItem :=
  [.single '-', .span '[' ']' (by decide), .single '-', .single '^', .span '*' '-' (by decide)]

theorem classOf_written_special :
    let pattern := String.ofList (writtenPattern specialItems)
    specialItems ≠ [] ∧ ∃ cls neg,
      Blueprint.classOf bracketNames (.text pattern) = .ok cls ∧
      Blueprint.classOf bracketNames (.text ("^" ++ pattern)) = .ok neg ∧
      (Matcher.charClass cls .identity).Takes (fun char => ∃ i ∈ specialItems, i.Holds char) ∧
      (Matcher.charClass neg .identity).Takes
        (fun char => ¬ ∃ i ∈ specialItems, i.Holds char) :=
  ⟨by decide, classOf_written bracketNames (by decide)⟩

end GrammarKit
