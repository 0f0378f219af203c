import GrammarKit.Proofs.Reading
import GrammarKit.Workspace.Blueprint

/-!
# What a character class matches

A character class takes one character or nothing. Which characters it takes is said here for the
classes that are read from patterns.

* `Matcher.Takes` — a matcher takes the characters with a property, one at a time;
* `Matcher.takes_charClass` — a class takes the characters that belong to it;
* `CharClass.read_eq_ok_iff`, `Blueprint.classOf_eq_ok_iff` — which patterns are accepted;
* `CharClass.complement` — the characters that do not belong to a class.
-/

namespace GrammarKit

/-- The matcher takes the next character if it has the property `P`, and gives it as the text of a
character class. It mismatches at other characters and at the end. Nothing else happens. -/
structure Matcher.Takes (m : Matcher) (P : Char → Prop) : Prop where
  atEnd (c : Cursor) (s : Store) (h : c.atEnd = true) : m c s = ⟨[], .mismatch, s⟩
  next (c : Cursor) (s : Store) (h : c.atEnd = false) : ∃ char, c.next? = some char ∧
    (P char → ∃ rest, rest.source = c.source ∧ rest.pos = c.pos + 1 ∧
      m c s = ⟨[], .matched (.tagged .charClass (.text (String.singleton char))) rest, s⟩) ∧
    (¬ P char → m c s = ⟨[], .mismatch, s⟩)

/-- At every other position there is a next character. -/
theorem Cursor.exists_next? {c : Cursor} (h : c.atEnd = false) : ∃ char, c.next? = some char := by
  have hahead : c.ahead ≠ [] := fun hnil => by
    rw [atEnd_iff_ahead.2 hnil] at h
    cases h
  rw [next?_eq_head?]
  exact ⟨_, List.head?_eq_some_head hahead⟩

theorem Cursor.next?_eq_none {c : Cursor} (h : c.atEnd = true) : c.next? = none := by
  rw [next?_eq_head?, atEnd_iff_ahead.1 h, List.head?_nil]

/-- A step over the next character is one. -/
theorem Cursor.forward_one_pos {c : Cursor} (h : c.atEnd = false) :
    (c.forward 1).pos = c.pos + 1 := by
  have hle := c.pos_le
  rw [atEnd, beq_eq_false_iff_ne] at h
  rw [forward_pos]
  omega

/-- A class takes the characters that belong to it. -/
theorem Matcher.takes_charClass {cls : CharClass} {P : Char → Prop}
    (h : ∀ char, cls.contains char = true ↔ P char) : (charClass cls .identity).Takes P where
  atEnd c s hend := by
    rw [charClass, Cursor.next?_eq_none hend]
    rfl
  next c s hend := by
    obtain ⟨char, hnext⟩ := Cursor.exists_next? hend
    refine ⟨char, hnext, fun hchar => ?_, fun hchar => ?_⟩
    · refine ⟨c.forward 1, rfl, Cursor.forward_one_pos hend, ?_⟩
      simp only [charClass, hnext, (h char).2 hchar, if_true]
      rfl
    · have hout : cls.contains char = false := Bool.eq_false_iff.2 fun hin => hchar ((h char).1 hin)
      simp only [charClass, hnext, hout]
      rfl

/-! ### Patterns -/

/-- A pattern is read if it is not empty, has no bare bracket and denotes a class together with the
brackets around it. -/
theorem CharClass.read_eq_ok_iff {names : CharNames} {pattern : List Char} {cls : CharClass} :
    read names pattern = .ok cls ↔ pattern ≠ [] ∧ bareBracket? false 0 pattern = none ∧
      ∃ stop, readBracketed names (pattern ++ [']']) = .ok (cls, stop) := by
  unfold read
  by_cases hempty : pattern = []
  · simp [hempty]
  · rw [if_neg (by simpa using hempty)]
    cases hbare : bareBracket? false 0 pattern with
    | some bracket => simp
    | none =>
      rcases hread : readBracketed names (pattern ++ [']']) with ⟨fault, offset⟩ | ⟨cls', stop⟩
      · simp
      · simp [hempty]

/-- A text is accepted as a class if it can be read. -/
theorem Blueprint.classOf_eq_ok_iff {names : CharNames} {pattern : String} {cls : CharClass} :
    classOf names (.text pattern) = .ok cls ↔
      ∃ read, CharClass.read names pattern.toList = .ok read ∧ read.compact = cls := by
  simp only [classOf]
  cases CharClass.read names pattern.toList with
  | error fault =>
    constructor
    · rintro ⟨⟩
    · rintro ⟨_, ⟨⟩, -⟩
  | ok read =>
    constructor
    · rintro ⟨⟩
      exact ⟨read, rfl, rfl⟩
    · rintro ⟨_, ⟨⟩, rfl⟩
      rfl

/-- A text that cannot be read is refused for the reason why it cannot. -/
theorem Blueprint.classOf_of_error {names : CharNames} {pattern : String} {fault : ClassFault}
    (h : CharClass.read names pattern.toList = .error fault) :
    classOf names (.text pattern) = .error (classFault pattern fault) := by
  simp only [classOf, h]
  rfl

/-- One bracket has a name, no other character has one. -/
def bracketNames : CharNames :=
  fun name => if name = "RIGHT SQUARE BRACKET" then some ']' else none

/-! ### Complements -/

theorem toList_caret (pattern : String) : ("^" ++ pattern).toList = '^' :: pattern.toList :=
  String.toList_append

/-- The characters that do not belong to a class. -/
def CharClass.complement (cls : CharClass) : CharClass := { cls with negated := !cls.negated }

@[simp] theorem CharClass.contains_complement (cls : CharClass) (c : Char) :
    cls.complement.contains c = !cls.contains c := by
  simp [contains, complement]

end GrammarKit
