import GrammarKit.Proofs.CharClass.Items
import GrammarKit.Proofs.CharClass.Matching
import Mathlib.Tactic.SplitIfs

/-!
# A caret before a class

A caret that comes first negates a class and has no other influence: what comes after it is read as
if it stood alone. Only the offsets of atoms and faults are different, and no item depends on them.

* `Atom.unplaced`, `ScanState.unplaced`, `ScanStep.unplaced`, `Scan.unplaced` — scans without their
  offsets;
* `ScanState.feed_unplaced`, `Scan.run_unplaced` — what an automaton finds does not depend on where
  it starts;
* `toOption_readItems_unplaced` — nor do the items that are read;
* `CharClass.read_caret_of_read`, `CharClass.exists_read_of_read_caret` — reading with a caret and
  without one;
* `classOf_caret` — one of the two classes matches.
-/

namespace GrammarKit

/-! ### Scans without offsets -/

/-- The atom without its offset. -/
def Atom.unplaced (a : Atom) : Atom := { a with stop := 0 }

/-- The state without the offset where the escape started. -/
def ScanState.unplaced : ScanState → ScanState
  | plain => plain
  | escape _ => escape 0
  | hex _ letter width digits => hex 0 letter width digits
  | octal _ digits => octal 0 digits
  | brace _ => brace 0
  | name _ chars escaped => name 0 chars escaped

/-- The step without offsets. -/
def ScanStep.unplaced (step : ScanStep) : ScanStep where
  atoms := step.atoms.map Atom.unplaced
  next := match step.next with
    | .ok state => .ok state.unplaced
    | .error (fault, _) => .error (fault, 0)

/-- The scan without offsets. -/
def Scan.unplaced : Scan → Scan
  | done => done
  | fail fault _ => fail fault 0
  | atom a rest => atom a.unplaced rest.unplaced

namespace ScanState

/-- The steps of the automaton do not depend on offsets, apart from the offsets in them. -/
theorem feed_unplaced (names : CharNames) (state : ScanState) (pos : Nat) (c : Char) :
    (state.feed names pos c).unplaced = (state.unplaced.feed names 0 c).unplaced := by
  have hplain : (feedPlain pos c).unplaced = (feedPlain 0 c).unplaced := by
    unfold feedPlain
    split <;> rfl
  cases state with
  | plain => exact hplain
  | escape start =>
    simp only [feed, unplaced, feedEscape]
    cases controlEscape? c with
    | some n => rfl
    | none =>
      cases categoryEscape? c with
      | some meaning => rfl
      | none =>
        cases hexWidth? c with
        | some width => rfl
        | none =>
          simp only
          split_ifs <;> rfl
  | hex start letter width digits =>
    simp only [feed, unplaced, feedHexLast]
    split_ifs <;> rfl
  | octal start digits =>
    simp only [feed, unplaced, feedOctal]
    split_ifs
    · rfl
    · rfl
    · rfl
    · simp only [ScanStep.unplaced, List.map_cons] at hplain ⊢
      rw [ScanStep.mk.injEq] at hplain ⊢
      exact ⟨congrArg (_ :: ·) hplain.1, hplain.2⟩
  | brace start =>
    simp only [feed, unplaced]
    split <;> rfl
  | name start chars escaped =>
    simp only [feed, unplaced, feedNameEnd]
    split_ifs
    · rfl
    · rfl
    · cases names (String.ofList chars) <;> rfl
    · rfl

/-- Nor does the end of a text. -/
theorem finish_unplaced (state : ScanState) (pos : Nat) :
    (state.finish pos).unplaced = (state.unplaced.finish 0).unplaced := by
  cases state with
  | name start chars escaped =>
    simp only [finish, unplaced]
    split <;> rfl
  | _ => rfl

end ScanState

namespace Scan

theorem prepend_unplaced (atoms : List Atom) (scan : Scan) :
    (prepend atoms scan).unplaced = prepend (atoms.map Atom.unplaced) scan.unplaced := by
  induction atoms with
  | nil => rfl
  | cons a atoms ih => exact congrArg (atom a.unplaced) ih

/-- Scans from states that differ in their offsets differ in their offsets. -/
theorem run_unplaced {names : CharNames} {state state' : ScanState}
    (h : state.unplaced = state'.unplaced) (pos pos' : Nat) (chars : List Char) :
    (run names state pos chars).unplaced = (run names state' pos' chars).unplaced := by
  induction chars generalizing state state' pos pos' with
  | nil => rw [run, run, ScanState.finish_unplaced, h, ← ScanState.finish_unplaced]
  | cons c chars ih =>
    have hstep : (state.feed names pos c).unplaced = (state'.feed names pos' c).unplaced := by
      rw [ScanState.feed_unplaced, h, ← ScanState.feed_unplaced]
    rw [run, run]
    generalize state.feed names pos c = step, state'.feed names pos' c = step' at hstep
    rcases step with ⟨atoms, next⟩
    rcases step' with ⟨atoms', next'⟩
    obtain ⟨hatoms, hnext⟩ := ScanStep.mk.inj hstep
    simp only at hatoms hnext
    simp only [prepend_unplaced, hatoms]
    congr 1
    cases next with
    | ok state =>
      cases next' with
      | ok state' => exact ih (Except.ok.inj hnext) _ _
      | error _ => cases hnext
    | error fault =>
      cases next' with
      | ok _ => cases hnext
      | error fault' => exact congrArg (fail · 0) (Prod.ext_iff.1 (Except.error.inj hnext)).1

end Scan

/-! ### Items -/

/-- More items in front of those that are read. -/
theorem toOption_map_items {ε : Type} (read : Except ε (List ClassItem × Nat))
    (f : List ClassItem → List ClassItem) :
    (read.map fun read => (f read.1, read.2)).toOption.map Prod.fst =
      (read.toOption.map Prod.fst).map f := by
  cases read <;> rfl

/-- Whether a scan can be read, and which items it has, does not depend on offsets. -/
theorem toOption_readItems_unplaced (first : Bool) (scan : Scan) :
    (readItems first scan).toOption.map Prod.fst =
      (readItems first scan.unplaced).toOption.map Prod.fst := by
  fun_induction readItems first scan with
  | case1 => rfl
  | case2 => rfl
  | case3 first a rest hclose =>
    rw [Scan.unplaced, readItems_of_closes (a := a.unplaced) hclose]
    rfl
  | case4 first a hclose b hhyphen =>
    simp only [Scan.unplaced, readItems, Atom.unplaced, if_neg hclose, if_pos hhyphen]
  | case5 first a hclose b hhyphen fault offset =>
    simp only [Scan.unplaced, readItems, Atom.unplaced, if_neg hclose, if_pos hhyphen]
    rfl
  | case6 first a hclose b hhyphen c rest hlast =>
    simp only [Scan.unplaced]
    rw [readItems_hyphen (a := a.unplaced) (b := b.unplaced) (c := c.unplaced) hclose hhyphen hlast]
    rfl
  | case7 first a hclose b hhyphen c rest hlast item hrange ih =>
    simp only [Scan.unplaced]
    rw [readItems_range (a := a.unplaced) (b := b.unplaced) (c := c.unplaced) hclose hhyphen hlast
      hrange, toOption_map_items, toOption_map_items, ih]
  | case8 first a hclose b hhyphen c rest hlast hrange =>
    simp only [Scan.unplaced]
    rw [readItems_badRange (a := a.unplaced) (b := b.unplaced) (c := c.unplaced) hclose hhyphen
      hlast hrange]
    rfl
  | case9 first a hclose b rest hhyphen ih =>
    have hhyphen' : (Scan.atom b rest).unplaced.NoHyphen := hhyphen
    rw [Scan.unplaced, readItems_item (a := a.unplaced) hclose hhyphen', toOption_map_items,
      toOption_map_items, ih]
    rfl
  | case10 first a hclose rest hrest ih =>
    have hrest' : rest.unplaced.NoHyphen := by
      cases rest with
      | atom b rest => exact absurd rfl (hrest b rest)
      | _ => trivial
    rw [Scan.unplaced, readItems_item (a := a.unplaced) hclose hrest', toOption_map_items,
      toOption_map_items, ih]
    rfl

/-- Characters that are read as items at one offset are read as the same items at every other. -/
theorem exists_readItems_ofChars {names : CharNames} {first : Bool} {pos stop : Nat}
    {chars : List Char} {items : List ClassItem}
    (h : readItems first (.ofChars names pos chars) = .ok (items, stop)) (pos' : Nat) :
    ∃ stop', readItems first (.ofChars names pos' chars) = .ok (items, stop') := by
  have hscan : (Scan.ofChars names pos' chars).unplaced =
      (Scan.ofChars names pos chars).unplaced := Scan.run_unplaced rfl pos' pos chars
  have hitems := toOption_readItems_unplaced first (.ofChars names pos' chars)
  rw [hscan, ← toOption_readItems_unplaced, h] at hitems
  rcases hread : readItems first (.ofChars names pos' chars) with fault | ⟨items', stop'⟩
  · rw [hread] at hitems
    cases hitems
  · rw [hread] at hitems
    cases hitems
    exact ⟨stop', rfl⟩

/-! ### Patterns with a caret -/

/-- Whether there is a bare bracket does not depend on the offset. -/
theorem bareBracket?_eq_none_of_eq_none {escaped : Bool} {offset : Nat} {chars : List Char}
    (h : bareBracket? escaped offset chars = none) (offset' : Nat) :
    bareBracket? escaped offset' chars = none := by
  induction chars generalizing escaped offset offset' with
  | nil => rfl
  | cons c chars ih =>
    unfold bareBracket? at h ⊢
    split_ifs at h ⊢
    · exact ih h _
    · exact ih h _
    · exact ih h _

namespace CharClass

variable {names : CharNames} {pattern : List Char} {cls : CharClass}

/-- With a caret in front, a pattern denotes the complement. -/
theorem read_caret_of_read (hcaret : pattern.head? ≠ some '^') (h : read names pattern = .ok cls) :
    read names ('^' :: pattern) = .ok cls.complement := by
  obtain ⟨hne, hbare, stop, hread⟩ := read_eq_ok_iff.1 h
  obtain ⟨items, hitems, rfl⟩ := (readBracketed_eq_ok_iff hne hcaret).1 hread
  obtain ⟨stop', hitems'⟩ := exists_readItems_ofChars hitems 2
  refine read_eq_ok_iff.2 ⟨by simp, bareBracket?_eq_none_of_eq_none hbare 1, stop', ?_⟩
  exact readBracketed_caret_eq_ok_iff.2 ⟨items, hitems', rfl⟩

/-- Without its caret, a pattern can still be read, unless there is nothing else. -/
theorem exists_read_of_read_caret (hne : pattern ≠ []) (hcaret : pattern.head? ≠ some '^')
    (h : read names ('^' :: pattern) = .ok cls) : ∃ cls', read names pattern = .ok cls' := by
  obtain ⟨-, hbare, stop, hread⟩ := read_eq_ok_iff.1 h
  obtain ⟨items, hitems, -⟩ := readBracketed_caret_eq_ok_iff.1 hread
  obtain ⟨stop', hitems'⟩ := exists_readItems_ofChars hitems 1
  have hbare' : bareBracket? false 1 pattern = none := hbare
  exact ⟨_, read_eq_ok_iff.2 ⟨hne, bareBracket?_eq_none_of_eq_none hbare' 0, stop',
    (readBracketed_eq_ok_iff hne hcaret).2 ⟨items, hitems', rfl⟩⟩⟩

end CharClass

/-- **A caret takes the complement.** Let a pattern not be empty and not start with a caret. With a
caret in front it is accepted if and only if it is accepted without one. If so, one class takes the
characters that the other does not take, one at a time, and neither matches at the end. This holds
for escapes of every kind, whatever the names of characters are. -/
theorem classOf_caret (names : CharNames) {pattern : String} (hne : pattern ≠ "")
    (hcaret : pattern.toList.head? ≠ some '^') :
    ((∃ neg, Blueprint.classOf names (.text ("^" ++ pattern)) = .ok neg) ↔
      ∃ cls, Blueprint.classOf names (.text pattern) = .ok cls) ∧
    ∀ cls neg, Blueprint.classOf names (.text pattern) = .ok cls →
      Blueprint.classOf names (.text ("^" ++ pattern)) = .ok neg →
      (Matcher.charClass cls .identity).Takes (fun char => cls.contains char = true) ∧
      (Matcher.charClass neg .identity).Takes (fun char => ¬ cls.contains char = true) := by
  have hne' : pattern.toList ≠ [] := by simpa using hne
  refine ⟨⟨?_, ?_⟩, ?_⟩
  · rintro ⟨neg, hneg⟩
    obtain ⟨read, hread, -⟩ := Blueprint.classOf_eq_ok_iff.1 hneg
    rw [toList_caret] at hread
    obtain ⟨cls, hcls⟩ := CharClass.exists_read_of_read_caret hne' hcaret hread
    exact ⟨_, Blueprint.classOf_eq_ok_iff.2 ⟨cls, hcls, rfl⟩⟩
  · rintro ⟨cls, hcls⟩
    obtain ⟨read, hread, -⟩ := Blueprint.classOf_eq_ok_iff.1 hcls
    have hneg := CharClass.read_caret_of_read hcaret hread
    exact ⟨_, Blueprint.classOf_eq_ok_iff.2 ⟨_, toList_caret pattern ▸ hneg, rfl⟩⟩
  · intro cls neg hcls hneg
    obtain ⟨read, hread, rfl⟩ := Blueprint.classOf_eq_ok_iff.1 hcls
    obtain ⟨read', hread', rfl⟩ := Blueprint.classOf_eq_ok_iff.1 hneg
    rw [toList_caret, CharClass.read_caret_of_read hcaret hread] at hread'
    cases hread'
    exact ⟨Matcher.takes_charClass fun _ => Iff.rfl, Matcher.takes_charClass fun _ => by simp⟩

/-- A pattern with escapes of two kinds, one of them in front of a hyphen that ends it. -/
def mixedEscapes : String := "7-9\\D\\N\x7bRIGHT SQUARE BRACKET\x7d-"

theorem classOf_caret_mixedEscapes :
    (mixedEscapes ≠ "" ∧ mixedEscapes.toList.head? ≠ some '^') ∧
    ∃ cls neg, Blueprint.classOf bracketNames (.text mixedEscapes) = .ok cls ∧
      Blueprint.classOf bracketNames (.text ("^" ++ mixedEscapes)) = .ok neg ∧
      (Matcher.charClass cls .identity).Takes (fun char => cls.contains char = true) ∧
      (Matcher.charClass neg .identity).Takes (fun char => ¬ cls.contains char = true) := by
  have hne : mixedEscapes ≠ "" := by decide
  have hcaret : mixedEscapes.toList.head? ≠ some '^' := by decide
  have hread : CharClass.read bracketNames mixedEscapes.toList = .ok ⟨false,
      [.range 0x37 0x39, .category .digit true, .range 0x5d 0x5d, .range 0x2d 0x2d]⟩ := by
    decide +kernel
  obtain ⟨haccepted, hmatches⟩ := classOf_caret bracketNames hne hcaret
  have hcls := Blueprint.classOf_eq_ok_iff.2 ⟨_, hread, rfl⟩
  obtain ⟨neg, hneg⟩ := haccepted.2 ⟨_, hcls⟩
  exact ⟨⟨hne, hcaret⟩, _, neg, hcls, hneg, hmatches _ neg hcls hneg⟩

end GrammarKit
