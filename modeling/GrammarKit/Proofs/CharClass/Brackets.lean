import GrammarKit.Proofs.CharClass.Items
import GrammarKit.Proofs.CharClass.Matching
import Mathlib.Algebra.Ring.Parity
import Mathlib.Data.List.DropRight
import Mathlib.Tactic.SplitIfs

/-!
# The brackets around a class

Brackets inside a pattern have to be escaped. The check for bare brackets knows escapes as pairs of
a backslash and another character, whereas the reader knows longer ones, too. Nevertheless the two
agree: both see the same characters behind a backslash, so without a bare bracket a class has no
other end than the bracket that is put after the pattern.

* `CharClass.tokens` — characters, with backslashes and what follows them in pairs;
* `bareBracket?_eq_some_iff`, `bareBracket?_eq_none_iff` — the first bare bracket is the first
  bracket among the tokens;
* `ScanState.escaped` — whether the automaton stands behind such a backslash;
* `ScanState.escaped_feed`, `ScanState.closes_feed` — what one step of it does;
* `Scan.stop_of_closes` — where a closing bracket can be after all of them;
* `escapedAfter_eq_odd` — an odd number of backslashes escapes what follows;
* `bareBracket_agrees_with_reader` — both in agreement.
-/

namespace GrammarKit

/-! ### Bare brackets -/

/-- The tokens of a pattern: a backslash and the character after it are one, all other characters
are one each. -/
def CharClass.tokens : List Char → List (List Char)
  | [] => []
  | '\\' :: c :: chars => ['\\', c] :: tokens chars
  | c :: chars => [c] :: tokens chars

/-- The token is a bracket. -/
def CharClass.IsBracket (token : List Char) : Prop := token = ['['] ∨ token = [']']

/-- The first token that is a bracket, with the offset of its beginning. -/
def CharClass.firstBracket? (offset : Nat) : List (List Char) → Option (Char × Nat)
  | [] => none
  | token :: tokens =>
    if token = ['['] then some ('[', offset)
    else if token = [']'] then some (']', offset)
    else firstBracket? (offset + token.length) tokens

namespace CharClass

variable {token : List Char} {tokens before : List (List Char)}

theorem firstBracket?_of_isBracket {bracket : Char} (h : IsBracket [bracket]) (offset : Nat) :
    firstBracket? offset ([bracket] :: tokens) = some (bracket, offset) := by
  rcases h with h | h
  · cases h
    simp [firstBracket?]
  · cases h
    simp [firstBracket?]

theorem firstBracket?_of_not_isBracket (h : ¬ IsBracket token) (offset : Nat) :
    firstBracket? offset (token :: tokens) = firstBracket? (offset + token.length) tokens := by
  rw [IsBracket, not_or] at h
  rw [firstBracket?, if_neg h.1, if_neg h.2]

/-- Tokens that are no brackets are passed over. -/
theorem firstBracket?_append (h : ∀ token ∈ before, ¬ IsBracket token) (offset : Nat) :
    firstBracket? offset (before ++ tokens) =
      firstBracket? (offset + before.flatten.length) tokens := by
  induction before generalizing offset with
  | nil => rfl
  | cons token before ih =>
    rw [List.cons_append, firstBracket?_of_not_isBracket (h token (List.mem_cons_self ..)),
      ih fun token htoken => h token (List.mem_cons_of_mem _ htoken), List.flatten_cons,
      List.length_append, Nat.add_assoc]

/-- Either there is a first bracket among the tokens, or there is none. -/
theorem exists_isBracket_or (tokens : List (List Char)) :
    (∃ before bracket after, tokens = before ++ [bracket] :: after ∧ IsBracket [bracket] ∧
      ∀ token ∈ before, ¬ IsBracket token) ∨ ∀ token ∈ tokens, ¬ IsBracket token := by
  induction tokens with
  | nil => exact Or.inr (by simp)
  | cons token tokens ih =>
    by_cases htoken : IsBracket token
    · refine Or.inl ⟨[], ?_⟩
      rcases htoken with rfl | rfl
      · exact ⟨'[', tokens, rfl, Or.inl rfl, by simp⟩
      · exact ⟨']', tokens, rfl, Or.inr rfl, by simp⟩
    · rcases ih with ⟨before, bracket, after, rfl, hbracket, hbefore⟩ | hnone
      · refine Or.inl ⟨token :: before, bracket, after, rfl, hbracket, ?_⟩
        simpa [htoken] using hbefore
      · exact Or.inr (by simpa [htoken] using hnone)

theorem firstBracket?_eq_none (h : ∀ token ∈ tokens, ¬ IsBracket token) (offset : Nat) :
    firstBracket? offset tokens = none := by
  rw [← List.append_nil tokens, firstBracket?_append h]
  rfl

end CharClass

open CharClass

/-- The check for bare brackets looks for the first token that is a bracket. -/
theorem bareBracket?_eq_firstBracket? (offset : Nat) (chars : List Char) :
    bareBracket? false offset chars = firstBracket? offset (tokens chars) := by
  induction chars using tokens.induct generalizing offset with
  | case1 => rfl
  | case2 c chars ih =>
    rw [tokens, firstBracket?_of_not_isBracket (by simp [IsBracket]), ← ih]
    rfl
  | case3 c chars hescape ih =>
    rw [tokens.eq_3 _ _ hescape]
    by_cases hbackslash : c = '\\'
    · subst hbackslash
      cases chars with
      | nil => rfl
      | cons c chars => exact (hescape c chars rfl rfl).elim
    · rw [bareBracket?, if_neg Bool.false_ne_true, if_neg hbackslash]
      by_cases hbracket : c = '[' ∨ c = ']'
      · rw [if_pos hbracket, firstBracket?_of_isBracket (by simpa [IsBracket] using hbracket)]
      · rw [if_neg hbracket, firstBracket?_of_not_isBracket (by simpa [IsBracket] using hbracket),
          ih]
        rfl

/-- **The bare bracket that is found is the first bracket among the tokens.** -/
theorem bareBracket?_eq_some_iff {chars : List Char} {bracket : Char} {offset : Nat} :
    bareBracket? false 0 chars = some (bracket, offset) ↔
      IsBracket [bracket] ∧ ∃ before after, tokens chars = before ++ [bracket] :: after ∧
        (∀ token ∈ before, ¬ IsBracket token) ∧ offset = before.flatten.length := by
  rw [bareBracket?_eq_firstBracket?]
  constructor
  · intro h
    rcases exists_isBracket_or (tokens chars) with
      ⟨before, bracket', after, heq, hbracket, hbefore⟩ | hnone
    · rw [heq, firstBracket?_append hbefore, firstBracket?_of_isBracket hbracket] at h
      cases h
      exact ⟨hbracket, before, after, heq, hbefore, Nat.zero_add _⟩
    · rw [firstBracket?_eq_none hnone] at h
      cases h
  · rintro ⟨hbracket, before, after, heq, hbefore, rfl⟩
    rw [heq, firstBracket?_append hbefore, firstBracket?_of_isBracket hbracket, Nat.zero_add]

/-- No bare bracket is found if no token is a bracket. -/
theorem bareBracket?_eq_none_iff {chars : List Char} :
    bareBracket? false 0 chars = none ↔ ∀ token ∈ tokens chars, ¬ IsBracket token := by
  rw [bareBracket?_eq_firstBracket?]
  refine ⟨fun h => ?_, fun h => firstBracket?_eq_none h 0⟩
  rcases exists_isBracket_or (tokens chars) with
    ⟨before, bracket, after, heq, hbracket, hbefore⟩ | hnone
  · rw [heq, firstBracket?_append hbefore, firstBracket?_of_isBracket hbracket] at h
    cases h
  · exact hnone

/-! ### Closing brackets -/

/-- The automaton stands behind a backslash that makes a pair with what comes next. -/
def ScanState.escaped : ScanState → Bool
  | escape _ => true
  | name _ _ escaped => escaped
  | _ => false

@[simp] theorem Scan.atoms_prepend (atoms : List Atom) (scan : Scan) :
    (prepend atoms scan).atoms = atoms ++ scan.atoms := by
  induction atoms with
  | nil => rfl
  | cons a atoms ih => exact congrArg (a :: ·) ih

namespace ScanState

variable {names : CharNames}

/-- A digit is no backslash. -/
theorem beq_backslash_of_digit (isDigit : Char → Bool) (hbackslash : isDigit '\\' = false)
    {c : Char} (h : isDigit c = true) : (c == '\\') = false := by
  rw [beq_eq_false_iff_ne]
  rintro rfl
  cases hbackslash.symm.trans h

theorem escaped_feedPlain {next : ScanState} {pos : Nat} {c : Char}
    (h : (feedPlain pos c).next = .ok next) : next.escaped = (c == '\\') := by
  unfold feedPlain at h
  split_ifs at h with hbackslash
  · cases h
    simp [escaped, hbackslash]
  · cases h
    simp [escaped, hbackslash]

/-- Whether the automaton stands behind such a backslash does not depend on what kind of escape it
is in: digits and braces are no backslashes, and names have pairs of their own. -/
theorem escaped_feed {state next : ScanState} {pos : Nat} {c : Char}
    (h : (state.feed names pos c).next = .ok next) :
    next.escaped = (!state.escaped && c == '\\') := by
  cases state with
  | plain => exact escaped_feedPlain h
  | escape start =>
    simp only [feed, feedEscape] at h
    rw [escaped, Bool.not_true, Bool.false_and]
    split at h
    · cases h
      rfl
    · cases h
      rfl
    · cases h
      rfl
    · split_ifs at h <;> cases h <;> rfl
  | hex start letter width digits =>
    have hbackslash (hdigit : (hexValue? c).isSome = true) : (c == '\\') = false :=
      beq_backslash_of_digit (fun c => (hexValue? c).isSome) rfl hdigit
    simp only [feed, feedHexLast] at h
    split_ifs at h with hdigit
    · cases h
      rw [hbackslash hdigit]
      rfl
    · cases h
      rw [hbackslash hdigit]
      rfl
    · cases h
    · cases h
  | octal start digits =>
    have hbackslash (hdigit : isOctal c = true) : (c == '\\') = false :=
      beq_backslash_of_digit isOctal rfl hdigit
    simp only [feed, feedOctal] at h
    split_ifs at h with hdigit
    · cases h
      rw [hbackslash hdigit]
      rfl
    · cases h
      rw [hbackslash hdigit]
      rfl
    · cases h
    · exact escaped_feedPlain h
  | brace start =>
    simp only [feed] at h
    split_ifs at h with hbrace
    · cases h
      subst hbrace
      rfl
    · cases h
  | name start chars escaped =>
    simp only [feed, feedNameEnd] at h
    split_ifs at h with hescaped hbrace hempty
    · cases h
      subst hescaped
      rfl
    · cases h
    · subst hbrace
      cases hname : names (String.ofList chars) with
      | some n =>
        rw [hname] at h
        cases h
        simp [ScanState.escaped]
      | none =>
        rw [hname] at h
        cases h
    · cases h
      simp [ScanState.escaped, hescaped]

theorem closes_feedPlain {pos : Nat} {c : Char} {a : Atom} (ha : a ∈ (feedPlain pos c).atoms)
    (hclose : a.token = [']']) : c = ']' ∧ a.stop = pos + 1 := by
  unfold feedPlain at ha
  split_ifs at ha
  · cases ha
  · cases List.mem_singleton.1 ha
    exact ⟨List.singleton_inj.1 hclose, rfl⟩

/-- Only a closing bracket without such a backslash becomes an atom that closes a class. -/
theorem closes_feed {state : ScanState} {pos : Nat} {c : Char} {a : Atom}
    (ha : a ∈ (state.feed names pos c).atoms) (hclose : a.token = [']']) :
    c = ']' ∧ state.escaped = false ∧ a.stop = pos + 1 := by
  cases state with
  | plain =>
    obtain ⟨hc, hstop⟩ := closes_feedPlain ha hclose
    exact ⟨hc, rfl, hstop⟩
  | octal start digits =>
    simp only [feed, feedOctal] at ha
    split_ifs at ha
    · cases ha
    · cases List.mem_singleton.1 ha
      cases hclose
    · cases ha
    · rcases List.mem_cons.1 ha with rfl | ha
      · cases hclose
      · obtain ⟨hc, hstop⟩ := closes_feedPlain ha hclose
        exact ⟨hc, rfl, hstop⟩
  | escape start =>
    simp only [feed, feedEscape] at ha
    split at ha
    · cases List.mem_singleton.1 ha
      cases hclose
    · cases List.mem_singleton.1 ha
      cases hclose
    · cases ha
    · split_ifs at ha
      · cases ha
      · cases ha
      · cases ha
      · cases List.mem_singleton.1 ha
        cases hclose
  | hex start letter width digits =>
    simp only [feed, feedHexLast] at ha
    split_ifs at ha
    · cases ha
    · cases List.mem_singleton.1 ha
      cases hclose
    · cases ha
    · cases ha
  | brace start =>
    simp only [feed] at ha
    split_ifs at ha <;> cases ha
  | name start chars escaped =>
    simp only [feed, feedNameEnd] at ha
    split_ifs at ha
    · cases ha
    · cases ha
    · split at ha
      · cases List.mem_singleton.1 ha
        cases hclose
      · cases ha
    · cases ha

theorem not_closes_finish {state : ScanState} {pos : Nat} {a : Atom}
    (ha : a ∈ (state.finish pos).atoms) : a.token ≠ [']'] := by
  intro hclose
  cases state with
  | octal start digits =>
    cases List.mem_singleton.1 ha
    cases hclose
  | name start chars escaped =>
    simp only [finish] at ha
    split_ifs at ha <;> cases ha
  | _ => cases ha

end ScanState

variable {names : CharNames}

/-- What comes after the characters stands behind a backslash that makes a pair with it. -/
def escapedAfter (escaped : Bool) (chars : List Char) : Bool :=
  chars.foldl (fun escaped c => !escaped && c == '\\') escaped

/-- This is so if there is an odd number of backslashes at the end. -/
theorem escapedAfter_eq_odd (chars : List Char) :
    escapedAfter false chars = decide (Odd (chars.rtakeWhile (· == '\\')).length) := by
  induction chars using List.reverseRecOn with
  | nil => rfl
  | append_singleton chars c ih =>
    have hlast : escapedAfter false (chars ++ [c]) = (!escapedAfter false chars && c == '\\') :=
      List.foldl_append
    rw [hlast, ih, List.rtakeWhile_concat]
    by_cases hbackslash : c = '\\'
    · simp [hbackslash, Nat.odd_add_one, -Nat.not_odd_iff_even]
    · simp [hbackslash]

/-- **A class has no other end than the bracket that is put after the pattern.** Without a bare
bracket among the characters, an atom that closes the class is the bracket after them. The induction
is on the characters, along with which the automaton and the check for bare brackets know of the
same backslashes. -/
theorem Scan.stop_of_closes {state : ScanState} {offset pos : Nat} {chars : List Char} {a : Atom}
    (hbare : bareBracket? state.escaped offset chars = none)
    (ha : a ∈ (run names state pos (chars ++ [']'])).atoms) (hclose : a.token = [']']) :
    escapedAfter state.escaped chars = false ∧ a.stop = pos + chars.length + 1 := by
  induction chars generalizing state offset pos with
  | nil =>
    rw [List.nil_append, run, atoms_prepend, List.mem_append] at ha
    rcases ha with ha | ha
    · obtain ⟨-, hescaped, hstop⟩ := ScanState.closes_feed ha hclose
      exact ⟨hescaped, hstop⟩
    · split at ha
      · exact absurd hclose (ScanState.not_closes_finish ha)
      · cases ha
  | cons c chars ih =>
    rw [List.cons_append, run, atoms_prepend, List.mem_append] at ha
    rcases ha with ha | ha
    · obtain ⟨rfl, hescaped, -⟩ := ScanState.closes_feed ha hclose
      rw [bareBracket?, hescaped] at hbare
      simp at hbare
    · split at ha
      next next hnext =>
        have hescaped := ScanState.escaped_feed hnext
        have hbare' : bareBracket? next.escaped (offset + 1) chars = none := by
          rw [hescaped]
          unfold bareBracket? at hbare
          split_ifs at hbare with hpair hbackslash
          · simpa [hpair] using hbare
          · simpa [hpair, hbackslash] using hbare
          · simpa [hpair, beq_eq_false_iff_ne.2 hbackslash] using hbare
        obtain ⟨hafter, hstop⟩ := ih hbare' ha
        rw [hescaped] at hafter
        refine ⟨hafter, ?_⟩
        rw [hstop, List.length_cons]
        omega
      next => cases ha

/-- Items that can be read end behind the bracket that is put after their characters. -/
theorem stop_of_readItems {offset pos : Nat} {chars : List Char} {items : List ClassItem}
    {stop : Nat} (hbare : bareBracket? false offset chars = none)
    (h : readItems true (.ofChars names pos (chars ++ [']'])) = .ok (items, stop)) :
    escapedAfter false chars = false ∧ stop = pos + chars.length + 1 := by
  obtain ⟨a, ha, hclose, rfl⟩ := exists_closes_of_readItems h
  have hbare' : bareBracket? ScanState.plain.escaped offset chars = none := hbare
  exact Scan.stop_of_closes hbare' ha hclose

/-- A class that can be read ends behind its whole pattern, which does not end with a backslash that
escapes the bracket. -/
theorem readBracketed_stop {pattern : List Char} {cls : CharClass} {stop : Nat}
    (hne : pattern ≠ []) (hbare : bareBracket? false 0 pattern = none)
    (h : readBracketed names (pattern ++ [']']) = .ok (cls, stop)) :
    escapedAfter false pattern = false ∧ stop = (bracketed pattern).length := by
  obtain ⟨c, chars, rfl⟩ := List.exists_cons_of_ne_nil hne
  by_cases hcaret : c = '^'
  · subst hcaret
    obtain ⟨items, hread, -⟩ := readBracketed_caret_eq_ok_iff.1 h
    -- A caret is passed over by both, and is no backslash.
    have hbare' : bareBracket? false 1 chars = none := hbare
    obtain ⟨hafter, rfl⟩ := stop_of_readItems hbare' hread
    refine ⟨hafter, ?_⟩
    simp [bracketed]
    omega
  · obtain ⟨items, hread, -⟩ := (readBracketed_eq_ok_iff hne (by simpa using hcaret)).1 h
    obtain ⟨hafter, rfl⟩ := stop_of_readItems hbare hread
    refine ⟨hafter, ?_⟩
    simp [bracketed]
    omega

/-- A pattern that ends with an odd number of backslashes cannot be read. -/
theorem CharClass.read_of_odd {pattern : List Char}
    (h : Odd (pattern.rtakeWhile (· == '\\')).length) :
    ∃ fault, read names pattern = .error fault := by
  rcases hread : read names pattern with fault | cls
  · exact ⟨fault, rfl⟩
  · obtain ⟨hne, hbare, stop, hbracketed⟩ := read_eq_ok_iff.1 hread
    have hafter := (readBracketed_stop hne hbare hbracketed).1
    rw [escapedAfter_eq_odd] at hafter
    exact absurd h (of_decide_eq_false hafter)

/-- **The check for bare brackets and the reader of classes agree on where a class ends.**

* The check finds the first token that is a bracket, with its offset in the pattern, and finds none
  if no token is a bracket.
* If it finds none and the pattern is not empty, reading the pattern between its brackets either
  fails, and so the pattern is refused, or ends behind the last bracket.
* So each class that is accepted is read to the very end, and takes one character at a time.
* A pattern with an odd number of backslashes at its end is refused, and so is a single caret.

All this does not depend on which characters have names. -/
theorem bareBracket_agrees_with_reader (names : CharNames) (pattern : String) :
    ((∀ bracket offset, bareBracket? false 0 pattern.toList = some (bracket, offset) ↔
        IsBracket [bracket] ∧ ∃ before after,
          tokens pattern.toList = before ++ [bracket] :: after ∧
          (∀ token ∈ before, ¬ IsBracket token) ∧ offset = before.flatten.length) ∧
      (bareBracket? false 0 pattern.toList = none ↔
        ∀ token ∈ tokens pattern.toList, ¬ IsBracket token)) ∧
    (pattern ≠ "" → bareBracket? false 0 pattern.toList = none →
      (∃ fault offset, readBracketed names (pattern.toList ++ [']']) = .error (fault, offset) ∧
        Blueprint.classOf names (.text pattern) =
          .error (Blueprint.classFault pattern (.unreadable fault offset))) ∨
      ∃ cls, readBracketed names (pattern.toList ++ [']']) =
          .ok (cls, (bracketed pattern.toList).length) ∧
        Blueprint.classOf names (.text pattern) = .ok cls.compact) ∧
    (∀ cls, Blueprint.classOf names (.text pattern) = .ok cls →
      (∃ read, readBracketed names (pattern.toList ++ [']']) =
          .ok (read, (bracketed pattern.toList).length) ∧ read.compact = cls) ∧
      (Matcher.charClass cls .identity).Takes (fun char => cls.contains char = true)) ∧
    ((Odd (pattern.toList.rtakeWhile (· == '\\')).length ∨ pattern = "^") →
      ∃ fault, Blueprint.classOf names (.text pattern) =
        .error (Blueprint.classFault pattern fault)) := by
  refine ⟨⟨fun _ _ => bareBracket?_eq_some_iff, bareBracket?_eq_none_iff⟩, ?_, ?_, ?_⟩
  · intro hne hbare
    have hne' : pattern.toList ≠ [] := by simpa using hne
    have hempty : pattern.toList.isEmpty = false := List.isEmpty_eq_false_iff.2 hne'
    rcases hread : readBracketed names (pattern.toList ++ [']']) with ⟨fault, offset⟩ | ⟨cls, stop⟩
    · refine Or.inl ⟨fault, offset, rfl, Blueprint.classOf_of_error ?_⟩
      simp [CharClass.read, hempty, hbare, hread]
    · obtain ⟨-, rfl⟩ := readBracketed_stop hne' hbare hread
      exact Or.inr ⟨cls, rfl, Blueprint.classOf_eq_ok_iff.2
        ⟨cls, CharClass.read_eq_ok_iff.2 ⟨hne', hbare, _, hread⟩, rfl⟩⟩
  · intro cls hcls
    obtain ⟨read, hread, rfl⟩ := Blueprint.classOf_eq_ok_iff.1 hcls
    obtain ⟨hne, hbare, stop, hbracketed⟩ := CharClass.read_eq_ok_iff.1 hread
    obtain ⟨-, rfl⟩ := readBracketed_stop hne hbare hbracketed
    exact ⟨⟨read, hbracketed, rfl⟩, Matcher.takes_charClass fun _ => Iff.rfl⟩
  · rintro (hodd | rfl)
    · obtain ⟨fault, hfault⟩ := CharClass.read_of_odd hodd
      exact ⟨fault, Blueprint.classOf_of_error hfault⟩
    · exact ⟨.unreadable .unterminated 0, rfl⟩

/-- The range from one bracket to the other, one of them escaped and one of them by its name. -/
def bracketRange : String := "\\[-\\N\x7bRIGHT SQUARE BRACKET\x7d"

/-- The range between the brackets is read to its end. Three backslashes escape a backslash and the
last bracket. -/
theorem bareBracket_agrees_with_reader_escapes :
    (bracketRange ≠ "" ∧ bareBracket? false 0 bracketRange.toList = none ∧
      ((∃ fault offset,
          readBracketed bracketNames (bracketRange.toList ++ [']']) = .error (fault, offset) ∧
          Blueprint.classOf bracketNames (.text bracketRange) =
            .error (Blueprint.classFault bracketRange (.unreadable fault offset))) ∨
        ∃ cls, readBracketed bracketNames (bracketRange.toList ++ [']']) =
            .ok (cls, (bracketed bracketRange.toList).length) ∧
          Blueprint.classOf bracketNames (.text bracketRange) = .ok cls.compact)) ∧
    (∃ cls, Blueprint.classOf bracketNames (.text bracketRange) = .ok cls ∧
      (∃ read, readBracketed bracketNames (bracketRange.toList ++ [']']) =
          .ok (read, (bracketed bracketRange.toList).length) ∧ read.compact = cls) ∧
      (Matcher.charClass cls .identity).Takes (fun char => cls.contains char = true)) ∧
    (Odd ("x\\\\\\".toList.rtakeWhile (· == '\\')).length ∧
      ∃ fault, Blueprint.classOf bracketNames (.text "x\\\\\\") =
        .error (Blueprint.classFault "x\\\\\\" fault)) := by
  have hne : bracketRange ≠ "" := by decide
  have hbare : bareBracket? false 0 bracketRange.toList = none := by decide +kernel
  have hread : CharClass.read bracketNames bracketRange.toList =
      .ok ⟨false, [.range 0x5b 0x5d]⟩ := by decide +kernel
  have hcls := Blueprint.classOf_eq_ok_iff.2 ⟨_, hread, rfl⟩
  have hodd : Odd ("x\\\\\\".toList.rtakeWhile (· == '\\')).length := by decide
  obtain ⟨-, hreads, haccepted, -⟩ := bareBracket_agrees_with_reader bracketNames bracketRange
  obtain ⟨-, -, -, hrefused⟩ := bareBracket_agrees_with_reader bracketNames "x\\\\\\"
  exact ⟨⟨hne, hbare, hreads hne hbare⟩, ⟨_, hcls, haccepted _ hcls⟩, hodd, hrefused (.inl hodd)⟩

end GrammarKit
