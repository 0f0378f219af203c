import GrammarKit.CharClass.Reader
import Mathlib.Data.List.Basic

/-!
# Items of a class

What is read of a scan, atom by atom: an atom is the closing bracket, the beginning of a range, or
an item.

* `Atom.Closes` — an atom is the closing bracket of a class;
* `readItems_of_closes`, `readItems_range`, `readItems_item` — the three cases;
* `exists_closes_of_readItems` — what is read ends with a closing bracket;
* `readBracketed_caret_eq_ok_iff`, `readBracketed_eq_ok_iff` — with a caret in front of all, and
  without one.
-/

namespace GrammarKit

/-- The atom is a bracket that closes a class, which one that comes first does not. -/
abbrev Atom.Closes (first : Bool) (a : Atom) : Prop := a.token = [']'] ∧ !first

/-- The scan does not go on with a hyphen. -/
def Scan.NoHyphen : Scan → Prop
  | atom a _ => a.token ≠ ['-']
  | _ => True

/-- The atoms of a scan. -/
def Scan.atoms : Scan → List Atom
  | atom a rest => a :: rest.atoms
  | _ => []

variable {names : CharNames} {first : Bool} {a b c : Atom} {rest : Scan}

theorem readItems_of_closes (h : a.Closes first) :
    readItems first (.atom a rest) = .ok ([], a.stop) := by
  rw [readItems.eq_def]
  exact if_pos h

/-- An atom without a hyphen after it is an item. -/
theorem readItems_item (h : ¬ a.Closes first) (hrest : rest.NoHyphen) :
    readItems first (.atom a rest) =
      (readItems false rest).map fun read => (a.meaning.item :: read.1, read.2) := by
  rw [readItems.eq_def]
  refine (if_neg h).trans ?_
  cases rest with
  | atom b rest => exact if_neg hrest
  | done => rfl
  | fail => rfl

/-- A hyphen just before the closing bracket is an item. -/
theorem readItems_hyphen (h : ¬ a.Closes first) (hb : b.token = ['-']) (hc : c.token = [']']) :
    readItems first (.atom a (.atom b (.atom c rest))) =
      .ok ([a.meaning.item, b.meaning.item], c.stop) := by
  rw [readItems.eq_def]
  refine (if_neg h).trans ?_
  simp only [if_pos hb, if_pos hc]

/-- Two atoms with a hyphen between them are a range, if they are in order. -/
theorem readItems_range {item : ClassItem} (h : ¬ a.Closes first) (hb : b.token = ['-'])
    (hc : c.token ≠ [']']) (hrange : range? a c = some item) :
    readItems first (.atom a (.atom b (.atom c rest))) =
      (readItems false rest).map fun read => (item :: read.1, read.2) := by
  rw [readItems.eq_def]
  refine (if_neg h).trans ?_
  simp only [if_pos hb, if_neg hc, hrange]

theorem readItems_badRange (h : ¬ a.Closes first) (hb : b.token = ['-']) (hc : c.token ≠ [']'])
    (hrange : range? a c = none) :
    readItems first (.atom a (.atom b (.atom c rest))) =
      .error (.badRange a.token c.token, c.stop - (a.token.length + 1 + c.token.length)) := by
  rw [readItems.eq_def]
  refine (if_neg h).trans ?_
  simp only [if_pos hb, if_neg hc, hrange]

/-- What is made of the items that are read. -/
theorem map_items_eq_ok_iff {ε α : Type} {read : Except ε (List ClassItem × Nat)}
    {f : List ClassItem → α} {result : α} {stop : Nat} :
    (read.map fun read => (f read.1, read.2)) = .ok (result, stop) ↔
      ∃ items, read = .ok (items, stop) ∧ f items = result := by
  rcases read with fault | ⟨items, stop'⟩
  · simp [Except.map]
  · constructor
    · rintro ⟨⟩
      exact ⟨items, rfl, rfl⟩
    · rintro ⟨_, ⟨⟩, rfl⟩
      rfl

/-- What is read ends with an atom that closes the class. -/
theorem exists_closes_of_readItems {scan : Scan} {items : List ClassItem} {stop : Nat}
    (h : readItems first scan = .ok (items, stop)) :
    ∃ a ∈ scan.atoms, a.token = [']'] ∧ a.stop = stop := by
  fun_induction readItems first scan generalizing items with
  | case1 | case2 | case4 | case5 | case8 => cases h
  | case3 first a rest hclose =>
    cases h
    exact ⟨a, List.mem_cons_self .., hclose.1, rfl⟩
  | case6 first a hclose b hhyphen c rest hlast =>
    cases h
    exact ⟨c, by simp [Scan.atoms], hlast, rfl⟩
  | case7 first a hclose b hhyphen c rest hlast item hrange ih =>
    obtain ⟨items, hread, -⟩ := map_items_eq_ok_iff.1 h
    obtain ⟨d, hd, hclose⟩ := ih hread
    exact ⟨d, by simp [Scan.atoms, hd], hclose⟩
  | case9 first a hclose b rest hhyphen ih =>
    obtain ⟨items, hread, -⟩ := map_items_eq_ok_iff.1 h
    obtain ⟨d, hd, hclose⟩ := ih hread
    exact ⟨d, List.mem_cons_of_mem _ hd, hclose⟩
  | case10 first a hclose rest hrest ih =>
    obtain ⟨items, hread, -⟩ := map_items_eq_ok_iff.1 h
    obtain ⟨d, hd, hclose⟩ := ih hread
    exact ⟨d, List.mem_cons_of_mem _ hd, hclose⟩

/-- After a caret, the items of a negated class are read. -/
theorem readBracketed_caret_eq_ok_iff {chars : List Char} {cls : CharClass} {stop : Nat} :
    readBracketed names ('^' :: chars) = .ok (cls, stop) ↔
      ∃ items, readItems true (.ofChars names 2 chars) = .ok (items, stop) ∧ ⟨true, items⟩ = cls :=
  map_items_eq_ok_iff

/-- Without a caret in front, the items are those of the class itself. -/
theorem readBracketed_eq_ok_iff {pattern : List Char} (hne : pattern ≠ [])
    (hcaret : pattern.head? ≠ some '^') {cls : CharClass} {stop : Nat} :
    readBracketed names (pattern ++ [']']) = .ok (cls, stop) ↔
      ∃ items, readItems true (.ofChars names 1 (pattern ++ [']'])) = .ok (items, stop) ∧
        ⟨false, items⟩ = cls := by
  have hread : readBracketed names (pattern ++ [']']) =
      (readItems true (.ofChars names 1 (pattern ++ [']']))).map fun read =>
        (⟨false, read.1⟩, read.2) := by
    rw [← List.head?_append_of_ne_nil _ hne] at hcaret
    unfold readBracketed
    split
    next heq => exact absurd (heq ▸ List.head?_cons) hcaret
    · rfl
  rw [hread, map_items_eq_ok_iff]

end GrammarKit
