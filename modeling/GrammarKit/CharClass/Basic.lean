import GrammarKit.CharClass.RangeTree
import GrammarKit.Text.Blank
import GrammarKit.Text.Digit
import GrammarKit.Text.Word
import Std.Data.HashSet

/-!
# Character classes

A character class is a set of code points given by items, or the complement of such a set.

* `Category` — digits, blanks and word characters;
* `ClassItem` — a range of code points or several, or a category or its complement;
* `CharClass` — the items and whether they are negated;
* `CharClass.contains` — membership;
* `CharClass.compact` — the same class with its ranges in a tree, if it has many items.
-/

namespace GrammarKit

/-- The named categories of characters. -/
inductive Category where
  | digit
  | blank
  | word
deriving DecidableEq, Hashable, Repr

/-- Whether a code point belongs to the category. -/
def Category.contains : Category → Nat → Bool
  | digit, point => Text.isDigit point
  | blank, point => Text.isBlank point
  | word, point => Text.isWord point

/-- An item of a character class. -/
inductive ClassItem where
  /-- The code points from `lo` to `hi`, both included. -/
  | range (lo hi : Nat)
  /-- The code points of several ranges. -/
  | ranges (tree : RangeTree)
  /-- A category, or everything outside it. -/
  | category (category : Category) (negated : Bool)
deriving DecidableEq, Hashable, Repr

/-- Whether a code point belongs to the item. -/
def ClassItem.contains : ClassItem → Nat → Bool
  | range lo hi, point => lo ≤ point && point ≤ hi
  | ranges tree, point => tree.contains point
  | category c negated, point => c.contains point != negated

/-- A set of characters. -/
structure CharClass where
  negated : Bool
  items : List ClassItem
deriving DecidableEq, Repr

/-- Whether a character belongs to some item of the class, or to none if the class is negated. -/
def CharClass.contains (cls : CharClass) (c : Char) : Bool :=
  cls.items.any (·.contains c.toNat) != cls.negated

/-- The most items of a class that is left as it was written. -/
def maxWrittenItems : Nat := 64

/-- The bounds of an item that is a single range. -/
def ClassItem.range? : ClassItem → Option (Nat × Nat)
  | range lo hi => some (lo, hi)
  | _ => none

/-- An item is a single range or something else. -/
theorem ClassItem.any_split (items : List ClassItem) (point : Nat) :
    items.any (·.contains point) =
      ((items.filter (·.range?.isNone)).any (·.contains point) ||
        (items.filterMap ClassItem.range?).any fun range =>
          range.1 ≤ point && point ≤ range.2) := by
  induction items with
  | nil => rfl
  | cons item items ih =>
    rw [List.any_cons, ih]
    cases item <;>
      simp [ClassItem.range?, ClassItem.contains, Bool.or_assoc, Bool.or_left_comm]

/-- A class with many items is kept without repetitions and with its ranges in a tree, which
membership does not depend on. -/
def CharClass.compact (cls : CharClass) : CharClass :=
  if cls.items.length ≤ maxWrittenItems then cls
  else
    let items := (Std.HashSet.ofList cls.items).toList
    { cls with
      items := items.filter (·.range?.isNone) ++
        (RangeTree.forest (items.filterMap ClassItem.range?)).map .ranges }

@[simp] theorem CharClass.contains_compact (cls : CharClass) (c : Char) :
    cls.compact.contains c = cls.contains c := by
  unfold compact
  split
  · rfl
  · have same : (Std.HashSet.ofList cls.items).toList.any (·.contains c.toNat) =
        cls.items.any (·.contains c.toNat) := by
      rw [Bool.eq_iff_iff]
      simp only [List.any_eq_true, Std.HashSet.mem_toList, Std.HashSet.mem_ofList,
        List.contains_iff_mem]
    simp only [contains]
    rw [← same, List.any_append, List.any_map,
      ClassItem.any_split (Std.HashSet.ofList cls.items).toList, ← RangeTree.any_forest]
    rfl

end GrammarKit
