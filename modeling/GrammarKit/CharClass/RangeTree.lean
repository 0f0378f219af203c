/-!
# Trees of ranges

Many ranges of code points are kept in trees. A branch knows the bounds of all that is below it, so
a look-up leaves out whatever is out of reach. The ranges are put in order first; then of two
branches at most one is gone through to its end.

* `RangeTree` — a range, or two trees with their common bounds;
* `RangeTree.contains` — whether one of the ranges holds a code point;
* `RangeTree.forest` — the trees made of given ranges;
* `RangeTree.any_forest` — they hold what the ranges hold.
-/

namespace GrammarKit

/-- Ranges of code points with the bounds of what is below each branch. -/
inductive RangeTree where
  /-- The code points from `lo` to `hi`, both included. -/
  | leaf (lo hi : Nat)
  /-- The code points of two trees that lie between `lo` and `hi`. -/
  | branch (lo hi : Nat) (left right : RangeTree)
deriving DecidableEq, Hashable, Repr

namespace RangeTree

/-- The lower bound. -/
def lo : RangeTree → Nat
  | leaf lo _ => lo
  | branch lo _ _ _ => lo

/-- The upper bound. -/
def hi : RangeTree → Nat
  | leaf _ hi => hi
  | branch _ hi _ _ => hi

/-- Whether one of the ranges holds a code point. -/
def contains : RangeTree → Nat → Bool
  | leaf lo hi, point => lo ≤ point && point ≤ hi
  | branch lo hi left right, point =>
    lo ≤ point && point ≤ hi && (left.contains point || right.contains point)

/-- Two trees in one. -/
def join (left right : RangeTree) : RangeTree :=
  branch (min left.lo right.lo) (max left.hi right.hi) left right

/-- What a tree holds is within its bounds. -/
theorem bounds_of_contains {tree : RangeTree} {point : Nat} (h : tree.contains point = true) :
    tree.lo ≤ point ∧ point ≤ tree.hi := by
  cases tree with
  | leaf lo hi => simpa [contains, RangeTree.lo, RangeTree.hi] using h
  | branch lo hi left right =>
    simp only [contains, Bool.and_eq_true, decide_eq_true_eq] at h
    exact h.1

/-- Two trees in one hold what one of them holds. -/
theorem contains_join (left right : RangeTree) (point : Nat) :
    (left.join right).contains point = (left.contains point || right.contains point) := by
  rw [Bool.eq_iff_iff]
  simp only [join, contains, Bool.and_eq_true, Bool.or_eq_true, decide_eq_true_eq]
  constructor
  · exact fun h => h.2
  · intro h
    refine ⟨?_, h⟩
    rcases h with h | h
    · have := bounds_of_contains h
      omega
    · have := bounds_of_contains h
      omega

/-- Neighbours joined two by two. -/
def joinPairs : List RangeTree → List RangeTree
  | first :: second :: trees => first.join second :: joinPairs trees
  | trees => trees

/-- Joining changes nothing for a look-up. -/
theorem any_joinPairs (trees : List RangeTree) (point : Nat) :
    (joinPairs trees).any (·.contains point) = trees.any (·.contains point) := by
  fun_induction joinPairs trees with
  | case1 first second trees ih =>
    rw [List.any_cons, ih, contains_join, List.any_cons, List.any_cons, Bool.or_assoc]
  | case2 => rfl

/-- Neighbours joined over and over. -/
def joinAll : (rounds : Nat) → List RangeTree → List RangeTree
  | 0, trees => trees
  | rounds + 1, trees => joinAll rounds (joinPairs trees)

theorem any_joinAll (rounds : Nat) (trees : List RangeTree) (point : Nat) :
    (joinAll rounds trees).any (·.contains point) = trees.any (·.contains point) := by
  induction rounds generalizing trees with
  | zero => rfl
  | succ rounds ih => rw [joinAll, ih, any_joinPairs]

/-- The trees made of given ranges: each round halves their number, so one is left at the end. -/
def forest (ranges : List (Nat × Nat)) : List RangeTree :=
  joinAll (ranges.length.log2 + 1)
    ((ranges.mergeSort fun a b => decide (a.1 ≤ b.1)).map fun range => leaf range.1 range.2)

/-- The trees hold what the ranges hold. -/
theorem any_forest (ranges : List (Nat × Nat)) (point : Nat) :
    (forest ranges).any (·.contains point) =
      ranges.any fun range => range.1 ≤ point && point ≤ range.2 := by
  rw [forest, any_joinAll, List.any_map, Bool.eq_iff_iff]
  simp only [List.any_eq_true, List.mem_mergeSort, Function.comp_apply, contains]

end RangeTree

end GrammarKit
