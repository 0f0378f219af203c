/-!
# Things several times over

Texts and rows of items are repeated by doubling, so that a long row of copies takes few steps.

* `repeated` — a thing that can be appended to, as often as a count says;
* `repeatedText`, `repeatedItems` — the same for texts and for rows of items.
-/

namespace GrammarKit

/-- A thing as often as a count says, which is at most `bound`; not even once is `empty`. -/
@[specialize] def repeatedWithin {α : Type} [Append α] (empty thing : α) :
    (bound count : Nat) → α
  | 0, _ => empty
  | bound + 1, count =>
    if count = 0 then empty
    else
      let half := repeatedWithin empty thing bound (count / 2)
      if count % 2 = 0 then half ++ half else half ++ half ++ thing

/-- A thing as often as a count says; not even once is `empty`. -/
def repeated {α : Type} [Append α] (empty thing : α) (count : Nat) : α :=
  repeatedWithin empty thing count count

section

variable {α β : Type} [Append α] (parts : α → List β) (empty thing : α)

/-- The parts of a repeated thing are its parts, over and over. -/
theorem parts_repeatedWithin (parts_empty : parts empty = [])
    (parts_append : ∀ a b, parts (a ++ b) = parts a ++ parts b) {bound count : Nat}
    (h : count ≤ bound) :
    parts (repeatedWithin empty thing bound count) =
      (List.replicate count (parts thing)).flatten := by
  induction bound generalizing count with
  | zero => rw [Nat.le_zero.1 h, repeatedWithin, parts_empty, List.replicate_zero, List.flatten_nil]
  | succ bound ih =>
    rw [repeatedWithin]
    split
    · next h => rw [h, parts_empty, List.replicate_zero, List.flatten_nil]
    · have half := @ih (count / 2) (by omega)
      have double : (List.replicate (count / 2 + count / 2) (parts thing)).flatten =
          (List.replicate (count / 2) (parts thing)).flatten ++
            (List.replicate (count / 2) (parts thing)).flatten := by
        rw [← List.replicate_append_replicate, List.flatten_append]
      dsimp only
      split
      · rw [parts_append, half, ← double, show count / 2 + count / 2 = count by omega]
      · rw [parts_append, parts_append, half, ← double]
        have odd : count = (count / 2 + count / 2) + 1 := by omega
        rw [odd, List.replicate_succ', List.flatten_concat, ← odd]

theorem parts_repeated (parts_empty : parts empty = [])
    (parts_append : ∀ a b, parts (a ++ b) = parts a ++ parts b) (count : Nat) :
    parts (repeated empty thing count) = (List.replicate count (parts thing)).flatten :=
  parts_repeatedWithin parts empty thing parts_empty parts_append (Nat.le_refl count)

end

/-- A text as often as a count says. -/
def repeatedText (text : String) (count : Nat) : String :=
  repeated "" text count

/-- Its characters are those of the text, over and over. -/
theorem toList_repeatedText (text : String) (count : Nat) :
    (repeatedText text count).toList = (List.replicate count text.toList).flatten :=
  parts_repeated String.toList "" text String.toList_empty (fun _ _ => String.toList_append) count

/-- A row of items as often as a count says. -/
def repeatedItems {α : Type} (items : Array α) (count : Nat) : Array α :=
  repeated #[] items count

/-- Its items are those of the row, over and over. -/
theorem toList_repeatedItems {α : Type} (items : Array α) (count : Nat) :
    (repeatedItems items count).toList = (List.replicate count items.toList).flatten :=
  parts_repeated Array.toList #[] items rfl (fun _ _ => Array.toList_append) count

end GrammarKit
