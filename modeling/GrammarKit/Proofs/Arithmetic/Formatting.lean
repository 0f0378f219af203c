import GrammarKit.Arithmetic.Basic
import GrammarKit.Proofs.Arithmetic.Language
import GrammarKit.Proofs.Reading
import GrammarKit.Proofs.Transcript

/-!
# What the formatters of arithmetic give

* `Text.readInteger_digits` — a row of digits is read as the number that it is in base ten;
* `integer_gives` — the formatter of numbers;
* `second_gives` — the formatter of groups;
* `foldChain_gives` — the formatter of chains, which applies the steps from left to right.
-/

namespace GrammarKit

namespace Text

theorem isDigit_iff {char : Char} :
    char.isDigit = true ↔ 48 ≤ char.toNat ∧ char.toNat ≤ 57 := by
  simp only [Char.isDigit, Bool.and_eq_true, decide_eq_true_eq]
  exact and_congr UInt32.le_iff_toNat_le UInt32.le_iff_toNat_le

theorem digitValue?_of_isDigit {char : Char} (h : char.isDigit = true) :
    digitValue? char = some (char.toNat - 48) := by
  have hrange := isDigit_iff.1 h
  rw [digitValue?, if_pos (by omega), if_pos (by omega)]

/-- No blank is a digit. -/
theorem isPadding_of_isDigit {char : Char} (h : char.isDigit = true) : isPadding char = false := by
  have hrange := isDigit_iff.1 h
  have hblank : ∀ n, n < 58 → 48 ≤ n → isBlank n = false := by decide
  rw [isPadding, hblank _ (by omega) hrange.1, Bool.false_and]

theorem readDigits_digits {ds : List Char} (hds : ∀ d ∈ ds, d.isDigit = true) (digits : List Nat) :
    readDigits digits ds = some ⟨(ds.map (·.toNat - 48)).reverse ++ digits, []⟩ := by
  induction ds generalizing digits with
  | nil => rfl
  | cons d ds ih =>
    have hd := hds d (List.mem_cons_self ..)
    have hunderscore : d ≠ '_' := by
      rintro rfl
      cases hd
    rw [readDigits]
    · rw [digitValue?_of_isDigit hd]
      simp [ih fun e he => hds e (List.mem_cons_of_mem _ he)]
    · exact fun h => absurd h hunderscore
    · exact fun _ _ h => absurd h hunderscore

/-- Digits in reverse order denote the number that they are in order. -/
theorem positional_reverse (ds : List Char) :
    positional 10 (ds.map (·.toNat - 48)).reverse = Nat.ofDigitChars 10 ds 0 := by
  rw [positional, List.foldr_reverse, List.foldl_map, Nat.ofDigitChars_eq_foldl]
  rfl

/-- A row of digits that is not too long is read as the number that it is in base ten. -/
theorem readInteger_digits {limit : Nat} {d : Char} {ds : List Char}
    (hds : ∀ e ∈ d :: ds, e.isDigit = true) (hlimit : (d :: ds).length ≤ limit) :
    readInteger limit (String.ofList (d :: ds)) = .ok (Nat.ofDigitChars 10 (d :: ds) 0) := by
  have hd := hds d (List.mem_cons_self ..)
  have hrow : readRow (d :: ds) = some ⟨((d :: ds).map (·.toNat - 48)).reverse, []⟩ := by
    rw [readRow, digitValue?_of_isDigit hd]
    simpa using readDigits_digits (fun e he => hds e (List.mem_cons_of_mem _ he)) [d.toNat - 48]
  have hnatural : readNatural limit (d :: ds) = .ok (Nat.ofDigitChars 10 (d :: ds) 0) := by
    rw [readNatural, hrow]
    simp only
    rw [if_neg (by simpa using hlimit), DigitRow.value_eq, positional_reverse]
    rfl
  have hsign : d ≠ '+' ∧ d ≠ '-' := by
    constructor <;> (rintro rfl; cases hd)
  rw [readInteger, String.toList_ofList, List.dropWhile_cons_of_neg
    (by simp [isPadding_of_isDigit hd]), readSigned, hnatural]
  · rfl
  · exact fun _ h => hsign.1 (List.cons.inj h).1
  · exact fun _ h => hsign.2 (List.cons.inj h).1

end Text

namespace Arithmetic

open Formatter

/-- The formatter of numbers gives the number that the digits are. -/
theorem integer_gives {limit : Nat} {v : Value} {d : Char} {ds : List Char}
    (hspells : Spells v (String.ofList (d :: ds)))
    (hds : ∀ e ∈ d :: ds, e.isDigit = true) (hlimit : (d :: ds).length ≤ limit) :
    (integer limit).Gives v (.int (Nat.ofDigitChars 10 (d :: ds) 0)) := by
  intro s
  filter_upwards [Filter.eventually_ge_atTop v.joinDepth] with room hroom
  refine ⟨?_, rfl⟩
  have htext : s.matchedText room v = .ok (String.ofList (d :: ds)) := by
    rw [hspells.matchedText, if_pos hroom]
  simp only [integer, readingWithin, htext, bind, Except.bind, integerOf,
    Text.readInteger_digits hds hlimit]

/-- The formatter of groups gives what stands between the parentheses. -/
theorem second_gives (a b : Value) (vs : List Value) :
    second.Gives (.tagged .sequence (.list (a :: b :: vs))) b :=
  fun _ => .of_forall fun _ => ⟨rfl, rfl⟩

/-! ### Chains -/

/-- The value of an operator and its operand. -/
def stepValue (step : Operator × Int) : Value :=
  .list [.tagged .charClass (.text (String.singleton step.1.symbol)), .int step.2]

/-- A total after some steps, applied from left to right. -/
def applySteps (total : Int) (steps : List (Operator × Int)) : Int :=
  steps.foldl (fun total step => step.1.apply total step.2) total

theorem applyOperator_stepValue (total : Int) (step : Operator × Int) :
    applyOperator (.value (.int total)) (stepValue step) =
      pure (.value (.int (step.1.apply total step.2))) := by
  obtain ⟨op, operand⟩ := step
  cases op <;> rfl

theorem foldlM_applyOperator (total : Int) (steps : List (Operator × Int)) :
    (steps.map stepValue).toArray.foldlM applyOperator (.value (.int total)) =
      pure (.value (.int (applySteps total steps))) := by
  rw [List.foldlM_toArray]
  induction steps generalizing total with
  | nil => rfl
  | cons step steps ih =>
    rw [List.map_cons, List.foldlM_cons, applyOperator_stepValue, pure_bind, ih]
    rfl

theorem foldSteps_stepValue (total : Int) (steps : List (Operator × Int)) :
    foldSteps (.value (.int total)) (.list (steps.map stepValue)) =
      pure (.value (.int (applySteps total steps))) := by
  have hcontents : Accumulation.contents (.list (steps.map stepValue)) =
      pure (steps.map stepValue).toArray := rfl
  rw [foldSteps, hcontents, pure_bind, foldlM_applyOperator]
  nofun

/-- The formatter of chains applies the steps to the first operand, from left to right. -/
theorem foldChain_gives (total : Int) (steps : List (Operator × Int)) :
    foldChain.Gives
      (.tagged .sequence
        (.list [.int total, .tagged .repetition (.list (steps.map stepValue))]))
      (.int (applySteps total steps)) := by
  intro s
  refine .of_forall fun _ => ?_
  have hfold : (do
      let total ← foldSteps (.ofValue (.int total))
        (Value.tagged .repetition (.list (steps.map stepValue))).unwrap
      return total.toValue : Accumulation Value) = pure (.int (applySteps total steps)) := by
    rw [Value.unwrap_tagged, Total.ofValue, foldSteps_stepValue, pure_bind]
    · rfl
    · nofun
  have hrun := congrArg (fun run => run.run.run s) hfold
  constructor
  · exact congrArg Prod.fst hrun
  · exact congrArg Prod.snd hrun

end Arithmetic

end GrammarKit
