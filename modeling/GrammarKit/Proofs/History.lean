import GrammarKit.Registry.Operation
import Mathlib.Data.List.Nodup

/-!
# Histories of grammars

Whatever is done to a grammar comes down to three acts: a rule is bound to a name, the rule of a
name is taken away, or a name is referred to. Which rules a grammar should have then, in which
order, and what it should have logged, can be told from the history of these acts.

* `Act`, `History` — what was done to a grammar;
* `History.rule?`, `History.entered`, `History.names`, `History.records` — what is to be told from a
  history;
* `History.acts`, `History.through` — the acts that operations come down to;
* `History.Legal` — a history that operations may have;
* `History.pairwise_names` — names stand in the order in which they were entered;
* `History.countP_records` — the records count the names.
-/

namespace GrammarKit

/-- What may be done to a grammar. -/
inductive Act where
  /-- A rule is bound to a name. -/
  | bind (name : String) (rule : Rule)
  /-- The rule of a name is taken away. -/
  | remove (name : String)
  /-- A name is referred to. -/
  | refer (name : String)

/-- All that was done to a grammar, the latest act first. -/
abbrev History := List Act

namespace Act

/-- The act of binding a rule to a key, if the key is a non-empty text and the rule is a parser. -/
def binding? (key : Value) (rule : Rule) : Option Act :=
  match key, rule.parser.inert? with
  | .text name, none => if name = "" then none else some (.bind name rule)
  | _, _ => none

/-- The acts of binding several rules in order, up to the first that cannot be bound. -/
def bindings : List (Value × Rule) → List Act
  | [] => []
  | (key, rule) :: pairs =>
    match binding? key rule with
    | some act => act :: bindings pairs
    | none => []

/-- Whether a rule is taken away. -/
def isRemoval : Act → Bool
  | remove _ => true
  | bind .. | refer _ => false

end Act

/-- Whether a rule was bound to a name that had none. -/
def LogRecord.isBound : LogRecord → Bool
  | bound .. => true
  | _ => false

namespace History

/-- The rule that was bound to a name last, unless it was taken away since then. -/
def rule? : History → String → Option Rule
  | [], _ => none
  | .bind n rule :: h, name => if n = name then some rule else rule? h name
  | .remove n :: h, name => if n = name then none else rule? h name
  | .refer _ :: h, name => rule? h name

/-- The moment when a name was last bound while it had no rule, as the number of acts before. -/
def entered : History → String → Nat
  | [], _ => 0
  | .bind n _ :: h, name => if n = name ∧ rule? h name = none then h.length else entered h name
  | .remove _ :: h, name | .refer _ :: h, name => entered h name

/-- The names that have a rule. A name that has none goes to the end when it is bound. -/
def names : History → List String
  | [] => []
  | .bind n _ :: h => if n ∈ names h then names h else names h ++ [n]
  | .remove n :: h => (names h).erase n
  | .refer _ :: h => names h

/-- The records of all bindings, in the order of time. A name that has a rule is rebound. -/
def records (label : String) : History → List LogRecord
  | [] => []
  | .bind n _ :: h =>
    records label h ++ [if (rule? h n).isSome then .rebound label n else .bound label n]
  | .remove _ :: h | .refer _ :: h => records label h

/-- How many rules were taken away. -/
def removals (h : History) : Nat := h.countP Act.isRemoval

/-- Names are no empty texts and are bound to parsers, and rules are taken away where there are
some. -/
def Legal : History → Prop
  | [] => True
  | .bind n rule :: h => (n ≠ "" ∧ rule.parser.inert? = none) ∧ Legal h
  | .remove n :: h => (rule? h n).isSome ∧ Legal h
  | .refer _ :: h => Legal h

/-- The history after more acts, which are given in the order of time. -/
def after (h : History) : List Act → History
  | [] => h
  | act :: acts => after (act :: h) acts

/-! ### The acts of operations -/

/-- The rule under a key. -/
def find? (h : History) : Value → Option Rule
  | .text name => rule? h name
  | _ => none

/-- The act of taking the rule under a key away, if there is one. -/
def removal (h : History) : Value → List Act
  | .text name => if (rule? h name).isSome then [.remove name] else []
  | _ => []

/-- The acts that an operation comes down to, in the order of time. -/
def acts (h : History) : Operation → List Act
  | .bind key rule => (Act.binding? key rule).toList
  | .erase key | .pop key _ => removal h key
  | .popItem => ((names h).take 1).map .remove
  | .setDefault key rule => if (find? h key).isSome then [] else (Act.binding? key rule).toList
  | .update pairs => Act.bindings pairs
  | .clear => (names h).map .remove
  | .refer (.text name) => if name = "" then [] else [.refer name]
  | .refer _ => []

/-- The history after several operations. -/
def through (h : History) : List Operation → History
  | [] => h
  | operation :: operations => through (after h (acts h operation)) operations

theorem removal_eq_nil {h : History} {key : Value} (hnone : find? h key = none) :
    removal h key = [] := by
  unfold removal
  split
  · have hrule : rule? h _ = none := hnone
    rw [hrule]
    rfl
  · rfl

/-! ### What a history tells -/

variable {h : History} {n : String}

theorem nodup_names (h : History) : (names h).Nodup := by
  induction h with
  | nil => exact List.nodup_nil
  | cons act h ih =>
    cases act with
    | bind n rule =>
      rw [names]
      split
      · exact ih
      · next hn =>
        refine List.nodup_append.2 ⟨ih, List.nodup_singleton n, fun m hm k hk heq => hn ?_⟩
        rwa [← List.mem_singleton.1 hk, ← heq]
    | remove n => exact ih.erase n
    | refer n => exact ih

/-- The names in a history are those with a rule. -/
theorem mem_names_iff : n ∈ names h ↔ (rule? h n).isSome := by
  induction h with
  | nil => simp [names, rule?]
  | cons act h ih =>
    cases act with
    | bind m rule =>
      by_cases hmn : m = n
      · subst hmn
        by_cases hm : m ∈ names h
        · simp [names, rule?, hm]
        · simp [names, rule?, hm]
      · have hnm : n ≠ m := fun heq => hmn heq.symm
        by_cases hm : m ∈ names h
        · simp [names, rule?, hm, hmn, ih]
        · simp [names, rule?, hm, hmn, hnm, ih]
    | remove m =>
      rw [names, (nodup_names h).mem_erase_iff, ih, rule?]
      by_cases hmn : m = n
      · simp [hmn]
      · simp [hmn, Ne.symm hmn]
    | refer m => exact ih

theorem rule?_eq_none_iff : rule? h n = none ↔ n ∉ names h := by
  simp [mem_names_iff]

/-- Names that have a rule keep the moment when they were entered. -/
theorem entered_bind_of_mem (hn : n ∈ names h) (m : String) (rule : Rule) :
    entered (.bind m rule :: h) n = entered h n := by
  rw [entered, if_neg]
  rintro ⟨-, hnone⟩
  exact rule?_eq_none_iff.1 hnone hn

/-- A name that has a rule was entered some time ago. -/
theorem entered_lt (hn : n ∈ names h) : entered h n < h.length := by
  induction h with
  | nil => cases hn
  | cons act h ih =>
    have hlater (hold : n ∈ names h) : entered h n < (act :: h).length :=
      Nat.lt_succ_of_lt (ih hold)
    cases act with
    | bind m rule =>
      by_cases hold : n ∈ names h
      · rw [entered_bind_of_mem hold]
        exact hlater hold
      · have hnone := rule?_eq_none_iff.2 hold
        have hmn : m = n := by
          rw [mem_names_iff, rule?, hnone] at hn
          by_contra hne
          simp [hne] at hn
        rw [entered, if_pos ⟨hmn, hnone⟩]
        exact Nat.lt_succ_self _
    | remove m => exact hlater (List.mem_of_mem_erase hn)
    | refer m => exact hlater hn

/-- **Names stand in the order in which they were entered.** -/
theorem pairwise_names (h : History) :
    (names h).Pairwise fun m n => entered h m < entered h n := by
  induction h with
  | nil => exact List.Pairwise.nil
  | cons act h ih =>
    cases act with
    | bind n rule =>
      have hold : (names h).Pairwise fun l m =>
          entered (.bind n rule :: h) l < entered (.bind n rule :: h) m := by
        refine ih.imp_of_mem fun hl hm hlt => ?_
        rwa [entered_bind_of_mem hl, entered_bind_of_mem hm]
      rw [names]
      split
      · exact hold
      · next hn =>
        refine List.pairwise_append.2 ⟨hold, List.pairwise_singleton _ _, fun m hm k hk => ?_⟩
        rw [List.mem_singleton.1 hk, entered_bind_of_mem hm, entered,
          if_pos ⟨rfl, rule?_eq_none_iff.2 hn⟩]
        exact entered_lt hm
    | remove n => exact ih.sublist List.erase_sublist
    | refer n => exact ih

/-- What is bound is a parser, and has a name. -/
theorem Legal.rule (hlegal : Legal h) {rule : Rule} (hrule : rule? h n = some rule) :
    n ≠ "" ∧ rule.parser.inert? = none := by
  induction h with
  | nil => cases hrule
  | cons act h ih =>
    cases act with
    | bind m bound =>
      rw [rule?] at hrule
      split at hrule
      · next heq =>
        cases hrule
        exact heq ▸ hlegal.1
      · exact ih hlegal.2 hrule
    | remove m =>
      rw [rule?] at hrule
      split at hrule
      · cases hrule
      · exact ih hlegal.2 hrule
    | refer m => exact ih hlegal hrule

/-- **The records count the names.** As many rules were bound to names without one as there are
names now and removals before. -/
theorem countP_records (label : String) (hlegal : Legal h) :
    (records label h).countP LogRecord.isBound = (names h).length + removals h := by
  induction h with
  | nil => rfl
  | cons act h ih =>
    cases act with
    | bind n rule =>
      have hremovals : removals (.bind n rule :: h) = removals h :=
        List.countP_cons_of_neg Bool.false_ne_true
      rw [records, names, hremovals, List.countP_append, ih hlegal.2]
      by_cases hn : n ∈ names h
      · rw [if_pos hn, if_pos (mem_names_iff.1 hn)]
        rfl
      · rw [if_neg hn, rule?_eq_none_iff.2 hn, List.length_append]
        exact Nat.add_right_comm ..
    | remove n =>
      have hmem := mem_names_iff.2 hlegal.1
      have hremovals : removals (.remove n :: h) = removals h + 1 := List.countP_cons_of_pos rfl
      have hpos := List.length_pos_of_mem hmem
      rw [records, names, hremovals, ih hlegal.2, List.length_erase_of_mem hmem]
      omega
    | refer n => exact ih hlegal

end History

end GrammarKit
