import GrammarKit.Proofs.Termination
import GrammarKit.Proofs.WholeSource
import Mathlib.Data.Fin.VecNotation
import Mathlib.Tactic.FinCases

/-!
# Left recursion

A parser that starts with a reference applies that reference before anything else, at the same
cursor. Where the rules of some names start with each other in a circle, every application leads to
another one of the same kind, one level deeper. No child ever ends, so there is no match, no
mismatch and no event before the recursion limit is reached, however large it is.

* `StartsWith` — a parser starts with the reference to a name;
* `Scope.StartsWithin` — a set of names whose rules start with names of the set;
* `Scope.StartsWithin.run_eq` — a parser that starts with such a name exhausts every recursion
  limit;
* `leftRecursion_reported` — the same for a circle of rules, and what engines say of it.
-/

namespace GrammarKit

/-- The first thing that the parser applies is the reference to a name in the registry. -/
inductive StartsWith (registry : RegistryId) : Parser → Value → Prop
  | reference {name} : StartsWith registry (.reference registry name) name
  | sequence {first others format name} (h : StartsWith registry first name) :
      StartsWith registry (.sequence (first :: others) format) name
  | alternation {first others format name} (h : StartsWith registry first name) :
      StartsWith registry (.alternation (first :: others) format) name
  | optional {child format name} (h : StartsWith registry child name) :
      StartsWith registry (.optional child format) name
  | repetition {child minimum format name} (h : StartsWith registry child name) :
      StartsWith registry (.repetition child minimum format) name

/-- A fault of the application leaves nothing to the branches. -/
@[simp] theorem Run.branch_fault {α β : Type} (f : Fault) (next : α → Cursor → Run β)
    (other : Run β) : (fault f : Run α).branch next other = fault f := rfl

variable {scope : Scope} {registry : RegistryId}

/-- Each of the names has a rule, which starts with one of them. -/
def Scope.StartsWithin (scope : Scope) (registry : RegistryId) (names : Set Value) : Prop :=
  ∀ name ∈ names, name.keyObstacle? = none ∧
    ∃ rule, scope registry name = some rule ∧ ∃ next ∈ names, StartsWith registry rule next

/-- **Left recursion exhausts every recursion limit.** The application has no events and changes no
shared list. -/
theorem Scope.StartsWithin.run_eq {names : Set Value} (h : scope.StartsWithin registry names)
    {p : Parser} {name : Value} (hname : name ∈ names) (hp : StartsWith registry p name)
    (limit : Nat) : p.run scope limit = fun _ => .fault .recursionLimit := by
  induction limit generalizing p name with
  | zero => rfl
  | succ limit ih =>
    -- Under the smaller limit no child that starts with one of the names comes to an end.
    funext c
    cases hp with
    | reference =>
      obtain ⟨hkey, rule, hbound, next, hnext, hrule⟩ := h name hname
      rw [Parser.run_reference_of_bound _ _ hkey hbound, ih hnext hrule]
    | sequence hfirst =>
      rw [Parser.run_sequence, Matcher.sequence_eq_row, Matcher.row_cons, ih hname hfirst,
        Run.branch_fault]
    | alternation hfirst =>
      rw [Parser.run_alternation, Matcher.alternation_cons, ih hname hfirst, Run.branch_fault]
    | optional hchild =>
      rw [Parser.run_optional, Matcher.optional_eq_branch, ih hname hchild, Run.branch_fault]
    | repetition hchild =>
      rw [Parser.run_repetition, Matcher.repetition_eq_loop, Matcher.loop_succ, ih hname hchild,
        Run.branch_fault]

/-- The rules of a circle of names start within the circle. -/
theorem Workspace.startsWithin_range {w : Workspace} {k : Nat} {names : Fin (k + 1) → Value}
    {rules : Fin (k + 1) → Parser} (hbound : ∀ i, w.scope registry (names i) = some (rules i))
    (hstarts : ∀ i, StartsWith registry (rules i) (names (i + 1))) :
    w.scope.StartsWithin registry (Set.range names) := by
  rintro _ ⟨i, rfl⟩
  exact ⟨(scope_eq_some (hbound i)).1, rules i, hbound i, _, Set.mem_range_self (i + 1), hstarts i⟩

/-- **Left recursion is reported.** Let the rules of one or more names start with each other in a
circle. A parser that starts with one of the names exhausts every recursion limit at every cursor;
and of every source that is not too long an engine says so, with one warning as the only event and a
misuse at the start of the source as the result. -/
theorem leftRecursion_reported {w : Workspace} {k : Nat} {names : Fin (k + 1) → Value}
    {rules : Fin (k + 1) → Parser} (hbound : ∀ i, w.scope registry (names i) = some (rules i))
    (hstarts : ∀ i, StartsWith registry (rules i) (names (i + 1))) {p : Parser} {i : Fin (k + 1)}
    (hp : StartsWith registry p (names i)) (limit : Nat) :
    (∀ c s, p.run w.scope limit c s = ⟨[], .fault .recursionLimit, s⟩) ∧
    ∀ (engine : Engine) (text : String) (s : Store), engine.checkSize text.length = .ok () →
      ∃ record f diagnostic,
        engine.matchPrefix limit (p.run w.scope limit) (.text text) s =
          ⟨[.log record], .fault f, s⟩ ∧
        engine.matchAll limit (p.run w.scope limit) (.text text) s = ⟨[.log record], .error f, s⟩ ∧
        record.level = .warning ∧ f = .misuse .depth (.diagnosed diagnostic) ∧
        diagnostic.code = .recursionLimitExceeded ∧
        diagnostic.span = some ⟨0, 0, 1, 1, by decide, by decide, by decide⟩ := by
  have hrun : ∀ c s, p.run w.scope limit c s = ⟨[], .fault .recursionLimit, s⟩ := by
    intro c s
    rw [(Workspace.startsWithin_range hbound hstarts).run_eq (Set.mem_range_self i) hp]
    rfl
  refine ⟨hrun, fun engine text s hsize => ?_⟩
  exact ⟨_, _, _, Engine.matchPrefix_of_exhausted hsize (hrun _ s),
    Engine.matchAll_of_exhausted hsize (hrun _ s), rfl, rfl, rfl, rfl⟩

/-- A sum starts with a product, be it in a repetition. -/
def sumRule : Parser :=
  .alternation
    [.repetition (.reference 0 (.text "product")) 2 .identity, .literal "1" .identity] .unwrap

/-- A product starts with a sum, be it left out. -/
def productRule : Parser :=
  .sequence [.optional (.reference 0 (.text "sum")) .identity, .literal "*" .identity] .matchedText

/-- A workspace with both rules. -/
def circleWorkspace : Workspace where
  registries := #[.grammar { rules := [("sum", ⟨0, sumRule⟩), ("product", ⟨1, productRule⟩)] }]
  names := []

theorem leftRecursion_reported_circle :
    ∃ record f diagnostic,
      ({} : Engine).matchPrefix 1000 (productRule.run circleWorkspace.scope 1000) (.text "1*1") {} =
        ⟨[.log record], .fault f, {}⟩ ∧
      ({} : Engine).matchAll 1000 (productRule.run circleWorkspace.scope 1000) (.text "1*1") {} =
        ⟨[.log record], .error f, {}⟩ ∧
      record.level = .warning ∧ f = .misuse .depth (.diagnosed diagnostic) ∧
      diagnostic.code = .recursionLimitExceeded ∧
      diagnostic.span = some ⟨0, 0, 1, 1, by decide, by decide, by decide⟩ := by
  have hbound : ∀ i : Fin 2, circleWorkspace.scope 0 (![.text "sum", .text "product"] i) =
      some (![sumRule, productRule] i) := by
    intro i
    fin_cases i <;> rfl
  have hstarts : ∀ i : Fin 2,
      StartsWith 0 (![sumRule, productRule] i) (![.text "sum", .text "product"] (i + 1)) := by
    intro i
    fin_cases i
    · exact .alternation (.repetition .reference)
    · exact .sequence (.optional .reference)
  have hp : StartsWith 0 productRule (![.text "sum", .text "product"] (0 : Fin 2)) :=
    .sequence (.optional .reference)
  have hreport := (leftRecursion_reported hbound hstarts hp 1000).2
  exact hreport {} "1*1" {} (by rw [Engine.checkSize_default]; rfl)

end GrammarKit
