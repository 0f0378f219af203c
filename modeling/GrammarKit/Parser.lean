import GrammarKit.Diagnostic.Naming
import GrammarKit.Formatter.Basic
import GrammarKit.Matcher.Combinators

/-!
# Parsers

A parser is a tree of combinators. Its leaves include references, which are looked up by name in a
registry at the moment they are applied, so rules can refer to themselves and to each other. Running
a parser needs a bound on the nesting of applications, the recursion limit. What is left of it is
the room that formatters have for their own calls.

* `Parser` — the trees;
* `Scope` — what the registries bind;
* `Parser.run` — the matcher of a parser under a recursion limit.
-/

namespace GrammarKit

/-- The handle of a registry. -/
abbrev RegistryId := Nat

/-- A tree of combinators. -/
inductive Parser where
  | literal (text : IndexedText) (format : Formatter)
  | charClass (cls : CharClass) (format : Formatter)
  | sequence (children : List Parser) (format : Formatter)
  | alternation (children : List Parser) (format : Formatter)
  | optional (child : Parser) (format : Formatter)
  | repetition (child : Parser) (minimum : Nat) (format : Formatter)
  /-- The rule that a registry binds to a name when the reference is applied. -/
  | reference (registry : RegistryId) (name : Value)
  /-- A hand-written parser. -/
  | leaf (leaf : Leaf)
  /-- Any other parser, as a function. -/
  | custom (matcher : Matcher)
  /-- A parser whose applications are marked. -/
  | probe (label : String) (inner : Parser)
  /-- A value in the place of a parser. -/
  | inert (value : Value)

/-- The parser that each registry binds to each name, if any. -/
abbrev Scope := RegistryId → Value → Option Parser

namespace Parser

/-- The value that stands in the place of a parser, if there is one. -/
def inert? : Parser → Option Value
  | inert value => some value
  | _ => none

/-- The fault of a reference applied while its name is not bound; `room` bounds the nesting of the
name, which the message gives. -/
def unboundFault (room : Nat) (name : Value) (c : Cursor) : Fault :=
  .reporting (fun diagnostic => .misuse (.unbound name) (.diagnosed diagnostic))
    (Diagnostic.unboundReference room name (some c.span))

/-- The fault is a diagnostic that gives the name; or the one that kept it from being written. -/
theorem unboundFault_cases (room : Nat) (name : Value) (c : Cursor) :
    (∃ diagnostic, Diagnostic.unboundReference room name (some c.span) = .ok diagnostic ∧
      unboundFault room name c = .misuse (.unbound name) (.diagnosed diagnostic)) ∨
    ∃ f, Diagnostic.unboundReference room name (some c.span) = .error f ∧
      unboundFault room name c = f ∧
      (f = .recursionLimit ∨ f = .integerTooLong Text.numeralLimit) := by
  unfold unboundFault
  cases h : Diagnostic.unboundReference room name (some c.span) with
  | ok diagnostic => exact Or.inl ⟨diagnostic, rfl, rfl⟩
  | error f => exact Or.inr ⟨f, rfl, rfl, Diagnostic.unboundReference_failsOnly _ _ _ f h⟩

/-- With more room the fault is the same, unless writing the name exhausted the recursion limit. -/
theorem unboundFault_stable {room room' : Nat} (hle : room ≤ room') (name : Value) (c : Cursor) :
    unboundFault room name c = .recursionLimit ∨
      unboundFault room' name c = unboundFault room name c := by
  unfold unboundFault
  rcases Diagnostic.unboundReference_unlessExhausted hle name (some c.span) with h | h
  · exact Or.inl (by rw [h]; rfl)
  · exact Or.inr (by rw [h])

/-- The matcher of a parser when at most `limit` applications may be nested. -/
def run (scope : Scope) : (limit : Nat) → Parser → Matcher
  | 0, _ => fun _ => .fault .recursionLimit
  | limit + 1, parser =>
    match parser with
    | literal text format => Matcher.literal text (format.within limit)
    | charClass cls format => Matcher.charClass cls (format.within limit)
    | sequence children format =>
      Matcher.sequence (run scope limit) children (format.within limit)
    | alternation children format =>
      Matcher.alternation (run scope limit) children (format.within limit)
    | optional child format => Matcher.optional (run scope limit child) (format.within limit)
    | repetition child minimum format =>
      Matcher.repetition (run scope limit child) minimum (format.within limit)
    | reference registry name => fun c =>
      match name.keyObstacle?, scope registry name with
      | some typeName, _ => .fault (.notKey typeName)
      | none, some target => run scope limit target c
      | none, none => .fault (unboundFault limit name c)
    | leaf l => l.matcher
    | custom matcher => matcher
    | probe label inner => Matcher.probe label (run scope limit inner)
    | inert value => fun _ => .fault (.notApplicable value)

/-! ### One level of a run -/

variable (scope : Scope) (limit : Nat)

@[simp] theorem run_zero (parser : Parser) : run scope 0 parser = fun _ => .fault .recursionLimit :=
  rfl

@[simp] theorem run_literal (text : IndexedText) (format : Formatter) :
    run scope (limit + 1) (literal text format) = Matcher.literal text (format.within limit) := rfl

@[simp] theorem run_charClass (cls : CharClass) (format : Formatter) :
    run scope (limit + 1) (charClass cls format) = Matcher.charClass cls (format.within limit) :=
  rfl

@[simp] theorem run_sequence (children : List Parser) (format : Formatter) :
    run scope (limit + 1) (sequence children format) =
      Matcher.sequence (run scope limit) children (format.within limit) := rfl

@[simp] theorem run_alternation (children : List Parser) (format : Formatter) :
    run scope (limit + 1) (alternation children format) =
      Matcher.alternation (run scope limit) children (format.within limit) := rfl

@[simp] theorem run_optional (child : Parser) (format : Formatter) :
    run scope (limit + 1) (optional child format) =
      Matcher.optional (run scope limit child) (format.within limit) := rfl

@[simp] theorem run_repetition (child : Parser) (minimum : Nat) (format : Formatter) :
    run scope (limit + 1) (repetition child minimum format) =
      Matcher.repetition (run scope limit child) minimum (format.within limit) := rfl

/-- A reference to a bound name is the rule that it finds, one level deeper. -/
theorem run_reference_of_bound {registry : RegistryId} {name : Value} {target : Parser}
    (hname : name.keyObstacle? = none) (hbound : scope registry name = some target) :
    run scope (limit + 1) (reference registry name) = run scope limit target := by
  funext c
  simp [run, hname, hbound]

@[simp] theorem run_leaf (l : Leaf) : run scope (limit + 1) (leaf l) = l.matcher := rfl

@[simp] theorem run_custom (matcher : Matcher) :
    run scope (limit + 1) (custom matcher) = matcher := rfl

@[simp] theorem run_probe (label : String) (inner : Parser) :
    run scope (limit + 1) (probe label inner) = Matcher.probe label (run scope limit inner) := rfl

@[simp] theorem run_inert (value : Value) :
    run scope (limit + 1) (inert value) = fun _ => .fault (.notApplicable value) := rfl

end Parser

end GrammarKit
