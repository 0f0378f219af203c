import GrammarKit.Store.View

/-!
# Diagnostics that name a value

Three of the standard diagnostics give the value that was misused. It can be any value, so writing
the message may fail: an integer has too many digits to be printed, or a container nests too deeply.
The fault is then raised in place of the one that was to be reported.

* `Diagnostic.invalidMinimum`, `Diagnostic.invalidRuleName`, `Diagnostic.unboundReference` — the
  diagnostics;
* `Diagnostic.unboundReference_unlessExhausted` — with more room the message is the same;
* `Diagnostic.invalidRuleName_failsOnly`, `Diagnostic.unboundReference_failsOnly` — why a message
  may not be written.
-/

namespace GrammarKit.Diagnostic

/-- A repetition minimum that is not a natural number; `room` bounds its nesting. -/
def invalidMinimum (room : Nat) (minimum : Value) : Except Fault Diagnostic := do
  let text ← minimum.spelled room
  return { code := .invalidMinimum,
           message := s!"Repetition minimum must be a non-negative integer, got {text}",
           hint := .text "Use 0 for zero-or-more and 1 for one-or-more" }

/-- A rule name that is not a non-empty text; `room` bounds its nesting. -/
def invalidRuleName (room : Nat) (name : Value) : Except Fault Diagnostic := do
  let text ← name.spelled room
  return { code := .invalidRuleName,
           message := s!"Grammar rule names must be non-empty strings, got {text}" }

/-- A reference applied while its name is not bound; `room` bounds the nesting of the name. -/
def unboundReference (room : Nat) (name : Value) (span : Option Span) :
    Except Fault Diagnostic := do
  let text ← name.displayed room
  return { code := .unboundReference,
           message := s!"Reference '{text}' is not bound in the registry",
           span,
           hint := .text s!"Bind '{text}' in the registry before parsing",
           ruleName := name }

theorem unboundReference_unlessExhausted {room room' : Nat} (hle : room ≤ room') (name : Value)
    (span : Option Span) :
    UnlessExhausted (unboundReference room name span) (unboundReference room' name span) :=
  (Store.display_unlessExhausted {} hle name).bind fun _ => .refl _

theorem unboundReference_failsOnly (room : Nat) (name : Value) (span : Option Span) :
    FailsOnly (fun f => f = .recursionLimit ∨ f = .integerTooLong Text.numeralLimit)
      (unboundReference room name span) :=
  (Store.display_failsOnly {} room name).bind fun _ => .ok _

/-- Whether the message can be written does not depend on the place. -/
theorem unboundReference_eq_error {room : Nat} {name : Value} {span span' : Option Span}
    {f : Fault} (h : unboundReference room name span = .error f) :
    unboundReference room name span' = .error f := by
  unfold unboundReference at h ⊢
  cases htext : name.displayed room with
  | error f' =>
    rw [htext] at h
    exact h
  | ok text =>
    rw [htext] at h
    cases h

end GrammarKit.Diagnostic
