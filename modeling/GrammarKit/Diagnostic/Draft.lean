import GrammarKit.Catalogue

/-!
# Drafts of diagnostics

A draft is a diagnostic as it is handed in, with a code and a span that are yet to be checked.

* `DiagnosticCode.ofValue` — a code by its name or its number;
* `Span.ofNumbers` — a span by its four numbers;
* `Draft`, `Draft.finish` — a draft, and the diagnostic made from it.
-/

namespace GrammarKit

/-- The diagnostic code with a given name, or else with a given number. -/
def DiagnosticCode.ofValue (value : Value) : Except Fault DiagnosticCode :=
  match value with
  | .text name =>
    match ofName? name with
    | some code => .ok code
    | none => .error (.missingKey value)
  | _ =>
    match all.find? fun code => Value.int code.number == value with
    | some code => .ok code
    | none => .error (.notMember Family.codes.name value)

/-- The span of four numbers, as a result that may be a fault. -/
def Span.ofNumbers (numbers : Int × Int × Int × Int) : Except Fault Span :=
  (Span.make numbers.1 numbers.2.1 numbers.2.2.1 numbers.2.2.2).mapError .span

/-- The span of four numbers, if they are given. -/
def Span.ofNumbers? : Option (Int × Int × Int × Int) → Except Fault (Option Span)
  | none => .ok none
  | some numbers => (ofNumbers numbers).map some

/-- A diagnostic as it is handed in, with a code and a span yet to be checked. -/
structure Draft where
  code : Value
  message : String
  span : Option (Int × Int × Int × Int) := none
  hint : Value := .null
  ruleName : Value := .null
  severity : String := "error"

/-- The diagnostic of a draft; the code is looked up before the span is made. -/
def Draft.finish (draft : Draft) : Except Fault Diagnostic := do
  let code ← DiagnosticCode.ofValue draft.code
  let span ← Span.ofNumbers? draft.span
  return { code, message := draft.message, span, hint := draft.hint,
           ruleName := draft.ruleName, severity := draft.severity }

end GrammarKit
