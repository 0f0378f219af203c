import GrammarKit.Diagnostic.Span
import GrammarKit.Value.Number
import GrammarKit.Value.Printer

/-!
# Diagnostics

A diagnostic describes a misuse: a code, a message and, where they are known, the place in the
source, the rule concerned and a hint.

* `DiagnosticCode` — the kinds of misuse, with their numbers;
* `Diagnostic` — a diagnostic;
* `Diagnostic.render` — the diagnostic as a report of one to four lines;
* `Diagnostic.invalidCharClass`, `Diagnostic.recursionLimitExceeded` — two of the standard
  diagnostics.
-/

namespace GrammarKit

/-- The kinds of misuse. -/
inductive DiagnosticCode where
  | invalidCharClass
  | invalidMinimum
  | invalidRuleName
  | unboundReference
  | recursionLimitExceeded
deriving DecidableEq, Repr

namespace DiagnosticCode

/-- The codes, in the order of their numbers. -/
def all : List DiagnosticCode :=
  [invalidCharClass, invalidMinimum, invalidRuleName, unboundReference, recursionLimitExceeded]

/-- The name of a code, as reports give it. -/
def name : DiagnosticCode → String
  | invalidCharClass => "INVALID_CHAR_CLASS"
  | invalidMinimum => "INVALID_MINIMUM"
  | invalidRuleName => "INVALID_RULE_NAME"
  | unboundReference => "UNBOUND_REFERENCE"
  | recursionLimitExceeded => "RECURSION_LIMIT_EXCEEDED"

/-- The number of a code: from 1000 on for construction, 2000 for look-up, 3000 for limits. -/
def number : DiagnosticCode → Nat
  | invalidCharClass => 1001
  | invalidMinimum => 1002
  | invalidRuleName => 1003
  | unboundReference => 2001
  | recursionLimitExceeded => 3001

/-- The code with the given name. -/
def ofName? (name : String) : Option DiagnosticCode :=
  all.find? fun code => code.name == name

end DiagnosticCode

/-- A description of a misuse. A hint or rule name that is not given is null. -/
structure Diagnostic where
  code : DiagnosticCode
  message : String
  span : Option Span := none
  hint : Value := .null
  ruleName : Value := .null
  severity : String := "error"
deriving Repr

namespace Diagnostic

/-- A line of the report that is left out when its value counts as false. -/
def detail (label : String) (value : Value) : List String :=
  if value.countsAsTrue then [s!"  = {label}: {value.display}"] else []

/-- The lines of the report. -/
def lines (d : Diagnostic) : List String :=
  s!"{d.severity}[{d.code.name}]: {d.message}" ::
    (d.span.toList.map fun span => s!"  --> line {span.line}, column {span.column}") ++
    detail "rule" d.ruleName ++ detail "help" d.hint

/-- The diagnostic as a report: what is wrong, then the place, the rule and the hint if known. -/
def render (d : Diagnostic) : String :=
  "\n".intercalate d.lines

/-! ### The standard diagnostics -/

/-- A character class that cannot be read. -/
def invalidCharClass (pattern reason : Value) : Diagnostic where
  code := .invalidCharClass
  message := s!"Invalid character class '[{pattern.display}]': {reason.display}"
  hint := .text "Use bracket syntax without the brackets, e.g. 'a-zA-Z0-9_'"

/-- A match that nests deeper than the limit. -/
def recursionLimitExceeded (limit : Value) (span : Option Span) : Diagnostic where
  code := .recursionLimitExceeded
  message := s!"Grammar recursion exceeded the interpreter limit ({limit.display} frames)"
  span := span
  hint := .text ("Check for left recursion (a rule that reaches itself without consuming input) " ++
    "or raise sys.setrecursionlimit() for deeply nested input")

end Diagnostic

end GrammarKit
