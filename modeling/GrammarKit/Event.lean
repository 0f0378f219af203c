import GrammarKit.Value.Basic

/-!
# Events

What happens during a call besides its result, in order: log records and marks set for observers.

* `LogRecord` — the log records, with their level and wording;
* `Mark` — a probe entered or left, or a value seen by a formatter;
* `Event` — either of them;
* `Event.logs`, `Event.marks` — the two views of a list of events.
-/

namespace GrammarKit

/-- The level of a log record. -/
inductive LogLevel where
  | debug
  | warning
deriving DecidableEq, Repr

/-- The name of a level. -/
def LogLevel.name : LogLevel → String
  | debug => "DEBUG"
  | warning => "WARNING"

/-- A log record. -/
inductive LogRecord where
  /-- A repetition stopped because its child matched without consuming anything. -/
  | zeroWidth (pos count : Nat)
  /-- A match did not reach the end of the source. -/
  | partialMatch (consumed total : Nat)
  /-- Matching reached the recursion limit. -/
  | recursionLimit (limit total : Nat)
  /-- A rule was bound under a new name. -/
  | bound (grammar name : String)
  /-- A rule replaced another of the same name. -/
  | rebound (grammar name : String)
deriving DecidableEq, Repr

namespace LogRecord

/-- The level of a record. -/
def level : LogRecord → LogLevel
  | recursionLimit .. => .warning
  | _ => .debug

/-- The wording of a record. -/
def message : LogRecord → String
  | zeroWidth pos count =>
    s!"Repetition stopped on zero-width match at position {pos} after {count} match(es)"
  | partialMatch consumed total =>
    s!"Partial match rejected: consumed {consumed} of {total} characters"
  | recursionLimit limit total =>
    s!"Recursion limit ({limit}) hit while parsing {total} characters. " ++
      "The grammar is probably left-recursive."
  | bound grammar name => s!"Grammar {grammar}: bound rule '{name}'"
  | rebound grammar name => s!"Grammar {grammar}: rebound rule '{name}'"

end LogRecord

/-- A mark for observers. -/
inductive Mark where
  /-- A probe is entered at a position. -/
  | enter (label : String) (pos : Nat)
  /-- A probe is left, with the new position if its parser matched. -/
  | leave (label : String) (pos : Option Nat)
  /-- A formatter saw a value. -/
  | seen (label : String) (value : Value)
deriving Repr

/-- Something that happens during a call. -/
inductive Event where
  | log (record : LogRecord)
  | mark (mark : Mark)
deriving Repr

namespace Event

/-- The log record of an event that is one. -/
def log? : Event → Option LogRecord
  | log record => some record
  | mark _ => none

/-- The mark of an event that is one. -/
def mark? : Event → Option Mark
  | log _ => none
  | mark m => some m

/-- The log records among the events, in order. -/
def logs (events : List Event) : List LogRecord :=
  events.filterMap log?

/-- The marks among the events, in order. -/
def marks (events : List Event) : List Mark :=
  events.filterMap mark?

@[simp] theorem logs_append (es fs : List Event) : logs (es ++ fs) = logs es ++ logs fs :=
  List.filterMap_append

@[simp] theorem marks_append (es fs : List Event) : marks (es ++ fs) = marks es ++ marks fs :=
  List.filterMap_append

end Event

end GrammarKit
