import GrammarKit.Cursor
import GrammarKit.Event
import GrammarKit.Store.Basic

/-!
# Runs and matchers

A matcher is applied to a cursor and gives a run. A run starts from the shared lists as they are and
reports the events on the way, an outcome, and the shared lists after it. The outcome is a match
with a value and the cursor after it, a mismatch, or a fault.

* `Outcome`, `Report`, `Run` — what an application gives;
* `Run.bind`, `Run.orElse` — going on after a match, and after a mismatch;
* `Matcher` — a function from cursors to runs;
* `Formatting`, `Formatter` — a function from values to values that may set marks, may change shared
  lists and may fail, with some room for its calls or with any;
* `Run.formatted` — a match whose value is a formatted, tagged payload.
-/

namespace GrammarKit

/-- How an application ends. -/
inductive Outcome (α : Type) where
  /-- A match, with its value and the cursor after it. -/
  | matched (value : α) (rest : Cursor)
  | mismatch
  | fault (fault : Fault)

namespace Outcome

/-- The outcome with another value. -/
def map {α β : Type} (f : α → β) : Outcome α → Outcome β
  | matched value rest => matched (f value) rest
  | mismatch => mismatch
  | fault f => fault f

/-- Whether the recursion limit was reached. -/
def isRecursionLimit {α : Type} : Outcome α → Bool
  | fault .recursionLimit => true
  | _ => false

end Outcome

/-- What an application gives: its events in order, how it ends, and the shared lists after it. -/
structure Report (α : Type) where
  events : List Event
  outcome : Outcome α
  store : Store

/-- The report with events before it. -/
def Report.after {α : Type} (events : List Event) (report : Report α) : Report α :=
  ⟨events ++ report.events, report.outcome, report.store⟩

/-- An application, which starts from the shared lists as they are. -/
abbrev Run (α : Type) := Store → Report α

namespace Run

variable {α β : Type}

/-- A match without events. -/
def matched (value : α) (rest : Cursor) : Run α := fun store => ⟨[], .matched value rest, store⟩

/-- A mismatch without events. -/
def mismatch : Run α := fun store => ⟨[], .mismatch, store⟩

/-- A fault without events. -/
def fault (fault : Fault) : Run α := fun store => ⟨[], .fault fault, store⟩

/-- The run with events before it. -/
def after (events : List Event) (run : Run α) : Run α := fun store =>
  (run store).after events

/-- The run that goes on after a match; a mismatch or a fault ends it. -/
def bind (run : Run α) (next : α → Cursor → Run β) : Run β := fun store =>
  let report := run store
  match report.outcome with
  | .matched value rest => (next value rest report.store).after report.events
  | .mismatch => ⟨report.events, .mismatch, report.store⟩
  | .fault f => ⟨report.events, .fault f, report.store⟩

/-- The run that goes on after a mismatch; a match or a fault ends it. -/
def orElse (run other : Run α) : Run α := fun store =>
  let report := run store
  match report.outcome with
  | .mismatch => (other report.store).after report.events
  | _ => report

@[simp] theorem after_nil (run : Run α) : run.after [] = run := rfl

@[simp] theorem after_after (es fs : List Event) (run : Run α) :
    (run.after fs).after es = run.after (es ++ fs) := by
  funext store
  simp [after, Report.after]

@[simp] theorem bind_matched (value : α) (rest : Cursor) (next : α → Cursor → Run β) :
    (matched value rest).bind next = next value rest := rfl

@[simp] theorem bind_mismatch (next : α → Cursor → Run β) : mismatch.bind next = mismatch := rfl

@[simp] theorem bind_fault (f : Fault) (next : α → Cursor → Run β) :
    (fault f).bind next = fault f := rfl

/-- Events before a run stay before what follows it. -/
@[simp] theorem bind_after (events : List Event) (run : Run α) (next : α → Cursor → Run β) :
    (run.after events).bind next = (run.bind next).after events := by
  funext store
  simp only [bind, after, Report.after]
  cases (run store).outcome <;> simp

@[simp] theorem orElse_mismatch (other : Run α) : mismatch.orElse other = other := rfl

end Run

/-- What formatting a value gives: the marks that it sets, the new value or a fault, and the shared
lists after it. -/
structure Formatted where
  marks : List Mark
  result : Except Fault Value
  store : Store

/-- What a function makes of the value of a match, from the shared lists as they are. -/
abbrev Formatting := Value → Store → Formatted

/-- Leaves the value as it is. -/
def Formatting.identity : Formatting := fun value store => ⟨[], .ok value, store⟩

/-- A function applied to the value of a match. The calls that it makes are nested in those of the
parsers, so they have to do with the room that the recursion limit leaves them. -/
structure Formatter where
  within : (room : Nat) → Formatting
  /-- Where the calls do not exhaust the room, more of it makes no difference. -/
  stable {room room' : Nat} : room ≤ room' → ∀ (value : Value) (store : Store),
    (within room value store).result = .error .recursionLimit ∨
      within room' value store = within room value store
  /-- Nor does it once there is a lot, not even to calls that go on for ever. -/
  settles (value : Value) (store : Store) : ∃ enough, ∀ room, enough ≤ room →
    within room value store = within enough value store

/-- A parser as a function. -/
abbrev Matcher := Cursor → Run Value

/-- The match whose value is the formatted payload under its tag. -/
def Run.formatted (format : Formatting) (tag : Tag) (payload : Value) (rest : Cursor) :
    Run Value := fun store =>
  let shaped := format (.tagged tag payload) store
  match shaped.result with
  | .ok value => ⟨shaped.marks.map .mark, .matched value rest, shaped.store⟩
  | .error f => ⟨shaped.marks.map .mark, .fault f, shaped.store⟩

end GrammarKit
