/-!
# Source spans

A span is a stretch of source text with the place where it starts. Offsets count characters from
zero, lines and columns from one.

* `SpanFault` — why four numbers are not a span;
* `Span` — a span, with the bounds that every span keeps;
* `Span.make` — the span given by four numbers, checked in order;
* `Span.summary` — the span as a line of text.
-/

namespace GrammarKit

/-- Why four numbers are not a span. -/
inductive SpanFault where
  | negativeStart (start : Int)
  | stopBeforeStart (start stop : Int)
  | lineTooSmall (line : Int)
  | columnTooSmall (column : Int)
deriving DecidableEq, Repr

/-- What is wrong with the numbers. -/
def SpanFault.message : SpanFault → String
  | negativeStart start => s!"SourceSpan.start must be >= 0, got {start}"
  | stopBeforeStart start stop => s!"SourceSpan.end ({stop}) must be >= start ({start})"
  | lineTooSmall line => s!"SourceSpan.line must be >= 1 (1-indexed), got {line}"
  | columnTooSmall column => s!"SourceSpan.column must be >= 1 (1-indexed), got {column}"

/-- A stretch of source text and the place where it starts. -/
structure Span where
  start : Nat
  stop : Nat
  line : Nat
  column : Nat
  start_le_stop : start ≤ stop
  line_pos : 1 ≤ line
  column_pos : 1 ≤ column
deriving DecidableEq, Repr

namespace Span

/-- The span given by four numbers; the first number that is out of bounds is the one reported. -/
def make (start stop line column : Int) : Except SpanFault Span :=
  if hstart : start < 0 then .error (.negativeStart start)
  else if hstop : stop < start then .error (.stopBeforeStart start stop)
  else if hline : line < 1 then .error (.lineTooSmall line)
  else if hcolumn : column < 1 then .error (.columnTooSmall column)
  else .ok ⟨start.toNat, stop.toNat, line.toNat, column.toNat, by omega, by omega, by omega⟩

/-- The numbers of a span make the span again. -/
@[simp] theorem make_self (span : Span) :
    make span.start span.stop span.line span.column = .ok span := by
  have h₁ := span.start_le_stop
  have h₂ := span.line_pos
  have h₃ := span.column_pos
  rw [make, dif_neg (by omega), dif_neg (by omega), dif_neg (by omega), dif_neg (by omega)]
  rfl

/-- The span as a line of text. -/
def summary (span : Span) : String :=
  s!"SourceSpan(start={span.start}, end={span.stop}, line={span.line}, column={span.column})"

end Span

end GrammarKit
