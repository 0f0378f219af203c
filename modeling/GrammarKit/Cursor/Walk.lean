import GrammarKit.Cursor.Items
import GrammarKit.Value.Equality

/-!
# Walks

A walk is a history of cursors over one source, each made from the one before or taken up again from
earlier on.

* `Walk` — the cursors so far, of which the last is the current one;
* `WalkStep` — a question or a move;
* `WalkReply` — what a step answers;
* `Walk.step` — a step, with its answer.
-/

namespace GrammarKit

/-- The cursors of a history over a source, from the first to the current one. -/
structure Walk where
  source : Value
  past : Array Cursor
  current : Cursor

/-- A question about the current cursor, or a move. -/
inductive WalkStep where
  | peek (n : Int)
  | advance (count : Int)
  /-- Takes up an earlier cursor again. -/
  | back (index : Int)
  | atEnd
  | remaining
  | place
  | span
  | summary
  /-- Compares the current cursor with another one. -/
  | equals (source : Value) (pos : Int)
  /-- Compares two cursors of the history. -/
  | same (i j : Int)
  /-- Tries to change a field. -/
  | assign (field : String)

/-- What a step answers. -/
inductive WalkReply where
  | nothing
  | truth (b : Bool)
  | count (n : Nat)
  | value (v : Value)
  | place (place : Text.Place)
  | span (span : Span)

namespace Walk

/-- The history that starts at a position of a source. -/
def start (source : Value) (pos : Int) : Except Fault Walk := do
  return ⟨source, #[], ← Cursor.ofValue source pos⟩

/-- The cursor at an index of the history; a negative index counts from its end. -/
def cursor (w : Walk) (index : Int) : Except Fault Cursor :=
  let history := w.past.push w.current
  let index := if index < 0 then index + history.size else index
  match if 0 ≤ index then history[index.toNat]? else none with
  | some c => .ok c
  | none => .error (.shape (.outOfRange (.list [])))

/-- The history with one more cursor. -/
def push (w : Walk) (c : Cursor) : Walk := { w with past := w.past.push w.current, current := c }

/-- Something that only a text has, as lines. -/
def ofText {α : Type} (w : Walk) (answer : α) : Except Fault α :=
  match w.source with
  | .text _ => .ok answer
  | source => .error (.shape (.noLines source))

/-- The source and the position as a line of text. -/
def summary (w : Walk) : String :=
  s!"Cursor(source={w.source.spelling}, pos={w.current.pos})"

/-- The names of the fields, which never change. -/
def fields : List String := ["source", "pos"]

/-- What is seen ahead of the current cursor. -/
def peek (w : Walk) (n : Int) : Except Fault Value :=
  match w.source with
  | .text _ => .ok (.text (String.ofList (w.current.peek n.toNat)))
  | source => source.peek w.current.pos n

/-- The answer to a question about a walk. -/
def ask (w : Walk) : WalkStep → Except Fault WalkReply
  | .peek n => return .value (← w.peek n)
  | .advance _ | .back _ => return .nothing
  | .atEnd => return .truth w.current.atEnd
  | .remaining => return .count w.current.remaining
  | .place => return .place (← w.ofText w.current.place)
  | .span => return .span (← w.ofText w.current.span)
  | .summary => return .value (.text w.summary)
  | .equals source pos => do
    let c ← Cursor.ofValue source pos
    return .truth (w.source == source && w.current.pos == c.pos)
  | .same i j => return .truth ((← w.cursor i).pos == (← w.cursor j).pos)
  | .assign field => throw (if field ∈ fields then .frozenField field else .unknownField)

/-- The history after a move. -/
def move (w : Walk) : WalkStep → Except Fault Walk
  | .advance count => return w.push (← w.current.advance count)
  | .back index => return w.push (← w.cursor index)
  | _ => return w

/-- The answer to a step and the history after it. -/
def step (w : Walk) (step : WalkStep) : Except Fault WalkReply × Walk :=
  match w.move step with
  | .ok moved => (w.ask step, moved)
  | .error f => (.error f, w)

/-- The answers to several steps, each with the position after it. -/
def steps (w : Walk) : List WalkStep → List (Except Fault WalkReply × Nat)
  | [] => []
  | first :: rest =>
    let (reply, w) := w.step first
    (reply, w.current.pos) :: w.steps rest

end Walk

end GrammarKit
