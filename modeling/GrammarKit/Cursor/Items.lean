import GrammarKit.Cursor

/-!
# Positions in other values

A position can be taken in every value that has a length. Such a value has as many positions as a
text of the same length, so a cursor over stand-in characters keeps track of them. What is found at
a position is a slice of the value: a list, a tuple or a byte string. A mapping has no slices, and
only texts have lines.

* `Cursor.ofValue` — the cursor at a position of a value;
* `Value.slice` — the part of a value between two positions;
* `Value.peek` — what is seen ahead of a position.
-/

namespace GrammarKit

/-- The cursor at a position of a value. -/
def Cursor.ofValue (source : Value) (pos : Int) : Except Fault Cursor :=
  match source, source.length? with
  | .text text, _ => Cursor.make text pos
  | _, some length => Cursor.make (String.ofList (List.replicate length '\x00')) pos
  | _, none => .error (.shape (.noLength source))

namespace Value

/-- The part of a value from a position to another one. All of a tuple is the tuple itself. -/
def slice (value : Value) (start stop : Nat) : Except Fault Value :=
  match value.bare with
  | text s => .ok (text (String.ofList (s.toList.extract start stop)))
  | bytes bs => .ok (bytes (bs.extract start stop))
  | list items => .ok (list (items.extract start stop))
  | tuple items =>
    if start = 0 ∧ items.length ≤ stop then .ok value
    else .ok (tuple (items.extract start stop))
  | mapping _ => .error (.notKey "slice")
  | _ => .error (.shape (.noItems value))

/-- The next items at a position, fewer near the end; of no items, the empty text. -/
def peek (value : Value) (pos : Nat) (count : Int) : Except Fault Value :=
  if count ≤ 0 then .ok (text "") else value.slice pos (pos + count.toNat)

end Value

end GrammarKit
