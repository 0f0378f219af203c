import GrammarKit.Fault
import GrammarKit.Store.Basic
import GrammarKit.Value.Equality

/-!
# Looking into values

Formatters take results apart. Each access either succeeds or says what shape was missing. A value
may be a shared list, whose items are in a store.

* `Value.entry` — the value under a text key of a mapping;
* `Store.item` — the item at an index;
* `Store.contents` — the items in order;
* `Store.pair` — the two items of a value that has two.
-/

namespace GrammarKit

namespace Value

/-- The value under a key of a mapping. -/
def entry (value : Value) (key : String) : Except Fault Value :=
  match value.bare with
  | mapping entries =>
    match Entries.get? entries (text key) with
    | some found => .ok found
    | none => .error (.missingKey (text key))
  | text _ | bytes _ | list _ | shared _ | tuple _ => .error (.shape (.badIndex value))
  | _ => .error (.shape (.noItems value))

/-- An item of a container, if there is one at its index. -/
def itemOf (container : Value) (found : Option Value) : Except Fault Value :=
  match found with
  | some item => .ok item
  | none => .error (.shape (.outOfRange container))

/-- The ASCII characters as values. -/
def asciiCharacters : Array Value :=
  ((List.range 128).map fun point => text (String.singleton (Char.ofNat point))).toArray

/-- A character as a value. -/
def character (c : Char) : Value :=
  if h : c.toNat < asciiCharacters.size then asciiCharacters[c.toNat]
  else text (String.singleton c)

/-- It is the text of that one character. -/
theorem character_eq (c : Char) : character c = text (String.singleton c) := by
  rw [character]
  split
  · simp [asciiCharacters]
  · rfl

/-- The characters of a text as values. -/
def characters (s : String) : Array Value :=
  s.toList.foldl (fun values c => values.push (character c)) #[]

/-- They come in the order of the text. -/
theorem characters_eq (s : String) : characters s = (s.toList.map character).toArray := by
  simp [characters]

/-- A byte as a value. -/
def byte (b : UInt8) : Value :=
  int b.toNat

/-- The item at an index of a value. -/
def item (value : Value) (index : Nat) : Except Fault Value :=
  match value.bare with
  | list items => itemOf value items[index]?
  | tuple items => itemOf value items[index]?
  | text s => itemOf value ((s.drop index).front?.map character)
  | bytes bs => itemOf value (bs[index]?.map byte)
  | mapping entries =>
    match Entries.get? entries (int index) with
    | some found => .ok found
    | none => .error (.missingKey (int index))
  | _ => .error (.shape (.noItems value))

/-- The items of a value in order: items, characters, bytes or keys. -/
def items? (value : Value) : Option (Array Value) :=
  match value.bare with
  | list items => some items.toArray
  | tuple items => some items.toArray
  | text s => some (characters s)
  | bytes bs => some (bs.map byte).toArray
  | mapping entries => some (entries.map (·.1)).toArray
  | _ => none

end Value

namespace Store

/-- The item at an index of a value, which may be a shared list. -/
def item (store : Store) (value : Value) (index : Nat) : Except Fault Value :=
  match value with
  | .shared id => value.itemOf (store.items id)[index]?
  | value => value.item index

/-- The items of a value in order, if it has some. -/
def contents? (store : Store) : Value → Option (Array Value)
  | .shared id => some (store.items id)
  | value => value.items?

/-- The items of a value that has some. -/
def contents (store : Store) (value : Value) : Except Fault (Array Value) :=
  match store.contents? value with
  | some items => .ok items
  | none => .error (.shape (.notIterable value))

/-- The two items of a value that has exactly two. -/
def pair (store : Store) (value : Value) : Except Fault (Value × Value) :=
  match store.contents? value with
  | none => .error (.shape (.notPair value))
  | some #[a, b] => .ok (a, b)
  | some items =>
    if 2 < items.size then .error (.shape .tooMany) else .error (.shape (.tooFew items.size))

end Store

end GrammarKit
