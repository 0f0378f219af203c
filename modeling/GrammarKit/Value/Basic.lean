/-!
# Values

The values that a match produces and that formatters pass on. A combinator's own result is a
one-entry mapping from its tag to a payload; formatters may turn it into any other value.

* `Tag` — the six result tags;
* `Value` — the values;
* `Value.bare` — a value without its label;
* `Value.tagged` — the result of a combinator before formatting;
* `Value.payload?` — the payload under a tag, if the value is a tagged one;
* `Value.unwrap` — the value without one level of tagging;
* `Value.typeName` — the name of a value's type, as error messages give it.
-/

namespace GrammarKit

/-- The tag that names the combinator which produced a result. -/
inductive Tag where
  | literal
  | charClass
  | sequence
  | repetition
  | optional
  | alternation
deriving DecidableEq, Repr

namespace Tag

/-- The tags, in the order in which they are listed. -/
def all : List Tag :=
  [literal, charClass, sequence, repetition, optional, alternation]

/-- The key under which a result with this tag stands. -/
def key : Tag → String
  | literal => "literal"
  | charClass => "charClass"
  | sequence => "sequence"
  | repetition => "repetition"
  | optional => "optional"
  | alternation => "alternation"

/-- The tag with the given key. -/
def ofKey? (key : String) : Option Tag :=
  all.find? fun tag => tag.key == key

@[simp] theorem ofKey?_key (tag : Tag) : ofKey? tag.key = some tag := by
  cases tag <;> decide

end Tag

/-- The handle of a list in a store. -/
abbrev ListId := Nat

/-- What tells a shared tuple or mapping from others. -/
abbrev Label := Nat

/-- A value: data of the usual kinds and two markers. -/
inductive Value where
  | null
  | bool (b : Bool)
  | int (n : Int)
  /-- A floating-point number, known by its text. -/
  | decimal (text : String)
  | text (s : String)
  | bytes (bs : List UInt8)
  | list (items : List Value)
  /-- A list that several values share; its items are in a store. -/
  | shared (id : ListId)
  /-- A tuple or a mapping that several values share. It never changes, so it carries its contents;
  the label tells it from others that have the same ones. -/
  | labelled (label : Label) (value : Value)
  | tuple (items : List Value)
  /-- Entries in order of insertion, with distinct keys. -/
  | mapping (entries : List (Value × Value))
  /-- The payload of an optional whose child did not match. -/
  | absent
  /-- The answer for an input that is not matched in full. -/
  | noMatch
deriving Inhabited, Repr

namespace Value

/-- A value without its label. -/
def bare : Value → Value
  | labelled _ value => value
  | value => value

/-- The result of a combinator: a payload under its tag. -/
def tagged (tag : Tag) (payload : Value) : Value :=
  mapping [(text tag.key, payload)]

/-- The payload of a one-entry mapping whose key is a tag. -/
def payload? (value : Value) : Option Value :=
  match value.bare with
  | mapping [(text key, payload)] => if (Tag.ofKey? key).isSome then some payload else none
  | _ => none

/-- The value without one level of tagging; any other value is left as it is. -/
def unwrap (value : Value) : Value :=
  value.payload?.getD value

@[simp] theorem payload?_tagged (tag : Tag) (payload : Value) :
    (tagged tag payload).payload? = some payload := by
  simp [tagged, payload?, bare]

@[simp] theorem unwrap_tagged (tag : Tag) (payload : Value) :
    (tagged tag payload).unwrap = payload := by
  simp [unwrap]

/-- The name of a value's type, as error messages give it. -/
def typeName : Value → String
  | null => "NoneType"
  | bool _ => "bool"
  | int _ => "int"
  | decimal _ => "float"
  | text _ => "str"
  | bytes _ => "bytes"
  | list _ => "list"
  | shared _ => "list"
  | labelled _ value => value.typeName
  | tuple _ => "tuple"
  | mapping _ => "dict"
  | absent => "Absent"
  | noMatch => "NoMatch"

/-- The number of characters, bytes, items or entries of a value that has a length. A shared list
has to be looked up first. -/
def length? : Value → Option Nat
  | text s => some s.length
  | bytes bs => some bs.length
  | list items => some items.length
  | tuple items => some items.length
  | mapping entries => some entries.length
  | labelled _ value => value.length?
  | _ => none

end Value

end GrammarKit
