import GrammarKit.Binary.Shortest
import GrammarKit.Formatter.Shape
import GrammarKit.Copies

/-!
# Operators on values

Sums, differences and products, as a chain of operators accumulates them. Numbers are computed with,
values of a kind are joined, and a sequence times a count is repeated. A shared list that is
accumulated into changes in its place, and everyone who holds it sees the change.

* `Accumulation` — a computation over the shared lists that may fail;
* `Total` — what a chain has accumulated so far;
* `Total.plus`, `Total.minus`, `Total.times` — the operators.
-/

namespace GrammarKit

/-- A computation over the shared lists that may fail. What it did before a fault stays done. -/
abbrev Accumulation := ExceptT Fault (StateM Store)

namespace Accumulation

/-- The items of a value that has some. -/
def contents (value : Value) : Accumulation (Array Value) := do
  ofExcept ((← get).contents value)

/-- The items of a value that has some, to be held in several places from now on. What a shared
value holds is shared already. -/
def sharedContents (value : Value) : Accumulation (Array Value) := do
  let items ← contents value
  if value.isShared then return items
  else (Store.shareItems items : StateM Store (Array Value))

end Accumulation

namespace Value

open Accumulation

/-! ### Repetition -/

/-- The bounds of a machine's integers. -/
def minCount : Int := -0x8000000000000000

/-- The greatest number of repetitions, and of places in a text or byte string. -/
def maxCount : Int := 0x7fffffffffffffff

/-- The most places of a value that fits into memory. -/
def maxPlaces : Nat := 0x200000000

/-- The number of repetitions that a value stands for; a negative one counts as none. -/
def count (value : Value) : Except Fault Nat :=
  match value.integer? with
  | some n => if minCount ≤ n ∧ n ≤ maxCount then .ok n.toNat else .error .countTooLarge
  | none => .error (.shape (.notRepeatable value))

/-- Refuses a repetition of a value with too many places. -/
def checkRepetition (value : Value) (places count : Nat) : Except Fault Unit :=
  match value with
  | text _ | bytes _ =>
    if maxCount < places * count then .error (.repetitionTooLong value)
    else if maxPlaces < places * count then .error .outOfMemory
    else .ok ()
  | _ => if maxPlaces < places * count then .error .outOfMemory else .ok ()

/-- Whether a value can be repeated. -/
def isRepeatable : Value → Bool
  | text _ | bytes _ | list _ | shared _ | tuple _ => true
  | labelled _ value => value.isRepeatable
  | _ => false

/-- Whether a value is a list, which may change. -/
def isList : Value → Bool
  | list _ | shared _ => true
  | _ => false

/-- A sequence repeated; other values have no repetition. Its items are held in several places from
then on. Taken once, a sequence that cannot change is itself. -/
def repeated (value times : Value) : Accumulation Value := do
  let count ← ofExcept times.count
  if count = 1 && !value.isList then return value
  ofExcept (checkRepetition value (((← get).length? value).getD 0) count)
  match value.bare with
  | text s => return text (repeatedText s count)
  | bytes bs => return bytes (repeatedItems bs.toArray count).toList
  | tuple _ => return tuple (repeatedItems (← sharedContents value) count).toList
  | _ => return list (repeatedItems (← sharedContents value) count).toList

/-- A sequence repeated in its place: a shared list stays the list that it is. -/
def repeatedInPlace (value times : Value) : Accumulation Value := do
  match value with
  | shared id =>
    let count ← ofExcept times.count
    ofExcept (checkRepetition value ((← get).items id).size count)
    if count ≠ 1 then
      let items ← sharedContents value
      modify fun store => store.setItems id (repeatedItems items count)
    return value
  | _ => repeated value times

/-- Whether a value is a number or null, which leave a product to the other side. -/
def isScalar : Value → Bool
  | null | bool _ | int _ | decimal _ => true
  | _ => false

/-- The floating-point number nearest to a value that is a number. -/
def binary? : Value → Option (Except Fault Binary)
  | decimal digits => some (.ok (.ofText digits))
  | value =>
    value.integer?.map fun n =>
      match Binary.ofInt n with
      | .finite s m e => .ok (.finite s m e)
      | _ => .error .integerTooLarge

end Value

/-- What a chain has accumulated so far: any value, or one in a form that is easy to add to. -/
inductive Total where
  | value (value : Value)
  | binary (number : Binary)
  | list (items : Array Value)
  | tuple (items : Array Value)
  | bytes (bytes : Array UInt8)

namespace Total

open Accumulation

/-- The total that a chain starts with. -/
def ofValue : Value → Total
  | .list items => list items.toArray
  | v => value v

/-- The value of a total. -/
def toValue : Total → Value
  | value v => v
  | binary number => .decimal number.text
  | list items => .list items.toList
  | tuple items => .tuple items.toList
  | bytes bs => .bytes bs.toList

/-! ### Numbers -/

/-- The integer that a total is. -/
def integer? : Total → Option Int
  | value v => v.integer?
  | _ => none

/-- The floating-point number nearest to a total that is a number. -/
def binary? : Total → Option (Except Fault Binary)
  | value v => v.binary?
  | binary number => some (.ok number)
  | _ => none

/-- The result of an operator on two numbers: an integer if both are, else a floating-point number.
Other values have none. -/
def arithmetic? (onInts : Int → Int → Int) (onBinaries : Binary → Binary → Binary)
    (left : Total) (right : Value) : Option (Except Fault Total) :=
  match left.integer?, right.integer? with
  | some m, some n => some (.ok (value (.int (onInts m n))))
  | _, _ =>
    match left.binary?, right.binary? with
    | some a, some b => some do return binary (onBinaries (← a) (← b))
    | _, _ => none

/-! ### Operators -/

/-- Two values of a kind joined. A list takes the items of any value, and next to an empty tuple a
tuple is itself. -/
def joined (left right : Value) : Accumulation Total :=
  match left, left.bare, right.bare with
  | .shared id, _, _ => do
    let others ← sharedContents right
    modify fun store => store.append id others
    return value left
  | _, .list items, _ => return list (items.toArray ++ (← contents right))
  | _, .text s, .text t => return value (.text (s ++ t))
  | _, .bytes bs, .bytes cs => return bytes (bs.toArray ++ cs)
  | _, .tuple _, .tuple [] => return value left
  | _, .tuple [], .tuple _ => return value right
  | _, .tuple items, .tuple others => return tuple (items.toArray ++ others)
  | _, .text _, _ | _, .bytes _, _ | _, .tuple _, _ =>
    throw (.shape (.notConcatenable left right))
  | _, _, _ => throw (.shape (.badOperands "+" left right))

/-- The sum of two numbers, or two values of a kind joined. -/
def plus (left : Total) (right : Value) : Accumulation Total :=
  match arithmetic? (· + ·) Binary.add left right with
  | some result => ofExcept result
  | none =>
    match left, right.bare with
    | list items, _ => return list (items ++ (← contents right))
    | tuple items, .tuple others => return tuple (items ++ others)
    | bytes bs, .bytes cs => return bytes (bs ++ cs)
    | left, _ => joined left.toValue right

/-- The difference of two numbers. -/
def minus (left : Total) (right : Value) : Accumulation Total :=
  match arithmetic? (· - ·) Binary.sub left right with
  | some result => ofExcept result
  | none => throw (.shape (.badOperands "-" left.toValue right))

/-- A total repeated in its place. -/
def repeated (total : Total) (times : Value) : Accumulation Total := do
  match total with
  | list items =>
    let count ← ofExcept times.count
    ofExcept (Value.checkRepetition (.list []) items.size count)
    if count = 1 then return total
    else return list (repeatedItems (← Store.shareItems items) count)
  | total => return value (← total.toValue.repeatedInPlace times)

/-- Whether a total can be repeated. -/
def isRepeatable : Total → Bool
  | value v => v.isRepeatable
  | binary _ => false
  | list _ | tuple _ | bytes _ => true

/-- Whether a total is a number or null. -/
def isScalar : Total → Bool
  | value v => v.isScalar
  | binary _ => true
  | list _ | tuple _ | bytes _ => false

/-- The product of two numbers, or of a sequence and a count. -/
def times (left : Total) (right : Value) : Accumulation Total :=
  match arithmetic? (· * ·) Binary.mul left right with
  | some result => ofExcept result
  | none => do
    if left.isRepeatable then left.repeated right
    else if left.isScalar && right.isRepeatable then
      return .ofValue (← right.repeated left.toValue)
    else throw (.shape (.badOperands "*" left.toValue right))

end Total

end GrammarKit
