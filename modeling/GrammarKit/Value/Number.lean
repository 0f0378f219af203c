import GrammarKit.Binary.Basic
import GrammarKit.Value.Basic

/-!
# Numbers among the values

Truth values, integers and floating-point numbers compare with each other by their exact numeric
value. A floating-point number is known by its text.

* `Number` — an exact number, an infinity, or no number at all;
* `Number.ofInt`, `Number.ofBinary` — the numbers that values denote;
* `Number.compare?` — the order of two numbers;
* `Value.number?` — the number that a value is.
-/

namespace GrammarKit

/-- An exact number. -/
inductive Number where
  /-- The number `mantissa * 2 ^ exponent`. -/
  | finite (mantissa exponent : Int)
  | infinite (negative : Bool)
  | undefined
deriving DecidableEq, Repr

namespace Number

/-- The integer `n` as a number. -/
def ofInt (n : Int) : Number := finite n 0

/-- The exact value of a floating-point number. -/
def ofBinary : Binary → Number
  | .finite negative mantissa e => finite (Binary.signed negative mantissa) e
  | .infinite negative => infinite negative
  | .undefined => undefined

/-- The order of `m * 2 ^ e` and `n * 2 ^ f`. -/
def compareScaled (m e n f : Int) : Ordering :=
  compare (m * Binary.twoPow (e - f).toNat) (n * Binary.twoPow (f - e).toNat)

/-- The order of two numbers; there is none if one of them is undefined. -/
def compare? : Number → Number → Option Ordering
  | finite m e, finite n f => some (compareScaled m e n f)
  | infinite a, infinite b => some (compare b a)
  | infinite negative, finite .. => some (if negative then .lt else .gt)
  | finite .., infinite negative => some (if negative then .gt else .lt)
  | undefined, _ => none
  | _, undefined => none

/-- Whether the first number is greater than the second. -/
def gt (a b : Number) : Bool :=
  a.compare? b == some .gt

/-- Whether two numbers are equal. -/
def equals (a b : Number) : Bool :=
  a.compare? b == some .eq

/-- Whether a number is zero, of either sign. -/
def isZero (a : Number) : Bool :=
  a.equals (ofInt 0)

end Number

namespace Value

/-- The number that a value is; truth values count as 0 and 1. -/
def number? : Value → Option Number
  | bool b => some (.ofInt b.toInt)
  | int n => some (.ofInt n)
  | decimal digits => some (.ofBinary (.ofText digits))
  | _ => none

/-- The integer that a value is; truth values count as 0 and 1. -/
def integer? : Value → Option Int
  | bool b => some b.toInt
  | int n => some n
  | _ => none

/-- Whether a value counts as true: the markers, null, zero and everything empty do not. A shared
list has to be looked up first. -/
def countsAsTrue : Value → Bool
  | null => false
  | bool b => b
  | int n => n ≠ 0
  | decimal digits => !(Number.ofBinary (.ofText digits)).isZero
  | text s => s ≠ ""
  | bytes bs => !bs.isEmpty
  | list items => !items.isEmpty
  | shared _ => true
  | labelled _ value => value.countsAsTrue
  | tuple items => !items.isEmpty
  | mapping entries => !entries.isEmpty
  | absent => false
  | noMatch => false

end Value

end GrammarKit
