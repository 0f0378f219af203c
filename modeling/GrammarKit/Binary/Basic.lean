/-!
# Binary floating-point numbers

Floating-point numbers with 53 significant bits. A finite one is `mantissa * 2 ^ exponent` with a
sign, in its normal form: the mantissa has all 53 bits unless the exponent is the least one. Every
operation computes the exact result and rounds it to the nearest number, a tie to the even mantissa.

* `Binary` — the numbers, with two infinities and the undefined one;
* `Binary.round` — the number nearest to a quotient;
* `Binary.ofInt`, `Binary.ofDecimal`, `Binary.ofText` — the numbers that are written in these ways;
* `Binary.add`, `Binary.sub`, `Binary.mul` — arithmetic.
-/

namespace GrammarKit

/-- A floating-point number. -/
inductive Binary where
  /-- The number `mantissa * 2 ^ exponent`, or its opposite. Zero has a sign, too. -/
  | finite (negative : Bool) (mantissa : Nat) (exponent : Int)
  | infinite (negative : Bool)
  | undefined
deriving DecidableEq, Repr

namespace Binary

/-- The number of significant bits. -/
def precision : Nat := 53

/-- The least exponent. -/
def minExponent : Int := -1074

/-- The greatest exponent. -/
def maxExponent : Int := 971

/-- The power of two with a natural exponent. -/
def twoPow (k : Nat) : Nat := Nat.pow 2 k

/-- The power of ten with a natural exponent. -/
def tenPow (k : Nat) : Nat := Nat.pow 10 k

/-- The integer nearest to `a / b`, a tie going to the even one. -/
def roundDiv (a b : Nat) : Nat :=
  let q := a / b
  let r := a % b
  if 2 * r < b then q else if b < 2 * r then q + 1 else q + q % 2

/-- The quotient `num / (den * 2 ^ e)`, as a pair of naturals. -/
def scaled (num den : Nat) (e : Int) : Nat × Nat :=
  (num * twoPow (-e).toNat, den * twoPow e.toNat)

/-- The exponent that leaves a quotient between `2 ^ 52` and `2 ^ 53`, or the least one. -/
def fittingExponent (num den : Nat) : Int :=
  let e : Int := (num.log2 : Int) - den.log2 - precision
  let (a, b) := scaled num den e
  max (if a / b < twoPow precision then e else e + 1) minExponent

/-- The normal form of a number whose mantissa has at most one bit too many; beyond the greatest
exponent it is infinite. -/
def normal (negative : Bool) (mantissa : Nat) (e : Int) : Binary :=
  let (mantissa, e) :=
    if mantissa = twoPow precision then (twoPow (precision - 1), e + 1) else (mantissa, e)
  if maxExponent < e then infinite negative else finite negative mantissa e

/-- The number nearest to `num / den`, a tie going to the even mantissa. -/
def round (negative : Bool) (num den : Nat) : Binary :=
  if num = 0 then finite negative 0 minExponent
  else
    let e := fittingExponent num den
    let (a, b) := scaled num den e
    normal negative (roundDiv a b) e

/-- The number nearest to an integer. -/
def ofInt (n : Int) : Binary :=
  round (n < 0) n.natAbs 1

/-- The number nearest to `digits * 10 ^ e`. -/
def ofDecimal (negative : Bool) (digits : Nat) (e : Int) : Binary :=
  round negative (digits * tenPow e.toNat) (tenPow (-e).toNat)

/-! ### Reading -/

/-- The value of a row of ASCII digits; other characters are skipped. -/
def digitsValue (chars : List Char) : Nat :=
  chars.foldl (fun n c => if c.isDigit then 10 * n + (c.toNat - 0x30) else n) 0

/-- The value of a row of ASCII digits after an optional sign. -/
def signedValue : List Char → Int
  | '-' :: digits => -(digitsValue digits : Int)
  | digits => digitsValue digits

/-- A finite number written with an optional fraction and an optional exponent. -/
def readFinite (chars : List Char) : Binary :=
  let coefficient := chars.takeWhile (· ≠ 'e')
  let exponent := chars.drop (coefficient.length + 1)
  let whole := coefficient.takeWhile (· ≠ '.')
  let fraction := coefficient.drop (whole.length + 1)
  ofDecimal (chars.head? == some '-') (digitsValue (whole ++ fraction))
    (signedValue exponent - fraction.length)

/-- The number that a text denotes. -/
def ofText (text : String) : Binary :=
  match text with
  | "inf" => infinite false
  | "-inf" => infinite true
  | "nan" => undefined
  | _ => readFinite text.toList

/-! ### Arithmetic -/

/-- The opposite number. -/
def neg : Binary → Binary
  | finite negative m e => finite (!negative) m e
  | infinite negative => infinite (!negative)
  | undefined => undefined

/-- A mantissa with its sign. -/
def signed (negative : Bool) (m : Nat) : Int :=
  if negative then -(m : Int) else m

/-- The number nearest to `n * 2 ^ e`; a zero gets the given sign. -/
def ofScaled (zeroNegative : Bool) (n e : Int) : Binary :=
  let negative := if n = 0 then zeroNegative else decide (n < 0)
  round negative (n.natAbs * twoPow e.toNat) (twoPow (-e).toNat)

/-- The sum. A zero sum is negative only if both numbers are. -/
def add : Binary → Binary → Binary
  | finite s m e, finite t n f =>
    let low := min e f
    ofScaled (s && t)
      (signed s m * twoPow (e - low).toNat + signed t n * twoPow (f - low).toNat) low
  | infinite s, infinite t => if s == t then infinite s else undefined
  | infinite s, finite .. => infinite s
  | finite .., infinite t => infinite t
  | undefined, _ => undefined
  | _, undefined => undefined

/-- The difference. -/
def sub (a b : Binary) : Binary := a.add b.neg

/-- The product. An infinite multiple of zero is undefined. -/
def mul : Binary → Binary → Binary
  | finite s m e, finite t n f => ofScaled (s != t) (signed (s != t) (m * n)) (e + f)
  | infinite s, infinite t => infinite (s != t)
  | infinite s, finite t n _ => if n = 0 then undefined else infinite (s != t)
  | finite s m _, infinite t => if m = 0 then undefined else infinite (s != t)
  | undefined, _ => undefined
  | _, undefined => undefined

end Binary

end GrammarKit
