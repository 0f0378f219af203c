import GrammarKit.Binary.Basic

/-!
# The shortest text of a floating-point number

A finite number is written with the fewest significant digits that read back as the same number,
and of those with the nearest ones.

* `Binary.shortest` — the digits and their scale;
* `Binary.text` — the written form: positional for magnitudes from `10 ^ -4` to below `10 ^ 16`, and
  with an exponent of at least two digits beyond.
-/

namespace GrammarKit.Binary

/-- The exact value of a magnitude, as a quotient of naturals. -/
def ratio (mantissa : Nat) (e : Int) : Nat × Nat :=
  (mantissa * twoPow e.toNat, twoPow (-e).toNat)

/-- The greatest number of places after the point before the first digit other than zero. -/
def maxLeadingZeros : Nat := 400

/-- The number of digits before the point of `num / den`; it is not positive if there are none, and
zeros after the point then count downwards. -/
def magnitude (num den : Nat) : Int :=
  if den ≤ num then (Nat.toDigits 10 (num / den)).length
  else
    let places := (List.range maxLeadingZeros).find? fun k => decide (den ≤ num * tenPow k)
    1 - (places.getD maxLeadingZeros : Int)

/-- The distance between `d * 10 ^ p` and `num / den`, in units that are the same for all `d`. -/
def distance (num den d : Nat) (p : Int) : Nat :=
  ((d * tenPow p.toNat * den : Nat) - (num * tenPow (-p).toNat : Nat) : Int).natAbs

/-- Of the two multiples of `10 ^ p` around `num / den`, the nearest that reads back as the given
number, a tie going to the even one. -/
def nearestOn (mantissa : Nat) (e : Int) (num den : Nat) (p : Int) : Option Nat :=
  let below := num * tenPow (-p).toNat / (den * tenPow p.toNat)
  let readsBack (d : Nat) : Bool := decide (ofDecimal false d p = finite false mantissa e)
  match readsBack below, readsBack (below + 1) with
  | false, false => none
  | true, false => some below
  | false, true => some (below + 1)
  | true, true =>
    let low := distance num den below p
    let high := distance num den (below + 1) p
    some (if low < high ∨ low = high ∧ below % 2 = 0 then below else below + 1)

/-- The most digits that are needed to tell all numbers apart. -/
def maxDigits : Nat := 17

/-- The digits and the scale of a magnitude: the fewest digits that read back. -/
def shortest (mantissa : Nat) (e : Int) : Nat × Int :=
  let (num, den) := ratio mantissa e
  let whole := magnitude num den
  ((List.range maxDigits).findSome? fun n =>
    let p := whole - (n + 1 : Nat)
    (nearestOn mantissa e num den p).map fun d => (d, p)).getD (0, 0)

/-- The decimal digits of a number without the zeros at their end, and how many those were. -/
def significant (digits : Nat) : List Char × Nat :=
  let all := Nat.toDigits 10 digits
  let kept := (all.reverse.dropWhile (· == '0')).reverse
  (kept, all.length - kept.length)

/-- A row of zeros. -/
def zeros (count : Nat) : List Char := List.replicate count '0'

/-- Digits in positional notation, `point` of them before the point. -/
def positional (digits : List Char) (point : Int) : List Char :=
  if point ≤ 0 then ['0', '.'] ++ zeros (-point).toNat ++ digits
  else if digits.length ≤ point.toNat then
    digits ++ zeros (point.toNat - digits.length) ++ ['.', '0']
  else digits.take point.toNat ++ ['.'] ++ digits.drop point.toNat

/-- An exponent with its sign and at least two digits. -/
def exponentText (exponent : Int) : List Char :=
  let digits := Nat.toDigits 10 exponent.natAbs
  (if exponent < 0 then '-' else '+') :: zeros (2 - digits.length) ++ digits

/-- Digits with one of them before the point and an exponent. -/
def scientific (digits : List Char) (point : Int) : List Char :=
  let fraction := digits.drop 1
  digits.take 1 ++ (if fraction.isEmpty then [] else '.' :: fraction) ++
    'e' :: exponentText (point - 1)

/-- The text of a magnitude. -/
def magnitudeText (mantissa : Nat) (e : Int) : List Char :=
  if mantissa = 0 then ['0', '.', '0']
  else
    let (digits, p) := shortest mantissa e
    let (digits, dropped) := significant digits
    let point := digits.length + dropped + p
    if -4 < point ∧ point ≤ 16 then positional digits point else scientific digits point

/-- The text of a number. -/
def text : Binary → String
  | finite negative mantissa e =>
    String.ofList ((if negative then ['-'] else []) ++ magnitudeText mantissa e)
  | infinite negative => if negative then "-inf" else "inf"
  | undefined => "nan"

end GrammarKit.Binary
