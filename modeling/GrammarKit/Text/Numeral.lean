import GrammarKit.Text.Blank
import GrammarKit.Text.Decimal
import GrammarKit.Text.Digit

/-!
# Integer numerals

An integer numeral is a row of decimal digits of any script, with single underscores allowed between
two digits, an optional sign before it and padding around it. A row that has more digits than a
limit is refused, whatever follows it.

* `isPadding` — what may stand around a numeral;
* `DigitRow` — a row of digits and what follows it;
* `readInteger` — the value of a numeral.
-/

namespace GrammarKit.Text

/-- The most digits of an integer that is read or printed. -/
def numeralLimit : Nat := 4300

/-- Whether a character may stand around a numeral: a blank that is no information separator. -/
def isPadding (c : Char) : Bool :=
  isBlank c.toNat && !(0x1c ≤ c.toNat && c.toNat ≤ 0x1f)

/-- A row of digits, the last one first, and the text after it. -/
structure DigitRow where
  digits : List Nat
  rest : List Char
deriving DecidableEq, Repr

/-- The number that a row of digits denotes. -/
def DigitRow.value (row : DigitRow) : Nat :=
  pairwise row.digits.length 10 row.digits

theorem DigitRow.value_eq (row : DigitRow) : row.value = positional 10 row.digits :=
  pairwise_eq _ _ _

/-- Reads on after some digits, the last one first. An underscore has to be followed by a digit. -/
def readDigits (digits : List Nat) : List Char → Option DigitRow
  | [] => some ⟨digits, []⟩
  | ['_'] => none
  | '_' :: c :: rest =>
    match digitValue? c with
    | some digit => readDigits (digit :: digits) rest
    | none => none
  | c :: rest =>
    match digitValue? c with
    | some digit => readDigits (digit :: digits) rest
    | none => some ⟨digits, c :: rest⟩

/-- The row of digits at the start of a text. -/
def readRow : List Char → Option DigitRow
  | [] => none
  | c :: rest => do readDigits [← digitValue? c] rest

/-- Why a text is not read as an integer. -/
inductive NumeralFault where
  | malformed
  | tooLong (digits : Nat)
deriving DecidableEq, Repr

/-- The value of a row of digits with padding after it. -/
def readNatural (limit : Nat) (chars : List Char) : Except NumeralFault Nat :=
  match readRow chars with
  | none => .error .malformed
  | some row =>
    if limit < row.digits.length then .error (.tooLong row.digits.length)
    else if row.rest.all isPadding then .ok row.value
    else .error .malformed

/-- The value of a row of digits after an optional sign. -/
def readSigned (limit : Nat) : List Char → Except NumeralFault Int
  | '+' :: rest => (readNatural limit rest).map Int.ofNat
  | '-' :: rest => (readNatural limit rest).map fun n => -Int.ofNat n
  | chars => (readNatural limit chars).map Int.ofNat

/-- The value of an integer numeral with at most `limit` digits. -/
def readInteger (limit : Nat) (text : String) : Except NumeralFault Int :=
  readSigned limit (text.toList.dropWhile isPadding)

end GrammarKit.Text
