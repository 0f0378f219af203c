import GrammarKit.Text.Printable

/-!
# Quoted texts

A quoted text is written on one line between quotes, unambiguously: the quote and the backslash are
escaped, line ends and tabulators have short escapes, and every other character that is not
printable is written by its code point in lower-case hexadecimal digits.

* `quoteFor` — the quote chosen for a text;
* `escape` — how one character is written;
* `quoted` — the quoted text;
* `quotedBytes` — the quoted form of a byte string.
-/

namespace GrammarKit.Text

/-- The lower-case hexadecimal digit of a number below sixteen. -/
def hexDigit (n : Nat) : Char :=
  if n < 10 then Char.ofNat (0x30 + n) else Char.ofNat (0x57 + n)

/-- The last `width` hexadecimal digits of a number. -/
def hexDigits : (width n : Nat) → List Char
  | 0, _ => []
  | width + 1, n => hexDigits width (n / 16) ++ [hexDigit (n % 16)]

/-- A code point written with the shortest of the three hexadecimal escapes that holds it. -/
def escapePoint (point : Nat) : List Char :=
  if point < 0x100 then '\\' :: 'x' :: hexDigits 2 point
  else if point < 0x10000 then '\\' :: 'u' :: hexDigits 4 point
  else '\\' :: 'U' :: hexDigits 8 point

/-- The apostrophe, unless the text holds an apostrophe and no quotation mark. -/
def quoteFor (chars : List Char) : Char :=
  if chars.contains '\'' && !chars.contains '"' then '"' else '\''

/-- A character as it is written inside a quoted text. -/
def escape (quote c : Char) : List Char :=
  if c = quote ∨ c = '\\' then ['\\', c]
  else if c = '\n' then ['\\', 'n']
  else if c = '\r' then ['\\', 'r']
  else if c = '\t' then ['\\', 't']
  else if isPrintable c then [c]
  else escapePoint c.toNat

/-- The characters of a quoted text, quotes included. -/
def quotedChars (chars : List Char) : List Char :=
  quoteFor chars :: chars.flatMap (escape (quoteFor chars)) ++ [quoteFor chars]

/-- A text between quotes. -/
def quoted (text : String) : String :=
  String.ofList (quotedChars text.toList)

/-- A byte as it is written inside a quoted byte string. -/
def escapeByte (quote : Char) (byte : UInt8) : List Char :=
  if byte.toNat < 0x80 then escape quote (Char.ofNat byte.toNat) else escapePoint byte.toNat

/-- A byte string between quotes, after the letter `b`. -/
def quotedBytes (bytes : List UInt8) : String :=
  let quote := quoteFor (bytes.map fun byte => Char.ofNat byte.toNat)
  String.ofList ('b' :: quote :: bytes.flatMap (escapeByte quote) ++ [quote])

end GrammarKit.Text
