import GrammarKit.CharClass.Basic

/-!
# Scanning a character class

The body of a bracket expression is cut into atoms: single characters and escapes. An automaton
reads one character at a time. Scanning stops at the first escape that cannot be read, so a scan is
a list of atoms that ends well or with a fault. An escape may name a character; which character has
which name is not fixed here.

* `CharNames` — the names of characters;
* `Meaning` — what an atom stands for;
* `Atom` — an atom with the token it starts with and the offset after it;
* `ScanFault` — what is wrong with an escape;
* `ScanState`, `ScanState.feed`, `ScanState.finish` — the automaton;
* `Scan` — the result, and `Scan.ofChars` — the scan of a text.
-/

namespace GrammarKit

/-- The character with a given name, if there is one. -/
abbrev CharNames := String → Option Char

/-- What an atom of a class stands for. -/
inductive Meaning where
  | point (n : Nat)
  | category (category : Category) (negated : Bool)
deriving DecidableEq, Repr

/-- The item that consists of one atom. -/
def Meaning.item : Meaning → ClassItem
  | point n => .range n n
  | category c negated => .category c negated

/-- A character or an escape. -/
structure Atom where
  meaning : Meaning
  /-- The character, or the backslash and the character after it. -/
  token : List Char
  /-- The offset just after the atom. -/
  stop : Nat
deriving DecidableEq, Repr

/-- What is wrong with an escape or with the class as a whole. -/
inductive ScanFault where
  | unterminated
  | danglingBackslash
  | badEscape (escape : List Char)
  | incompleteEscape (escape : List Char)
  | octalRange (escape : List Char)
  | missingBrace
  | missingName
  | unterminatedName
  | undefinedName (name : List Char)
  | badRange (lo hi : List Char)
deriving DecidableEq, Repr

/-- The atoms of a text, in order, up to its end or to the first fault and its offset. -/
inductive Scan where
  | done
  | fail (fault : ScanFault) (offset : Nat)
  | atom (atom : Atom) (rest : Scan)
deriving DecidableEq, Repr

/-- Where the automaton stands between two characters. `start` is the offset of the backslash. -/
inductive ScanState where
  /-- Between two atoms. -/
  | plain
  /-- After a backslash. -/
  | escape (start : Nat)
  /-- In an escape of `width` hexadecimal digits. -/
  | hex (start : Nat) (letter : Char) (width : Nat) (digits : List Char)
  /-- In an escape of one to three octal digits. -/
  | octal (start : Nat) (digits : List Char)
  /-- Before the brace that opens a character name. -/
  | brace (start : Nat)
  /-- In a character name; `escaped` says that the last character was a free backslash. -/
  | name (start : Nat) (chars : List Char) (escaped : Bool)
deriving DecidableEq, Repr

/-- The value of a hexadecimal digit. -/
def hexValue? (c : Char) : Option Nat :=
  if c.isDigit then some (c.toNat - 0x30)
  else if 'a' ≤ c ∧ c ≤ 'f' then some (c.toNat - 0x57)
  else if 'A' ≤ c ∧ c ≤ 'F' then some (c.toNat - 0x37)
  else none

/-- Whether a character is an octal digit. -/
def isOctal (c : Char) : Bool := '0' ≤ c && c ≤ '7'

/-- The value of a row of digits, each below the base. -/
def digitsValue (base : Nat) (digits : List Char) : Nat :=
  digits.foldl (fun n c => base * n + (hexValue? c).getD 0) 0

/-- The characters that have a one-letter escape. -/
def controlEscape? : Char → Option Nat
  | 'a' => some 0x07
  | 'b' => some 0x08
  | 'f' => some 0x0c
  | 'n' => some 0x0a
  | 'r' => some 0x0d
  | 't' => some 0x09
  | 'v' => some 0x0b
  | _ => none

/-- The categories that have a one-letter escape; the capital letter is the complement. -/
def categoryEscape? : Char → Option Meaning
  | 'd' => some (.category .digit false)
  | 'D' => some (.category .digit true)
  | 's' => some (.category .blank false)
  | 'S' => some (.category .blank true)
  | 'w' => some (.category .word false)
  | 'W' => some (.category .word true)
  | _ => none

/-- The number of digits of a hexadecimal escape. -/
def hexWidth? : Char → Option Nat
  | 'x' => some 2
  | 'u' => some 4
  | 'U' => some 8
  | _ => none

/-- What reading one character gives: atoms that are now complete, and the next state or a fault. -/
structure ScanStep where
  atoms : List Atom
  next : Except (ScanFault × Nat) ScanState

namespace ScanStep

/-- Go on in another state. -/
def shift (state : ScanState) : ScanStep := ⟨[], .ok state⟩

/-- An atom is complete. -/
def emit (atom : Atom) : ScanStep := ⟨[atom], .ok .plain⟩

/-- The text cannot be read. -/
def fail (fault : ScanFault) (offset : Nat) : ScanStep := ⟨[], .error (fault, offset)⟩

end ScanStep

namespace ScanState

/-- The step for the first character of an atom. -/
def feedPlain (pos : Nat) (c : Char) : ScanStep :=
  if c = '\\' then .shift (.escape pos)
  else .emit ⟨.point c.toNat, [c], pos + 1⟩

/-- The step for the character after a backslash. -/
def feedEscape (start pos : Nat) (c : Char) : ScanStep :=
  match controlEscape? c, categoryEscape? c, hexWidth? c with
  | some n, _, _ => .emit ⟨.point n, ['\\', c], pos + 1⟩
  | none, some meaning, _ => .emit ⟨meaning, ['\\', c], pos + 1⟩
  | none, none, some width => .shift (.hex start c width [])
  | none, none, none =>
    if c = 'N' then .shift (.brace start)
    else if isOctal c then .shift (.octal start [c])
    else if c.isAlphanum then .fail (.badEscape ['\\', c]) start
    else .emit ⟨.point c.toNat, ['\\', c], pos + 1⟩

/-- The step for the last digit of a hexadecimal escape. -/
def feedHexLast (start pos : Nat) (letter : Char) (digits : List Char) : ScanStep :=
  if digitsValue 16 digits ≤ 0x10ffff then
    .emit ⟨.point (digitsValue 16 digits), ['\\', letter], pos + 1⟩
  else .fail (.badEscape ('\\' :: letter :: digits)) start

/-- The atom of an octal escape that ends at `stop`. -/
def octalAtom (digits : List Char) (stop : Nat) : Atom :=
  ⟨.point (digitsValue 8 digits), '\\' :: digits.take 1, stop⟩

/-- The step for a character after one or two octal digits. -/
def feedOctal (start pos : Nat) (digits : List Char) (c : Char) : ScanStep :=
  if isOctal c then
    if digits.length < 2 then .shift (.octal start (digits ++ [c]))
    else if digitsValue 8 (digits ++ [c]) ≤ 0o377 then .emit (octalAtom (digits ++ [c]) (pos + 1))
    else .fail (.octalRange ('\\' :: digits ++ [c])) start
  else
    let step := feedPlain pos c
    ⟨octalAtom digits pos :: step.atoms, step.next⟩

/-- The step for the brace that closes a character name. -/
def feedNameEnd (names : CharNames) (start pos : Nat) (chars : List Char) : ScanStep :=
  if chars.isEmpty then .fail .missingName pos
  else match names (String.ofList chars) with
    | some c => .emit ⟨.point c.toNat, ['\\', 'N'], pos + 1⟩
    | none => .fail (.undefinedName chars) start

/-- The step for the character at offset `pos`. -/
def feed (names : CharNames) (pos : Nat) (c : Char) : ScanState → ScanStep
  | plain => feedPlain pos c
  | escape start => feedEscape start pos c
  | hex start letter width digits =>
    if (hexValue? c).isSome then
      if digits.length + 1 < width then .shift (.hex start letter width (digits ++ [c]))
      else feedHexLast start pos letter (digits ++ [c])
    else .fail (.incompleteEscape ('\\' :: letter :: digits)) start
  | octal start digits => feedOctal start pos digits c
  | brace start => if c = '\x7b' then .shift (.name start [] false) else .fail .missingBrace pos
  | name start chars escaped =>
    if escaped then .shift (.name start (chars ++ [c]) false)
    else if c = '\x7d' then feedNameEnd names start pos chars
    else .shift (.name start (chars ++ [c]) (c == '\\'))

/-- What is left to say at the end of the text, which is at offset `pos`. -/
def finish (pos : Nat) : ScanState → Scan
  | plain => .done
  | escape start => .fail .danglingBackslash start
  | hex start letter _ digits => .fail (.incompleteEscape ('\\' :: letter :: digits)) start
  | octal _ digits => .atom (octalAtom digits pos) .done
  | brace _ => .fail .missingBrace pos
  | name _ chars _ =>
    if chars.isEmpty then .fail .missingName pos
    else .fail .unterminatedName (pos - chars.length)

end ScanState

namespace Scan

/-- Atoms put before a scan. -/
def prepend (atoms : List Atom) (scan : Scan) : Scan :=
  atoms.foldr .atom scan

/-- The scan of a text that starts at offset `pos`, from a given state. -/
def run (names : CharNames) (state : ScanState) (pos : Nat) : List Char → Scan
  | [] => state.finish pos
  | c :: chars =>
    let step := state.feed names pos c
    prepend step.atoms <|
      match step.next with
      | .ok next => run names next (pos + 1) chars
      | .error (fault, offset) => .fail fault offset

/-- The scan of a text that starts at offset `pos`. -/
def ofChars (names : CharNames) (pos : Nat) (chars : List Char) : Scan :=
  run names .plain pos chars

end Scan

end GrammarKit
