import GrammarKit.CharClass.Scan
import GrammarKit.Text.Place
import GrammarKit.Text.Quoted

/-!
# Reading a character class

A class is written as the body of a bracket expression, without the brackets: an optional caret for
negation, then characters, escapes and ranges. Brackets inside it have to be escaped. The body is
read together with the brackets around it, and offsets in messages count from the opening bracket.

* `bareBracket?` — the first bracket that is not escaped;
* `ClassFault` — why a text is not a class, and `ClassFault.reason` — the wording;
* `readItems` — the items up to the closing bracket;
* `CharClass.read` — the class that a text denotes.
-/

namespace GrammarKit

/-- The first bracket with no backslash before it, and its offset; `escaped` says that the character
at `offset` follows such a backslash. -/
def bareBracket? (escaped : Bool) (offset : Nat) : List Char → Option (Char × Nat)
  | [] => none
  | c :: chars =>
    if escaped then bareBracket? false (offset + 1) chars
    else if c = '\\' then bareBracket? true (offset + 1) chars
    else if c = '[' ∨ c = ']' then some (c, offset)
    else bareBracket? false (offset + 1) chars

/-- Why a text is not a character class. -/
inductive ClassFault where
  | empty
  | bareBracket (bracket : Char) (offset : Nat)
  /-- The text between brackets cannot be read; the offset counts from the opening bracket. -/
  | unreadable (fault : ScanFault) (offset : Nat)
deriving DecidableEq, Repr

/-- The wording of a scan fault. -/
def ScanFault.message : ScanFault → String
  | unterminated => "unterminated character set"
  | danglingBackslash => "bad escape (end of pattern)"
  | badEscape escape => "bad escape " ++ String.ofList escape
  | incompleteEscape escape => "incomplete escape " ++ String.ofList escape
  | octalRange escape =>
    "octal escape value " ++ String.ofList escape ++ " outside of range 0-0o377"
  | missingBrace => "missing \x7b"
  | missingName => "missing character name"
  | unterminatedName => "missing \x7d, unterminated name"
  | undefinedName name => "undefined character name " ++ String.ofList (Text.quotedChars name)
  | badRange lo hi => "bad character range " ++ String.ofList lo ++ "-" ++ String.ofList hi

/-- Where a fault is: its offset in the bracketed text, with line and column if there are lines. -/
def locate (bracketed : List Char) (offset : Nat) : String :=
  let place := Text.Place.ofText (bracketed.take offset)
  if bracketed.contains '\n' then
    s!" at position {offset} (line {place.line}, column {place.column})"
  else s!" at position {offset}"

/-- A class body between its brackets. -/
def bracketed (pattern : List Char) : List Char :=
  '[' :: pattern ++ [']']

/-- The wording of a class fault. -/
def ClassFault.reason (pattern : List Char) : ClassFault → String
  | empty => "empty class"
  | bareBracket bracket offset =>
    "unescaped '" ++ String.singleton bracket ++ s!"' at offset {offset}"
  | unreadable fault offset => fault.message ++ locate (bracketed pattern) offset

/-- The range between two atoms, if both are characters in order. -/
def range? (lo hi : Atom) : Option ClassItem :=
  match lo.meaning, hi.meaning with
  | .point m, .point n => if m ≤ n then some (.range m n) else none
  | _, _ => none

/-- The items of a scan up to the closing bracket, and the offset just after that bracket. A bracket
that comes first is a character; a hyphen between two atoms makes a range, unless the second one is
the closing bracket. -/
def readItems (first : Bool) : Scan → Except (ScanFault × Nat) (List ClassItem × Nat)
  | .done => .error (.unterminated, 0)
  | .fail fault offset => .error (fault, offset)
  | .atom a rest =>
    if a.token = [']'] ∧ !first then .ok ([], a.stop)
    else match rest with
      | .atom b rest' =>
        if b.token = ['-'] then
          match rest' with
          | .done => .error (.unterminated, 0)
          | .fail fault offset => .error (fault, offset)
          | .atom c rest'' =>
            if c.token = [']'] then .ok ([a.meaning.item, b.meaning.item], c.stop)
            else match range? a c with
              | some item => (readItems false rest'').map fun read => (item :: read.1, read.2)
              | none =>
                .error (.badRange a.token c.token, c.stop - (a.token.length + 1 + c.token.length))
        else (readItems false (.atom b rest')).map fun read => (a.meaning.item :: read.1, read.2)
      | rest => (readItems false rest).map fun read => (a.meaning.item :: read.1, read.2)

/-- The class in a bracketed text whose opening bracket has been read, and the offset after its
closing bracket. -/
def readBracketed (names : CharNames) : List Char → Except (ScanFault × Nat) (CharClass × Nat)
  | '^' :: chars =>
    (readItems true (.ofChars names 2 chars)).map fun read => (⟨true, read.1⟩, read.2)
  | chars => (readItems true (.ofChars names 1 chars)).map fun read => (⟨false, read.1⟩, read.2)

/-- The character class that a text denotes. -/
def CharClass.read (names : CharNames) (pattern : List Char) : Except ClassFault CharClass :=
  if pattern.isEmpty then .error .empty
  else match bareBracket? false 0 pattern with
    | some (bracket, offset) => .error (.bareBracket bracket offset)
    | none =>
      match readBracketed names (pattern ++ [']']) with
      | .ok (cls, _) => .ok cls
      | .error (fault, offset) => .error (.unreadable fault offset)

end GrammarKit
