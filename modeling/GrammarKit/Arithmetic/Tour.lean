import GrammarKit.Arithmetic.Basic

/-!
# A tour of the library

The tour applies small parsers to short sources and shows the results: single tokens, a sequence and
a row of digits, and arithmetic.

* `Arithmetic.tour` — the text of the tour.
-/

namespace GrammarKit.Arithmetic

open Formatter (identity)

/-- The value of a whole match under the standard engine. -/
def evaluate (parser : Parser) (source : String) : Except Fault Value :=
  let matcher := parser.run (scope Text.numeralLimit) recursionLimit
  (({} : Engine).matchAll recursionLimit matcher (.text source) {}).result

/-- The result of a match as a line of text. -/
def shown (parser : Parser) (source : String) : String :=
  match evaluate parser source with
  | .ok value => value.display
  | .error f => f.message

/-- A text filled up with spaces on its left. -/
def padLeft (width : Nat) (text : String) : String :=
  String.ofList (List.replicate (width - text.length) ' ') ++ text

/-- A source and the value of the expression that it is. -/
def exampleLine (source : String) : String :=
  let value :=
    match evaluate expr source with
    | .ok .noMatch => "no match"
    | .ok value => value.display
    | .error f => f.message
  padLeft 12 (Text.quoted source) ++ " -> " ++ value

/-- A line of equals signs. -/
def ruler : String := String.ofList (List.replicate 50 '=')

/-- A title between two rulers. -/
def heading (title : String) : List String := [ruler, title, ruler]

/-- The lines of the tour. -/
def tourLines : List String :=
  heading "Example 1: Tokens" ++
    [shown (.literal "hello" identity) "hello", shown (.literal "hello" identity) "world",
      shown (.optional (.literal "+" identity) identity) "", ""] ++
    heading "Example 2: Sequences and Formatters" ++
    [shown addition "2+5", shown digits "2017", ""] ++
    heading "Example 3: Recursive Arithmetic" ++
    ["Unbound rules: " ++ (Value.list ((grammar Text.numeralLimit).unbound.map .text)).spelling] ++
    ["1+2*3", "2*(3+4)-5", "(((7)))", "007", "1+"].map exampleLine ++
    [""] ++ heading "[SUCCESS] All examples completed successfully!"

/-- The text of the tour. -/
def tour : String :=
  String.join (tourLines.map (· ++ "\n"))

end GrammarKit.Arithmetic
