/-!
# Numbers in groups of three digits

* `groupDigits` — a row of digits with a comma between groups of three, counted from the right;
* `grouped` — a natural number written that way.
-/

namespace GrammarKit.Text

/-- A row of digits with a comma before every group of three that is not the first. -/
def groupDigits : List Char → List Char
  | [] => []
  | [d] => [d]
  | d :: e :: rest =>
    if (rest.length + 1) % 3 = 0 then d :: ',' :: groupDigits (e :: rest)
    else d :: groupDigits (e :: rest)

/-- A natural number in decimal, with commas between groups of three digits. -/
def grouped (n : Nat) : String :=
  String.ofList (groupDigits (Nat.toDigits 10 n))

example : grouped 0 = "0" := by decide
example : grouped 999 = "999" := by decide
example : grouped 1234567 = "1,234,567" := by decide

end GrammarKit.Text
