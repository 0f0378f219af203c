import GrammarKit.Workspace.Session

/-!
# Arithmetic expressions

A worked grammar. An expression is a chain of terms with `+` and `-`, a term is a chain of factors
with `*`, and a factor is a number or an expression in parentheses. The rules refer to each other
through a grammar, and the formatters compute the value of the expression as it is parsed.

* `Arithmetic.digit`, `Arithmetic.addition`, `Arithmetic.digits` — first examples;
* `Arithmetic.number`, `Arithmetic.group` — the two kinds of factors;
* `Arithmetic.grammar` — the rules `factor`, `term` and `expr`;
* `Arithmetic.scope` — what its references find.
-/

namespace GrammarKit.Arithmetic

open Formatter

/-- The handle of the grammar. -/
def handle : RegistryId := 0

/-- A reference to a rule of the grammar. -/
def ref (name : String) : Parser := .reference handle (.text name)

/-- The digits from `0` to `9`. -/
def digitClass : CharClass := ⟨false, [.range 0x30 0x39]⟩

/-- The digits from `1` to `9`. -/
def leadingClass : CharClass := ⟨false, [.range 0x31 0x39]⟩

/-- The operators of an expression. -/
def sumClass : CharClass := ⟨false, [.range 0x2b 0x2b, .range 0x2d 0x2d]⟩

/-- The operator of a term. -/
def productClass : CharClass := ⟨false, [.range 0x2a 0x2a]⟩

/-! The classes as they are written. -/

section

variable (names : CharNames)

example : CharClass.read names ['0', '-', '9'] = .ok digitClass := rfl
example : CharClass.read names ['1', '-', '9'] = .ok leadingClass := rfl
example : CharClass.read names ['+', '\\', '-'] = .ok sumClass := rfl
example : CharClass.read names ['*'] = .ok productClass := rfl

end

/-- One digit. -/
def digit : Parser := .charClass digitClass identity

/-- Two digits with a plus sign between them. -/
def addition : Parser := .sequence [digit, .literal "+" identity, digit] identity

/-- One or more digits, as text. -/
def digits : Parser := .repetition digit 1 matchedText

/-- Zero, or a row of digits that does not start with zero, as an integer. A longer row than
`digitLimit` digits is refused. -/
def number (digitLimit : Nat) : Parser :=
  .alternation
    [.literal "0" identity,
      .sequence [.charClass leadingClass identity, .repetition digit 0 identity] identity]
    (integer digitLimit)

/-- An expression in parentheses. -/
def group : Parser :=
  .sequence [.literal "(" identity, ref "expr", .literal ")" identity] second

/-- A number or a group. -/
def factor (digitLimit : Nat) : Parser := .alternation [number digitLimit, group] unwrap

/-- Operands of one rule with operators of one class between them. -/
def chainOf (operand : String) (operators : CharClass) : Parser :=
  .sequence
    [ref operand,
      .repetition (.sequence [.charClass operators identity, ref operand] unwrap) 0 identity]
    foldChain

/-- A chain of factors. -/
def term : Parser := chainOf "factor" productClass

/-- A chain of terms. -/
def expr : Parser := chainOf "term" sumClass

/-- The rules of arithmetic. -/
def grammar (digitLimit : Nat) : Grammar where
  name := "arithmetic"
  rules := [("factor", ⟨0, factor digitLimit⟩), ("term", ⟨1, term⟩), ("expr", ⟨2, expr⟩)]
  referenced := ["expr", "factor", "term"]

/-- What references find in a grammar. -/
def scopeOf (g : Grammar) : Scope := fun id name =>
  if id = handle then (Registry.grammar g).binding? name else none

/-- What the references of arithmetic find. -/
def scope (digitLimit : Nat) : Scope := scopeOf (grammar digitLimit)

/-- The named parsers that are not rules. -/
def parsers (digitLimit : Nat) : List (String × Parser) :=
  [("digit", digit), ("addition", addition), ("digits", digits), ("number", number digitLimit),
    ("group", group)]

/-- A parser with the name of a rule. -/
def ruleNamed (digitLimit : Nat) (name : Value) : Except Fault Parser :=
  ((grammar digitLimit).get name).map (·.parser)

/-- A parser with the name of another example. -/
def parserNamed (digitLimit : Nat) (name : String) : Except Fault Parser :=
  match Entries.get? (parsers digitLimit) name with
  | some parser => .ok parser
  | none => .error (.missingKey (.text name))

/-- Applies a parser to a source. -/
def attempt (digitLimit : Nat) (trial : Trial) (parser : Parser) (source : Value) :
    Except Fault Reply × List Event :=
  let g := grammar digitLimit
  let w := Workspace.initial (fun _ => none) "" ""
  let (result, w) := (Work.tryIn (scopeOf g) trial parser source).run.run w
  (result, w.journal.toList)

end GrammarKit.Arithmetic
