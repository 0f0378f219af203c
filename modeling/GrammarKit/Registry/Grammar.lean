import GrammarKit.Registry.Operation

/-!
# Grammars

A grammar is a registry of named rules. It keeps its rules in the order in which their names came
in, checks names and rules when they are bound, and remembers which names were referred to, so that
missing rules can be listed before anything is parsed.

* `Grammar` — the rules and the names referred to;
* `Grammar.bind`, `Grammar.erase`, `Grammar.pop`, `Grammar.popFirst`, `Grammar.setDefault`,
  `Grammar.update`, `Grammar.clear`, `Grammar.refer` — the operations;
* `Grammar.apply` — any of them, as data;
* `Grammar.unbound` — the names referred to that have no rule, in order.
-/

namespace GrammarKit

/-- The fault of a name that is not a non-empty text. -/
def invalidName (name : Value) : Fault :=
  .reporting .construction (Diagnostic.invalidRuleName recursionLimit name)

/-- The rule name that a value is. -/
def ruleName (name : Value) : Except Fault String :=
  match name with
  | .text s => if s = "" then .error (invalidName name) else .ok s
  | _ => .error (invalidName name)

/-- A registry of named rules. -/
structure Grammar where
  name : String := "grammar"
  /-- The rules, in the order in which their names came in. -/
  rules : List (String × Rule) := []
  /-- The names that were referred to, without repetition. -/
  referenced : List String := []

namespace Grammar

/-- The rule under a name. -/
def rule? (g : Grammar) (name : String) : Option Rule :=
  Entries.get? g.rules name

/-- The names that have a rule, in order. -/
def names (g : Grammar) : List String :=
  Entries.keys g.rules

/-- The rule under a key; a value that is no text is the key of no rule. -/
def get? (g : Grammar) (key : Value) : Except Fault (Option Rule) :=
  match key.keyObstacle?, key with
  | some typeName, _ => .error (.notKey typeName)
  | none, .text name => .ok (g.rule? name)
  | none, _ => .ok none

/-- The rule under a key that has one. -/
def get (g : Grammar) (key : Value) : Except Fault Rule := do
  match ← g.get? key with
  | some rule => .ok rule
  | none => .error (.missingKey key)

/-- The record of a binding. -/
def bindRecord (g : Grammar) (name : String) : LogRecord :=
  if (g.rule? name).isSome then .rebound g.name name else .bound g.name name

/-- The grammar with a rule set. -/
def insert (g : Grammar) (name : String) (rule : Rule) : Grammar :=
  { g with rules := Entries.insert g.rules name rule }

/-- The grammar without a rule. -/
def remove (g : Grammar) (key : Value) : Grammar :=
  match key with
  | .text name => { g with rules := Entries.erase g.rules name }
  | _ => g

/-- Binds a rule to a name. The name is checked first, then that the rule is a parser. -/
def bind (g : Grammar) (key : Value) (rule : Rule) : Change Grammar Unit :=
  match ruleName key with
  | .error f => .refused g f
  | .ok name =>
    match rule.parser.inert? with
    | some value => .refused g (.ruleNotParser name value)
    | none => ⟨g.insert name rule, [g.bindRecord name], .ok ()⟩

/-- Takes a rule away. -/
def erase (g : Grammar) (key : Value) : Change Grammar Unit :=
  match g.get key with
  | .ok _ => .done (g.remove key) ()
  | .error f => .refused g f

/-- Takes a rule away and gives it; a default stands in for a rule that is not there. -/
def pop (g : Grammar) (key : Value) (default : Option Rule) : Change Grammar Rule :=
  match g.get? key, default with
  | .error f, _ => .refused g f
  | .ok (some rule), _ => .done (g.remove key) rule
  | .ok none, some rule => .done g rule
  | .ok none, none => .refused g (.missingKey key)

/-- Takes the first rule away and gives it with its name. -/
def popFirst (g : Grammar) : Change Grammar (String × Rule) :=
  match g.rules with
  | [] => .refused g .noRules
  | entry :: rules => .done { g with rules := rules } entry

/-- The rule under a key, which is bound to the given rule first if it has none. -/
def setDefault (g : Grammar) (key : Value) (rule : Rule) : Change Grammar Rule :=
  match g.get? key with
  | .error f => .refused g f
  | .ok (some found) => .done g found
  | .ok none =>
    (g.bind key rule).map fun _ => rule

/-- Binds several rules one by one, up to the first that cannot be bound. -/
def update (g : Grammar) : List (Value × Rule) → Change Grammar Unit
  | [] => .done g ()
  | (key, rule) :: pairs =>
    let first := g.bind key rule
    match first.result with
    | .error f => ⟨first.state, first.records, .error f⟩
    | .ok () =>
      let rest := first.state.update pairs
      ⟨rest.state, first.records ++ rest.records, rest.result⟩

/-- Takes all rules away. -/
def clear (g : Grammar) : Change Grammar Unit :=
  .done { g with rules := [] } ()

/-- Refers to a name, which is remembered. -/
def refer (g : Grammar) (name : Value) : Change Grammar Unit :=
  match ruleName name with
  | .error f => .refused g f
  | .ok name => .done { g with referenced := g.referenced.insert name } ()

/-- Performs an operation. -/
def apply (g : Grammar) : Operation → Change Grammar Yield
  | .bind key rule => (g.bind key rule).map fun _ => .nothing
  | .erase key => (g.erase key).map fun _ => .nothing
  | .pop key default => (g.pop key default).map .rule
  | .popItem => g.popFirst.map fun entry => .entry (.text entry.1) entry.2
  | .setDefault key rule => (g.setDefault key rule).map .rule
  | .update pairs => (g.update pairs).map fun _ => .nothing
  | .clear => g.clear.map fun _ => .nothing
  | .refer name => (g.refer name).map fun _ => .nothing

/-- The names referred to that have no rule, in the order of their characters. -/
def unbound (g : Grammar) : List String :=
  (g.referenced.filter fun name => (g.rule? name).isNone).mergeSort fun a b => decide (a ≤ b)

/-- The grammar as a line of text. -/
def summary (g : Grammar) : String :=
  let names := (g.names.mergeSort fun a b => decide (a ≤ b)).map Value.text
  s!"Grammar(name={Text.quoted g.name}, rules={(Value.list names).spelling})"

end Grammar

end GrammarKit
