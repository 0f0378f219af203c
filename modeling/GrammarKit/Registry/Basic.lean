import GrammarKit.Registry.Grammar
import GrammarKit.Registry.Table

/-!
# Registries

A registry is a grammar or a table.

* `Registry` — either of them;
* `Registry.get?` — the rule under a key;
* `Registry.apply` — an operation;
* `Registry.binding?` — what a reference finds under a name: a null placeholder counts as nothing;
* `Registry.sameBindings` — whether two registries bind the same rules.
-/

namespace GrammarKit

/-- A grammar or a table. -/
inductive Registry where
  | grammar (grammar : Grammar)
  | table (table : Table)

/-- Whether two rules are one, or equal values in the place of parsers. -/
def Rule.equals (a b : Rule) : Bool :=
  a.id == b.id ||
    match a.parser, b.parser with
    | .inert v, .inert w => v == w
    | _, _ => false

/-- Whether two rules are one, or values in the place of parsers that are one and the same. -/
def Rule.coincides (a b : Rule) : Bool :=
  a.id == b.id ||
    match a.parser, b.parser with
    | .inert v, .inert w => v.coincides w
    | _, _ => false

namespace Registry

/-- The rule under a key. -/
def get? : Registry → Value → Except Fault (Option Rule)
  | grammar g, key => g.get? key
  | table t, key => t.get? key

/-- The rule under a key that has one. -/
def get (registry : Registry) (key : Value) : Except Fault Rule := do
  match ← registry.get? key with
  | some rule => .ok rule
  | none => .error (.missingKey key)

/-- The entries in order. -/
def entries : Registry → List (Value × Rule)
  | grammar g => g.rules.map fun entry => (.text entry.1, entry.2)
  | table t => t

/-- The keys in order. -/
def keys (registry : Registry) : List Value :=
  Entries.keys registry.entries

/-- The names that a grammar misses. -/
def unbound? : Registry → Option (List String)
  | grammar g => some g.unbound
  | table _ => none

/-- Performs an operation. -/
def apply : Registry → Operation → Change Registry Yield
  | grammar g, operation => (g.apply operation).lift grammar
  | table t, operation => (t.apply operation).lift table

/-- The parser that a reference finds under a name. -/
def binding? (registry : Registry) (name : Value) : Option Parser :=
  match registry.get? name with
  | .ok (some ⟨_, .inert .null⟩) => none
  | .ok (some rule) => some rule.parser
  | _ => none

/-- Whether two registries have the same keys with the same rules, in any order. -/
def sameBindings (a b : Registry) : Bool :=
  a.entries.length == b.entries.length &&
    a.entries.all fun entry =>
      match Entries.get? b.entries entry.1 with
      | some rule => entry.2.equals rule
      | none => false

/-- The registry as a line of text. -/
def summary : Registry → String
  | grammar g => g.summary
  | table t =>
    (Value.mapping (t.map fun entry => (entry.1, entry.2.parser.inert?.getD .null))).spelling

end Registry

end GrammarKit
