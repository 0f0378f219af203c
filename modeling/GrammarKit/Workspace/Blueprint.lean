import GrammarKit.CharClass.Reader
import GrammarKit.Formatter.Recipe
import GrammarKit.Workspace.Basic

/-!
# Blueprints

A blueprint describes a parser before it is built. Building checks the arguments of the combinators,
looks up rules and variables, and tells grammars which names are referred to. Children are built
from left to right before their parent; the first fault ends the building.

* `Blueprint` — the descriptions;
* `Blueprint.build` — the parser of a blueprint;
* `Blueprint.buildPairs` — several rules at once, each under a key.
-/

namespace GrammarKit

/-- A description of a parser. Arguments are values, which may turn out to be wrong. -/
inductive Blueprint where
  /-- A value in the place of a parser. -/
  | inert (value : Value)
  | literal (text : Value) (format : Recipe)
  | charClass (pattern : Value) (format : Recipe)
  | sequence (children : List Blueprint) (format : Recipe)
  | alternation (children : List Blueprint) (format : Recipe)
  | optional (child : Blueprint) (format : Recipe)
  | repetition (child : Blueprint) (minimum : Value) (format : Recipe)
  /-- A reference made by a grammar, which checks and remembers the name. -/
  | ref (registry : String) (name : Value)
  /-- A reference to any registry, without checks. -/
  | lookup (registry : String) (name : Value)
  /-- The rule that a registry holds now. -/
  | rule (registry : String) (key : Value)
  /-- The rule in a variable. -/
  | stored (name : String)
  | leaf (leaf : Leaf)
  | probe (label : String) (inner : Blueprint)

namespace Blueprint

/-- The text of a literal. -/
def literalText : Value → Except Fault String
  | .text s => .ok s
  | value => .error (.literalNotText value)

/-- The fault of a character class that cannot be read. -/
def classFault (pattern : String) (fault : ClassFault) : Fault :=
  .construction (.invalidCharClass (.text pattern) (.text (fault.reason pattern.toList)))

/-- The character class that a value describes; `names` are the names of characters. -/
def classOf (names : CharNames) : Value → Except Fault CharClass
  | .text pattern =>
    ((CharClass.read names pattern.toList).map CharClass.compact).mapError (classFault pattern)
  | value => .error (.classNotText value)

/-- The fault of a minimum that is not a natural number. -/
def minimumFault (value : Value) : Fault :=
  .reporting .construction (Diagnostic.invalidMinimum recursionLimit value)

/-- The minimum of a repetition, which is a natural number and not a truth value. -/
def minimumOf : Value → Except Fault Nat
  | .int n => if 0 ≤ n then .ok n.toNat else .error (minimumFault (.int n))
  | value => .error (minimumFault value)

mutual

/-- Builds the parser of a blueprint. -/
def build : Blueprint → Work Rule
  | inert value => Work.fresh (.inert value)
  | literal text format => do
    Work.fresh (.literal (← ofExcept (literalText text)) (← Work.formatter format))
  | charClass pattern format => do
    let cls ← ofExcept (classOf (← get).charNames pattern)
    Work.fresh (.charClass cls (← Work.formatter format))
  | sequence children format => do
    Work.fresh (.sequence (← buildAll children) (← Work.formatter format))
  | alternation children format => do
    Work.fresh (.alternation (← buildAll children) (← Work.formatter format))
  | optional child format => do
    Work.fresh (.optional (← build child).parser (← Work.formatter format))
  | repetition child minimum format => do
    let child ← build child
    let minimum ← ofExcept (minimumOf minimum)
    Work.fresh (.repetition child.parser minimum (← Work.formatter format))
  | ref registry name => do
    let id ← Work.registryId registry
    let _ ← Work.perform registry (.refer name)
    Work.fresh (.reference id name)
  | lookup registry name => do
    Work.fresh (.reference (← Work.registryId registry) name)
  | rule registry key => do
    ofExcept ((← Work.registry registry).get key)
  | stored name => Work.variableRule name
  | leaf l => Work.fresh (.leaf l)
  | probe label inner => do
    Work.fresh (.probe label (← build inner).parser)

/-- Builds the parsers of several blueprints, in order. -/
def buildAll : List Blueprint → Work (List Parser)
  | [] => return []
  | child :: children => do
    let child ← build child
    return child.parser :: (← buildAll children)

end

/-- Builds rules and puts them under their keys, after those of `entries`; a repeated key keeps its
first place and its last rule. -/
def buildPairs (entries : List (Value × Rule)) :
    List (Value × Blueprint) → Work (List (Value × Rule))
  | [] => return entries
  | (key, blueprint) :: pairs => do
    let rule ← blueprint.build
    ofExcept (Table.checkKey key)
    buildPairs (Entries.insert entries key rule) pairs

end Blueprint

end GrammarKit
