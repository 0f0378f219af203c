import GrammarKit.Parser.Items
import GrammarKit.Workspace.Blueprint

/-!
# Sessions

A session is a list of steps in a workspace. A step that fails leaves what it did before, and the
session goes on.

* `Trial` — one of the three ways to apply a parser to a source;
* `Command` — what a step does;
* `Reply` — what it answers;
* `Command.execute` — a command in a workspace;
* `Workspace.step` — a step with its report.
-/

namespace GrammarKit

/-- A way to apply a parser to a source. -/
inductive Trial where
  /-- Match the whole source. -/
  | whole
  /-- Match some beginning of it. -/
  | beginning
  /-- Match from a position, without an engine. -/
  | fromPos (pos : Int)
deriving DecidableEq, Repr

/-- The rules that a reply is about: the variables that hold it, or nothing for a null value. -/
abbrev Holders := Option (List String)

/-- What a step answers. -/
inductive Reply where
  | nothing
  | truth (b : Bool)
  | count (n : Nat)
  | text (s : String)
  | value (v : Value)
  | rule (holders : Holders)
  | entry (key : Value) (holders : Holders)
  /-- The result of a match of the whole source. -/
  | result (v : Value)
  /-- A match, with its value and the position after it. -/
  | matched (v : Value) (pos : Nat)
  | mismatch

/-- What a step does, most of it to one registry. -/
inductive Command where
  | newGrammar (label : String) (rules : List (Value × Blueprint))
  | newTable (rules : List (Value × Blueprint))
  | assign (target : String) (parser : Blueprint)
  | bind (key : Value) (parser : Blueprint)
  /-- Binds a rule and says whether the binder gave it back. -/
  | bindRule (key : Value) (parser : Blueprint)
  | erase (key : Value)
  | index (key : Value)
  | get (key : Value)
  | has (key : Value)
  | length
  | truth
  | summary
  | showName
  | pop (key : Value) (default : Option Blueprint)
  | popItem
  | setDefault (key : Value) (parser : Option Blueprint)
  | update (rules : List (Value × Blueprint))
  | clear
  | compare (other : String)
  | engine (max : Value)
  | attempt (trial : Trial) (parser : Blueprint) (source : Value)

namespace Work

/-- What is said of a rule: nothing of a null value, else which variables hold it. -/
def holders (rule : Rule) : Work Holders := do
  match rule.parser with
  | .inert .null => return none
  | _ => return some ((← get).holders rule)

/-- The reply for what an operation gives. -/
def replyOf : Yield → Work Reply
  | .nothing => return .nothing
  | .rule rule => return .rule (← holders rule)
  | .entry key rule => return .entry key (← holders rule)

/-- A value as it is now, without shared parts. -/
def snapshot (value : Value) : Work Value := do
  ofExcept ((← get).store.snapshot value)

/-- Takes note of what happened in a run. -/
def finish (events : List Event) (store : Store) : Work Unit := do
  modify fun w => { w with store := store }
  record events

/-- The reply for a run. -/
def replyOfRun (run : Run Value) : Work Reply := do
  let report := run (← get).store
  finish report.events report.store
  match report.outcome with
  | .matched value rest => return .matched (← snapshot value) rest.pos
  | .mismatch => return .mismatch
  | .fault f => throw f

/-- The reply for what is said of a whole source. -/
def replyOfVerdict (judge : Store → Verdict) : Work Reply := do
  let verdict := judge (← get).store
  finish verdict.events verdict.store
  return .result (← snapshot (← ofExcept verdict.result))

/-- A source whose items are shared by everything that is found in it. -/
def sharedSource : Value → Work Value
  | .list items => return .list (← withStore (Store.shareAll items))
  | .tuple items => withStore (Store.share (.tuple items))
  | source => return source

/-- Applies a parser to a source, its references being looked up in a scope. -/
def tryIn (scope : Scope) (trial : Trial) (parser : Parser) (source : Value) : Work Reply := do
  let engine := (← get).engine
  match trial with
  | .whole =>
    replyOfVerdict (engine.matchAll recursionLimit (parser.run scope recursionLimit) source)
  | .beginning =>
    replyOfRun (engine.matchPrefix recursionLimit (parser.run scope recursionLimit) source)
  | .fromPos pos =>
    replyOfRun (parser.applyAt scope recursionLimit (← sharedSource source) pos)

/-- Applies a parser to a source. -/
def tryParser (trial : Trial) (parser : Parser) (source : Value) : Work Reply := do
  tryIn (← get).scope trial parser source

/-- Builds an optional blueprint. -/
def buildOption : Option Blueprint → Work (Option Rule)
  | some blueprint => return some (← blueprint.build)
  | none => return none

end Work

namespace Command

open Work

/-- Executes a command on the registry with the given name. -/
def execute (name : String) : Command → Work Reply
  | newGrammar label rules => do
    let change := ({ name := label } : Grammar).update (← Blueprint.buildPairs [] rules)
    settle change
    modify fun w => w.addRegistry name (.grammar change.state)
    return .nothing
  | newTable rules => do
    let rules ← Blueprint.buildPairs [] rules
    modify fun w => w.addRegistry name (.table rules)
    return .nothing
  | assign target parser => do
    let rule ← parser.build
    modify fun w => { w with locals := Entries.insert w.locals target rule }
    return .nothing
  | bind key parser => do
    replyOf (← perform name (.bind key (← parser.build)))
  | bindRule key parser => do
    let rule ← parser.build
    match ← registry name with
    | .grammar _ => let _ ← perform name (.bind key rule)
    | .table _ => throw (Table.missing "rule")
    return .truth true
  | erase key => do
    replyOf (← perform name (.erase key))
  | index key => do
    return .rule (← holders (← ofExcept ((← registry name).get key)))
  | get key => do
    match ← ofExcept ((← registry name).get? key) with
    | some rule => return .rule (← holders rule)
    | none => return .nothing
  | has key => do
    return .truth (← ofExcept ((← registry name).get? key)).isSome
  | length => do
    return .count (← registry name).entries.length
  | truth => do
    return .truth !(← registry name).entries.isEmpty
  | summary => do
    return .text (← registry name).summary
  | showName => do
    match ← registry name with
    | .grammar g => return .text g.name
    | .table _ => throw (Table.missing "name")
  | pop key default => do
    replyOf (← perform name (.pop key (← buildOption default)))
  | popItem => do
    replyOf (← perform name .popItem)
  | setDefault key parser => do
    let rule ← buildOption parser
    let rule ← rule.getDM (fresh (.inert .null))
    replyOf (← perform name (.setDefault key rule))
  | update rules => do
    replyOf (← perform name (.update (← Blueprint.buildPairs [] rules)))
  | clear => do
    replyOf (← perform name .clear)
  | compare other => do
    let id ← registryId name
    let otherId ← registryId other
    return .truth (id == otherId || (← registry name).sameBindings (← registry other))
  | engine max => do
    let engine := Engine.ofMax max
    modify fun w => { w with engine := engine }
    return .value engine.maxSourceSize
  | attempt trial parser source => do
    tryParser trial (← parser.build).parser source

end Command

/-- What is known after a step. -/
structure StepReport where
  result : Except Fault Reply
  events : List Event
  /-- The keys of the registry concerned, if there is one. -/
  keys : Option (List Value)
  /-- The names that it misses, if it is a grammar. -/
  unbound : Option (List String)

/-- Executes a command on a registry and reports on it. -/
def Workspace.step (w : Workspace) (name : String) (command : Command) : StepReport × Workspace :=
  let (result, w) := (command.execute name).run.run { w with journal := #[] }
  let registry := w.registryNamed? name
  ({ result, events := w.journal.toList,
     keys := registry.map (·.keys), unbound := registry.bind (·.unbound?) }, w)

/-- Executes commands one after the other, each on its registry. -/
def Workspace.steps (w : Workspace) : List (String × Command) → List StepReport
  | [] => []
  | (name, command) :: commands =>
    let (report, w) := w.step name command
    report :: w.steps commands

end GrammarKit
