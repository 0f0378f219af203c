import GrammarKit.CharClass.Scan
import GrammarKit.Engine
import GrammarKit.Formatter.Recipe
import GrammarKit.Registry.Basic

/-!
# Workspaces

A workspace is where grammars are written and tried out: registries and variables with names, an
engine, the names of characters, and a journal of the events of the current step. A registry that is
replaced lives on for the references that were made to it.

* `Workspace` — the state;
* `Work` — a computation in a workspace; what it did before a fault stays done;
* `Workspace.scope` — what the registries bind;
* `Work.perform` — an operation on a registry, with its records in the journal;
* `Work.fresh` — a parser with a new identity.
-/

namespace GrammarKit

/-- Registries, variables, an engine and a journal. -/
structure Workspace where
  /-- All registries ever made, by their handles. -/
  registries : Array Registry
  /-- The handles of the registries that have a name. -/
  names : List (String × RegistryId)
  /-- The rules that have a name of their own, outside any registry. -/
  locals : List (String × Rule) := []
  engine : Engine := {}
  /-- The names of characters. -/
  charNames : CharNames := fun _ => none
  /-- The identity of the next rule. -/
  nextRule : Nat := 0
  /-- The shared lists. -/
  store : Store := {}
  /-- The events of the current step. -/
  journal : Array Event := #[]

/-- A computation in a workspace. -/
abbrev Work := ExceptT Fault (StateM Workspace)

namespace Workspace

/-- The workspace with an empty grammar and an empty table. -/
def initial (charNames : CharNames) (grammarName tableName : String) : Workspace where
  registries := #[.grammar {}, .table []]
  names := [(grammarName, 0), (tableName, 1)]
  charNames

/-- The registry with a name. -/
def registryNamed? (w : Workspace) (name : String) : Option Registry := do
  w.registries[← Entries.get? w.names name]?

/-- The parser that each registry binds to each name. -/
def scope (w : Workspace) : Scope := fun id name => do
  (← w.registries[id]?).binding? name

/-- The names of the variables that hold a rule, in order. -/
def holders (w : Workspace) (rule : Rule) : List String :=
  ((w.locals.filter fun entry => entry.2.coincides rule).map (·.1)).mergeSort
    fun a b => decide (a ≤ b)

/-- The workspace with a new registry under a name. -/
def addRegistry (w : Workspace) (name : String) (registry : Registry) : Workspace :=
  { w with
    registries := w.registries.push registry
    names := Entries.insert w.names name w.registries.size }

end Workspace

namespace Work

/-- Adds events to the journal. -/
def record (events : List Event) : Work Unit :=
  modify fun w => { w with journal := w.journal ++ events }

/-- Ends a change to a part of the workspace: its records go to the journal. -/
def settle {σ α : Type} (change : Change σ α) : Work α := do
  record (change.records.map .log)
  ofExcept change.result

/-- The handle of the registry with a name. -/
def registryId (name : String) : Work RegistryId := do
  match Entries.get? (← get).names name with
  | some id => return id
  | none => throw (.missingKey (.text name))

/-- The registry with a name. -/
def registry (name : String) : Work Registry := do
  match (← get).registryNamed? name with
  | some registry => return registry
  | none => throw (.missingKey (.text name))

/-- Performs an operation on the registry with a name. -/
def perform (name : String) (operation : Operation) : Work Yield := do
  let id ← registryId name
  let change := (← registry name).apply operation
  modify fun w => { w with registries := w.registries.setIfInBounds id change.state }
  settle change

/-- A parser with a new identity. -/
def fresh (parser : Parser) : Work Rule := do
  let id := (← get).nextRule
  modify fun w => { w with nextRule := id + 1 }
  return ⟨id, parser⟩

/-- Performs a computation over the shared lists. -/
def withStore {α : Type} (computation : StateM Store α) : Work α := do
  let (result, store) := computation.run (← get).store
  modify fun w => { w with store := store }
  return result

/-- The formatter of a recipe. -/
def formatter (recipe : Recipe) : Work Formatter :=
  withStore recipe.build

/-- The rule in a variable. -/
def variableRule (name : String) : Work Rule := do
  match Entries.get? (← get).locals name with
  | some rule => return rule
  | none => throw (.missingKey (.text name))

end Work

end GrammarKit
