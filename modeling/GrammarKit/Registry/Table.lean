import GrammarKit.Registry.Operation

/-!
# Tables

A table is a plain registry: any value that can be a key is one, and what is bound is not checked.
An entry may hold a null value as a placeholder.

* `Table` — the entries in order;
* `Table.apply` — the operations.
-/

namespace GrammarKit

/-- A registry without checks. -/
abbrev Table := List (Value × Rule)

namespace Table

/-- Refuses a value that cannot be a key. -/
def checkKey (key : Value) : Except Fault Unit :=
  match key.keyObstacle? with
  | some typeName => .error (.notKey typeName)
  | none => .ok ()

/-- The rule under a key. -/
def get? (t : Table) (key : Value) : Except Fault (Option Rule) := do
  checkKey key
  return Entries.get? t key

/-- Sets the rule under a key. -/
def bind (t : Table) (key : Value) (rule : Rule) : Change Table Unit :=
  match checkKey key with
  | .ok () => .done (Entries.insert t key rule) ()
  | .error f => .refused t f

/-- The rule to be taken away from under a key. In an empty table no key is looked for, so any value
is as good as a key. -/
def find? (t : Table) (key : Value) : Except Fault (Option Rule) :=
  if t.isEmpty then .ok none else t.get? key

/-- Takes the rule under a key away and gives it; a default stands in for one that is not there. -/
def pop (t : Table) (key : Value) (default : Option Rule) : Change Table Rule :=
  match t.find? key, default with
  | .error f, _ => .refused t f
  | .ok (some rule), _ => .done (Entries.erase t key) rule
  | .ok none, some rule => .done t rule
  | .ok none, none => .refused t (.missingKey key)

/-- Takes the rule under a key away. -/
def erase (t : Table) (key : Value) : Change Table Unit :=
  match t.get? key with
  | .error f => .refused t f
  | .ok (some _) => .done (Entries.erase t key) ()
  | .ok none => .refused t (.missingKey key)

/-- Takes the last entry away and gives it. -/
def popLast (t : Table) : Change Table (Value × Rule) :=
  match t.getLast? with
  | some entry => .done t.dropLast entry
  | none => .refused t (.missingKey (.text "popitem(): dictionary is empty"))

/-- The rule under a key, which is set first if there is none. -/
def setDefault (t : Table) (key : Value) (rule : Rule) : Change Table Rule :=
  match t.get? key with
  | .error f => .refused t f
  | .ok (some found) => .done t found
  | .ok none => .done (Entries.insert t key rule) rule

/-- Sets several rules in order. -/
def update (t : Table) (pairs : List (Value × Rule)) : Table :=
  pairs.foldl (fun t pair => Entries.insert t pair.1 pair.2) t

/-- The fault of asking a table for something that only grammars have. -/
def missing (name : String) : Fault :=
  .noAttribute (Value.mapping []).typeName name

/-- Performs an operation. Only grammars can be referred to. -/
def apply (t : Table) : Operation → Change Table Yield
  | .bind key rule => (t.bind key rule).map fun _ => .nothing
  | .erase key => (t.erase key).map fun _ => .nothing
  | .pop key default => (t.pop key default).map .rule
  | .popItem => t.popLast.map fun entry => .entry entry.1 entry.2
  | .setDefault key rule => (t.setDefault key rule).map .rule
  | .update pairs => .done (t.update pairs) .nothing
  | .clear => .done [] .nothing
  | .refer _ => .refused t (missing "ref")

end Table

end GrammarKit
