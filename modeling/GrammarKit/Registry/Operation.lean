import GrammarKit.Parser

/-!
# Operations on registries

* `Rule` — a parser with an identity;
* `Change` — what an operation does: the new state, its log records, and its result or a fault;
* `Operation` — the operations that change a registry, as data;
* `Yield` — what they give.
-/

namespace GrammarKit

/-- A parser with an identity, by which two rules made alike can be told apart. -/
structure Rule where
  id : Nat
  parser : Parser

/-- What an operation does to a state. -/
structure Change (σ α : Type) where
  state : σ
  records : List LogRecord
  result : Except Fault α

namespace Change

variable {σ α : Type}

/-- A result that logs nothing. -/
def done (state : σ) (value : α) : Change σ α := ⟨state, [], .ok value⟩

/-- A fault that changes nothing. -/
def refused (state : σ) (f : Fault) : Change σ α := ⟨state, [], .error f⟩

/-- The change with another result. -/
def map {β : Type} (f : α → β) (change : Change σ α) : Change σ β :=
  ⟨change.state, change.records, change.result.map f⟩

/-- The change of a larger state. -/
def lift {τ : Type} (f : σ → τ) (change : Change σ α) : Change τ α :=
  ⟨f change.state, change.records, change.result⟩

end Change

/-- An operation that changes a registry. -/
inductive Operation where
  /-- Sets the rule under a key. -/
  | bind (key : Value) (rule : Rule)
  /-- Takes the rule under a key away. -/
  | erase (key : Value)
  /-- Takes the rule under a key away and gives it, or a default. -/
  | pop (key : Value) (default : Option Rule)
  /-- Takes some entry away and gives it. -/
  | popItem
  /-- Gives the rule under a key, which is set first if there is none. -/
  | setDefault (key : Value) (rule : Rule)
  /-- Sets several rules in order. -/
  | update (pairs : List (Value × Rule))
  /-- Takes all rules away. -/
  | clear
  /-- Refers to a name. -/
  | refer (name : Value)

/-- What an operation gives. -/
inductive Yield where
  | nothing
  | rule (rule : Rule)
  | entry (key : Value) (rule : Rule)

end GrammarKit
