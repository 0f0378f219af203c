import GrammarKit.Workspace.Session

/-!
# Requests

A request builds some rules and a parser in a new workspace and applies the parser once.

* `Request` — the rules of a grammar and of a table, the parser and the source;
* `Stage` — what was going on when a request failed;
* `Request.answer` — the answer to a request, with its events.
-/

namespace GrammarKit

/-- A parser to be built and applied, with the rules that it needs. -/
structure Request where
  /-- The name of the grammar, and the rules bound in it one by one. -/
  grammarName : String
  rules : List (Value × Blueprint) := []
  /-- The name of the table, and what is stored in it. -/
  tableName : String
  stored : List (Value × Blueprint) := []
  /-- The bound on the length of the source, if it is not the usual engine that is asked. -/
  max : Option Value := none
  /-- The names of characters. -/
  charNames : CharNames
  parser : Blueprint
  trial : Trial := .whole
  source : Value

/-- The part of a request that failed. -/
inductive Stage where
  | build
  | apply
deriving DecidableEq, Repr

namespace Request

/-- Builds rules and binds each of them at once. -/
def bindAll (registry : String) : List (Value × Blueprint) → Work Unit
  | [] => return ()
  | (key, blueprint) :: pairs => do
    let rule ← blueprint.build
    let _ ← Work.perform registry (.bind key rule)
    bindAll registry pairs

/-- Builds everything that the request names. -/
def prepare (request : Request) : Work Parser := do
  bindAll request.grammarName request.rules
  bindAll request.tableName request.stored
  if let some max := request.max then
    modify fun w => { w with engine := Engine.ofMax max }
  return (← request.parser.build).parser

/-- The answer to a request and the events on the way. -/
def answer (request : Request) : Except (Stage × Fault) Reply × List Event :=
  let start := Workspace.initial request.charNames request.grammarName request.tableName
  match request.prepare.run.run start with
  | (.error f, w) => (.error (.build, f), w.journal.toList)
  | (.ok parser, w) =>
    match (Work.tryParser request.trial parser request.source).run.run w with
    | (.error f, w) => (.error (.apply, f), w.journal.toList)
    | (.ok reply, w) => (.ok reply, w.journal.toList)

end Request

end GrammarKit
