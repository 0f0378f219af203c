import GrammarKit.Matcher.Basic
import GrammarKit.Text.Grouped

/-!
# Matching whole sources

An engine applies a matcher to a source from its start. It refuses sources that are too long and
reports an exhausted recursion limit as a misuse of its own.

* `Engine` — the bound on the length of sources;
* `Verdict` — what is said of a whole source;
* `Engine.matchPrefix` — a match of some beginning of the source;
* `Engine.matchAll` — a match of the whole source, or the marker for none;
* `Matcher.accepts` — whether there is a match at the start, without the engine's checks.
-/

namespace GrammarKit

/-- The greatest length of a source, unless another one is chosen: ten times `2 ^ 20`. -/
def defaultMaxSourceSize : Nat := 10 * 1024 * 1024

/-- What is said of a whole source: the events on the way, the value or a fault, and the shared
lists afterwards. -/
structure Verdict where
  events : List Event
  result : Except Fault Value
  store : Store

/-- What applies matchers to sources. -/
structure Engine where
  /-- The greatest length of a source; there is none if it is zero or negative. -/
  maxSourceSize : Value := .int defaultMaxSourceSize

namespace Engine

/-- The engine with a given bound, or with the default one for null. -/
def ofMax (max : Value) : Engine :=
  match max with
  | .null => {}
  | max => ⟨max⟩

/-- A bound as the message about a long source gives it. -/
def limitText : Value → String
  | .decimal text =>
    let whole := text.toList.takeWhile Char.isDigit
    String.ofList (Text.groupDigits whole ++ text.toList.drop whole.length)
  | value => Text.grouped (value.integer?.getD 0).toNat

/-- Refuses a source that is longer than the bound. -/
def checkSize (engine : Engine) (length : Nat) : Except Fault Unit :=
  match engine.maxSourceSize.number? with
  | none => .error (.notComparable engine.maxSourceSize)
  | some max =>
    if max.gt (.ofInt 0) && (Number.ofInt length).gt max then
      .error (.sourceTooLong length (limitText engine.maxSourceSize))
    else .ok ()

/-- The fault that reports an exhausted recursion limit. -/
def depthFault (limit : Nat) (start : Cursor) : Fault :=
  .misuse .depth (.diagnosed (.recursionLimitExceeded (.int limit) (some start.span)))

/-- The run of a matcher from the start of a source. An exhausted recursion limit is logged and
reported as a misuse. -/
def guarded (limit : Nat) (matcher : Matcher) (start : Cursor) : Run Value := fun store =>
  let report := matcher start store
  match report.outcome with
  | .fault .recursionLimit =>
    ⟨report.events ++ [.log (.recursionLimit limit start.source.size)],
      .fault (depthFault limit start), report.store⟩
  | _ => report

/-- A match of some beginning of the source. The recursion limit is that of the matcher. -/
def matchPrefix (engine : Engine) (limit : Nat) (matcher : Matcher) (source : Value) : Run Value :=
  match source with
  | .text text =>
    match engine.checkSize text.length with
    | .ok () => guarded limit matcher (.start text)
    | .error f => .fault f
  | source => .fault (.sourceNotText source)

/-- What a match of some beginning says about the whole source, which has `total` characters. -/
def wholeResult (total : Nat) (report : Report Value) : Verdict :=
  match report.outcome with
  | .matched value rest =>
    if rest.atEnd then ⟨report.events, .ok value, report.store⟩
    else ⟨report.events ++ [.log (.partialMatch rest.pos total)], .ok .noMatch, report.store⟩
  | .mismatch => ⟨report.events, .ok .noMatch, report.store⟩
  | .fault f => ⟨report.events, .error f, report.store⟩

/-- The value of a match of the whole source; without one, the marker for no match. -/
def matchAll (engine : Engine) (limit : Nat) (matcher : Matcher) (source : Value)
    (store : Store) : Verdict :=
  wholeResult (source.length?.getD 0) (engine.matchPrefix limit matcher source store)

end Engine

/-- Whether a matcher matches at the start of a text. -/
def Matcher.accepts (matcher : Matcher) (text : String) : Bool :=
  match (matcher (.start text) {}).outcome with
  | .matched .. => true
  | _ => false

end GrammarKit
