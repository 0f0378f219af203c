import GrammarKit.Parser

/-!
# Levels of a run

A run is made of levels: what a parser applies is one level deeper, and the recursion limit is the
number of levels that there may be. Here the level of a parser is separated from the ones below it,
and from what its formatter does.

* `Parser.layer` — one level of a run, with any matchers for what is applied one level deeper;
* `Parser.run_succ` — a run is a level above the run under the next smaller limit;
* `Parser.runBy` — the run in which formatters do something else;
* `Parser.runBy_within` — it is the run itself if they do what they do;
* `Parser.handWritten?` — the levels that are given by a function.
-/

namespace GrammarKit.Parser

/-- The matcher of a parser of which the parts, and the rule that it refers to, have the matchers
that `apply` gives them. Its formatter does what `use` says, and `room` is left for other calls. -/
def layer (scope : Scope) (room : Nat) (use : Formatter → Formatting) (apply : Parser → Matcher) :
    Parser → Matcher
  | literal text format => Matcher.literal text (use format)
  | charClass cls format => Matcher.charClass cls (use format)
  | sequence children format => Matcher.sequence apply children (use format)
  | alternation children format => Matcher.alternation apply children (use format)
  | optional child format => Matcher.optional (apply child) (use format)
  | repetition child minimum format => Matcher.repetition (apply child) minimum (use format)
  | reference registry name => fun c =>
    match name.keyObstacle?, scope registry name with
    | some typeName, _ => .fault (.notKey typeName)
    | none, some target => apply target c
    | none, none => .fault (unboundFault room name c)
  | leaf l => l.matcher
  | custom matcher => matcher
  | probe label inner => Matcher.probe label (apply inner)
  | inert value => fun _ => .fault (.notApplicable value)

/-- A run is a level above the run under the next smaller limit. -/
theorem run_succ (scope : Scope) (limit : Nat) (p : Parser) :
    p.run scope (limit + 1) =
      p.layer scope limit (fun format => format.within limit) (run scope limit) := by
  cases p <;> rfl

/-- The run in which formatters do what `use` says with the room that is left to them. -/
def runBy (use : Formatter → (room : Nat) → Formatting) (scope : Scope) :
    (limit : Nat) → Parser → Matcher
  | 0, _ => fun _ => .fault .recursionLimit
  | limit + 1, p => p.layer scope limit (fun format => use format limit) (runBy use scope limit)

theorem runBy_succ (use : Formatter → (room : Nat) → Formatting) (scope : Scope) (limit : Nat)
    (p : Parser) :
    p.runBy use scope (limit + 1) =
      p.layer scope limit (fun format => use format limit) (runBy use scope limit) := rfl

/-- If formatters do what they do, it is the run itself. -/
theorem runBy_within (scope : Scope) (limit : Nat) :
    runBy Formatter.within scope limit = run scope limit := by
  induction limit with
  | zero => rfl
  | succ limit ih =>
    funext p
    rw [runBy_succ, ih, run_succ]

/-- The matcher of a parser that is written by hand. -/
def handWritten? : Parser → Option Matcher
  | leaf l => some l.matcher
  | custom matcher => some matcher
  | _ => none

end GrammarKit.Parser
