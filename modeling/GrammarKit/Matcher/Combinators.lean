import GrammarKit.CharClass.Basic
import GrammarKit.Matcher.Basic

/-!
# The six combinators

Two matchers consume input, a literal text and a character of a class; four are made of others. They
thread cursors between their children and never look at the values, which the formatter of the
combinator receives under the combinator's tag.

* `Matcher.literal`, `Matcher.charClass` — the matchers that consume input;
* `Matcher.sequence` — all children in a row, the first mismatch ends it;
* `Matcher.alternation` — the first child that matches, each tried at the same cursor;
* `Matcher.optional` — the child, or nothing;
* `Matcher.repetition` — the child as often as it matches, at least `minimum` times. A match that
  consumes nothing could go on for ever, so it is recorded once and meets every minimum.
-/

namespace GrammarKit

namespace Matcher

/-- Matches a text exactly. -/
def literal (text : IndexedText) (format : Formatting) : Matcher := fun c =>
  if c.startsWith text then
    .formatted format .literal (.text text.text) (c.forward text.size)
  else .mismatch

/-- A literal matches where its text is what is seen ahead. -/
theorem literal_ofText (text : String) (format : Formatting) (c : Cursor) :
    literal (.ofText text) format c =
      if c.peek text.length = text.toList then
        .formatted format .literal (.text text) (c.forward text.length)
      else .mismatch := by
  simp [literal, Cursor.startsWith_iff]

/-- Matches one character of a class. -/
def charClass (cls : CharClass) (format : Formatting) : Matcher := fun c =>
  match c.next? with
  | some char =>
    if cls.contains char then
      .formatted format .charClass (.text (String.singleton char)) (c.forward 1)
    else .mismatch
  | none => .mismatch

/-- The values of all children applied in a row, `apply` being how a child is applied. -/
def collect {α : Type} (apply : α → Matcher) : List α → Cursor → Run (List Value)
  | [], c => .matched [] c
  | child :: children, c =>
    (apply child c).bind fun value rest =>
      (collect apply children rest).bind fun values rest => .matched (value :: values) rest

/-- Matches all children in a row. -/
def sequence {α : Type} (apply : α → Matcher) (children : List α) (format : Formatting) : Matcher :=
  fun c => (collect apply children c).bind fun values rest =>
    .formatted format .sequence (.list values) rest

/-- The run of the first child that does not mismatch, after the events of those before it. -/
def firstMatch {α : Type} (apply : α → Matcher) : List α → Matcher
  | [], _ => .mismatch
  | child :: children, c => (apply child c).orElse (firstMatch apply children c)

/-- Matches the first child that matches. -/
def alternation {α : Type} (apply : α → Matcher) (children : List α) (format : Formatting) :
    Matcher := fun c =>
  (firstMatch apply children c).bind fun value rest => .formatted format .alternation value rest

/-- Children can be replaced by their matchers in a row of applications. -/
theorem collect_map {α β : Type} (apply : β → Matcher) (f : α → β) (children : List α) :
    collect apply (children.map f) = collect (fun child => apply (f child)) children := by
  induction children with
  | nil => rfl
  | cons child children ih =>
    funext c
    simp [collect, ih]

/-- Children can be replaced by their matchers in a choice. -/
theorem firstMatch_map {α β : Type} (apply : β → Matcher) (f : α → β) (children : List α) :
    firstMatch apply (children.map f) = firstMatch (fun child => apply (f child)) children := by
  induction children with
  | nil => rfl
  | cons child children ih =>
    funext c
    simp [firstMatch, ih]

/-- Matches the child, or nothing with an absent value. -/
def optional (child : Matcher) (format : Formatting) : Matcher := fun c =>
  ((child c).bind fun value rest => .formatted format .optional value rest).orElse
    (.formatted format .optional .absent c)

/-- The greedy run of a child, `values` and `events` being those of the applications so far. It ends
when the child mismatches, fails, or matches without consuming anything. `fuel` bounds the number of
applications. -/
def greedy (child : Matcher) (minimum : Nat) :
    (fuel : Nat) → Cursor → Array Value → Array Event → Store → Report (List Value)
  | 0, _, _, events, store => ⟨events.toList, .fault .endless, store⟩
  | fuel + 1, c, values, events, store =>
    let report := child c store
    let events := events ++ report.events
    match report.outcome with
    | .mismatch =>
      ⟨events.toList, if values.size < minimum then .mismatch else .matched values.toList c,
        report.store⟩
    | .fault f => ⟨events.toList, .fault f, report.store⟩
    | .matched value rest =>
      let values := values.push value
      if rest.pos = c.pos then
        ⟨(events.push (.log (.zeroWidth c.pos values.size))).toList, .matched values.toList c,
          report.store⟩
      else greedy child minimum fuel rest values events report.store

/-- Matches the child as often as possible. A run that makes more applications than the source has
positions is at some position for the second time, and would go round from there. -/
def repetition (child : Matcher) (minimum : Nat) (format : Formatting) : Matcher := fun c =>
  Run.bind (greedy child minimum (c.source.size + 1) c #[] #[]) fun values rest =>
    .formatted format .repetition (.list values) rest

/-- Applies a matcher and marks where it starts and where it ends. -/
def probe (label : String) (inner : Matcher) : Matcher := fun c store =>
  let report := inner c store
  let events := .mark (.enter label c.pos) :: report.events
  match report.outcome with
  | .matched value rest =>
    ⟨events ++ [.mark (.leave label (some rest.pos))], .matched value rest, report.store⟩
  | .mismatch => ⟨events ++ [.mark (.leave label none)], .mismatch, report.store⟩
  | .fault f => ⟨events, .fault f, report.store⟩

/-! ### Hand-written matchers -/

/-- Matches any one character. -/
def anyChar : Matcher := fun c =>
  match c.next? with
  | some char => .matched (.text (String.singleton char)) (c.forward 1)
  | none => .mismatch

/-- Never matches. -/
def never : Matcher := fun _ => .mismatch

/-- Matches everything that is left. -/
def rest : Matcher := fun c =>
  .matched (.text c.restText) (c.forward c.remaining)

/-- Matches nothing; the value is the position. -/
def position : Matcher := fun c =>
  .matched (.int c.pos) c

/-- Moves the cursor by a number of characters, ahead or back. -/
def skip (count : Int) : Matcher := fun c =>
  match c.advance count with
  | .ok rest => .matched (.int count) rest
  | .error f => .fault f

/-- Fails whatever the input is. -/
def broken : Matcher := fun _ => .fault .parserFailed

end Matcher

/-- The hand-written parsers. -/
inductive Leaf where
  | anyChar
  | never
  | rest
  | position
  | skip (count : Int)
  | broken
deriving DecidableEq, Repr

/-- What a hand-written parser matches in a text. -/
def Leaf.matcher : Leaf → Matcher
  | anyChar => Matcher.anyChar
  | never => Matcher.never
  | rest => Matcher.rest
  | position => Matcher.position
  | skip count => Matcher.skip count
  | broken => Matcher.broken

end GrammarKit
