import GrammarKit.Proofs.Comparison
import GrammarKit.Proofs.Lookup
import GrammarKit.Proofs.WholeSource

/-!
# Recursion limits

A recursion limit bounds the effort, not the answer. An application that comes to an end under one
limit comes to the same end under all greater ones: no combinator takes an exhausted limit for a
mismatch, so nothing else is tried in its place.

* `Comparison.unlessExhausted` — equal reports, unless the first run exhausts its limit;
* `Matcher.Extends` — a matcher does what another does, wherever that one does not exhaust a limit;
* `run_extends` — under a greater limit, a parser extends itself;
* `Engine.guarded_eq_of_extends` — so does an engine that reports an exhausted limit;
* `run_limit_raised` — applications and both ways of matching sources.
-/

namespace GrammarKit

/-- The comparison that asks for equal reports, unless the first run exhausts its recursion limit.
-/
def Comparison.unlessExhausted : Comparison :=
  same (fun _ => True) (fun _ _ h => h) (· = .recursionLimit)

/-- Wherever `matcher` does not exhaust a recursion limit, the other does the same. -/
def Matcher.Extends (matcher other : Matcher) : Prop :=
  ∀ c s, (matcher c s).outcome ≠ .fault .recursionLimit → other c s = matcher c s

variable {limit limit' : Nat}

/-- The induction is on the smaller limit. When it is exhausted, nothing is asked of the other. -/
theorem run_matchers_of_le (scope : Scope) (p : Parser) (hle : limit ≤ limit') :
    Comparison.unlessExhausted.Matchers (p.run scope limit) (p.run scope limit') := by
  induction limit generalizing limit' p with
  | zero => exact fun _ _ _ _ => Or.inl ⟨.recursionLimit, rfl, rfl⟩
  | succ limit ih =>
    obtain ⟨limit', rfl⟩ : ∃ n, limit' = n + 1 := ⟨limit' - 1, by omega⟩
    have hbelow : ∀ q : Parser, Comparison.unlessExhausted.Matchers (q.run scope limit)
        (q.run scope limit') := fun q => ih q (Nat.le_of_succ_le_succ hle)
    rw [Parser.run_succ, Parser.run_succ]
    exact Comparison.same_matchers_layer (Or.inr ⟨Nat.le_of_succ_le_succ hle, rfl⟩)
      (fun _ _ _ _ _ _ _ _ => trivial) (fun q _ => hbelow q)
      fun _ _ _ => Comparison.matchers_found fun target _ => hbelow target

/-- To extend a matcher is to agree with it by this comparison. -/
theorem Comparison.unlessExhausted_matchers_iff {matcher other : Matcher} :
    unlessExhausted.Matchers matcher other ↔ matcher.Extends other := by
  constructor
  · intro h c s hlimit
    rcases same_reports_iff.1 (h c c ⟨rfl, trivial⟩ s) with ⟨f, hf, rfl⟩ | ⟨heq, -⟩
    · exact absurd hf hlimit
    · exact heq.symm
  · rintro h c _ ⟨rfl, -⟩ s
    by_cases hlimit : (matcher c s).outcome = .fault .recursionLimit
    · exact Or.inl ⟨.recursionLimit, hlimit, rfl⟩
    · exact same_reports_iff.2 (Or.inr ⟨(h c s hlimit).symm, fun _ _ _ => trivial⟩)

theorem run_extends (scope : Scope) (p : Parser) (hle : limit ≤ limit') :
    Matcher.Extends (p.run scope limit) (p.run scope limit') :=
  Comparison.unlessExhausted_matchers_iff.1 (run_matchers_of_le scope p hle)

namespace Engine

theorem guarded_of_exhausted {matcher : Matcher} {start : Cursor} {s : Store}
    (h : (matcher start s).outcome = .fault .recursionLimit) :
    (guarded limit matcher start s).outcome = .fault (depthFault limit start) := by
  simp only [guarded, h]

theorem guarded_of_finished {matcher : Matcher} {start : Cursor} {s : Store}
    (h : (matcher start s).outcome ≠ .fault .recursionLimit) :
    guarded limit matcher start s = matcher start s := by
  -- By `h`, the report is none of those that are changed.
  simp only [guarded]

/-- An engine that has no exhausted limit to report does what its matcher does. -/
theorem matchPrefix_of_finished {engine : Engine} {matcher : Matcher} {text : String} {s : Store}
    (hsize : engine.checkSize text.length = .ok ())
    (h : (matcher (.start text) s).outcome ≠ .fault .recursionLimit) :
    engine.matchPrefix limit matcher (.text text) s = matcher (.start text) s := by
  unfold matchPrefix
  simp only [hsize]
  exact guarded_of_finished h

/-- An engine does the same with a matcher that extends another, unless it has an exhausted limit to
report. -/
theorem guarded_eq_of_extends {matcher other : Matcher} (h : matcher.Extends other)
    {start : Cursor} {s : Store}
    (hlimit : ∀ notice, (guarded limit matcher start s).outcome ≠ .fault (.misuse .depth notice)) :
    guarded limit' other start s = guarded limit matcher start s := by
  have hfinished : (matcher start s).outcome ≠ .fault .recursionLimit :=
    fun hexhausted => hlimit _ (guarded_of_exhausted hexhausted)
  have hsame := h start s hfinished
  rw [guarded_of_finished hfinished, guarded_of_finished (hsame ▸ hfinished), hsame]

theorem matchPrefix_eq_of_extends {matcher other : Matcher} (h : matcher.Extends other)
    (engine : Engine) {source : Value} {s : Store}
    (hlimit : ∀ notice, (engine.matchPrefix limit matcher source s).outcome ≠
      .fault (.misuse .depth notice)) :
    engine.matchPrefix limit' other source s = engine.matchPrefix limit matcher source s := by
  cases source with
  | text text =>
    unfold matchPrefix at hlimit ⊢
    cases hsize : engine.checkSize text.length with
    | error f => simp only [hsize]
    | ok _ =>
      simp only [hsize] at hlimit ⊢
      exact guarded_eq_of_extends h hlimit
  | _ => rfl

/-- What an engine reports of a beginning, it reports of the whole source. -/
theorem wholeResult_of_fault {total : Nat} {report : Report Value} {f : Fault}
    (h : report.outcome = .fault f) : (wholeResult total report).result = .error f :=
  result_wholeResult_eq_error_iff.2 h

end Engine

/-- **A greater recursion limit never changes an answer.** If an application does not exhaust the
recursion limit, it gives the same report under every greater limit: the same events, outcome and
shared lists. So does an engine that does not report an exhausted limit, be it asked for a match of
some beginning or of the whole source. -/
theorem run_limit_raised (scope : Scope) (p : Parser) (hle : limit ≤ limit') :
    (∀ c s, (p.run scope limit c s).outcome ≠ .fault .recursionLimit →
      p.run scope limit' c s = p.run scope limit c s) ∧
    ∀ (engine : Engine) (source : Value) (s : Store),
      ((∀ notice, (engine.matchPrefix limit (p.run scope limit) source s).outcome ≠
          .fault (.misuse .depth notice)) →
        engine.matchPrefix limit' (p.run scope limit') source s =
          engine.matchPrefix limit (p.run scope limit) source s) ∧
      ((∀ notice, (engine.matchAll limit (p.run scope limit) source s).result ≠
          .error (.misuse .depth notice)) →
        engine.matchAll limit' (p.run scope limit') source s =
          engine.matchAll limit (p.run scope limit) source s) := by
  have hextends := run_extends scope p hle
  refine ⟨hextends, fun engine source s => ⟨engine.matchPrefix_eq_of_extends hextends, ?_⟩⟩
  intro hlimit
  unfold Engine.matchAll at hlimit ⊢
  rw [engine.matchPrefix_eq_of_extends hextends fun notice hnotice =>
    hlimit notice (Engine.wholeResult_of_fault hnotice)]

/-- Lists of lists, with commas that may be left out. -/
def nestedList : Parser :=
  .sequence
    [.literal "[" .identity,
      .repetition
        (.alternation [.reference 0 (.text "list"), .optional (.literal "," .identity) .unwrap]
          .identity) 0 .identity,
      .literal "]" .identity] .matchedText

/-- The workspace with this as its only rule. -/
def listWorkspace : Workspace := .ofRule "list" nestedList

theorem run_limit_raised_lists :
    let matcher := nestedList.run listWorkspace.scope
    ((matcher 20 (.start "[[],]") {}).outcome ≠ .fault .recursionLimit ∧
      matcher 1000 (.start "[[],]") {} = matcher 20 (.start "[[],]") {}) ∧
    ((∀ notice, (({} : Engine).matchPrefix 20 (matcher 20) (.text "[[],]") {}).outcome ≠
        .fault (.misuse .depth notice)) ∧
      ({} : Engine).matchPrefix 1000 (matcher 1000) (.text "[[],]") {} =
        ({} : Engine).matchPrefix 20 (matcher 20) (.text "[[],]") {}) ∧
    ((∀ notice, (({} : Engine).matchAll 20 (matcher 20) (.text "[[],]") {}).result ≠
        .error (.misuse .depth notice)) ∧
      ({} : Engine).matchAll 1000 (matcher 1000) (.text "[[],]") {} =
        ({} : Engine).matchAll 20 (matcher 20) (.text "[[],]") {}) := by
  intro matcher
  have hsize : ({} : Engine).checkSize "[[],]".length = .ok () := by
    rw [Engine.checkSize_default]
    rfl
  obtain ⟨v, rest, hrun⟩ :
      ∃ v rest, (matcher 20 (.start "[[],]") {}).outcome = .matched v rest := by
    unfold matcher
    exact ⟨_, _, rfl⟩
  have hfinished : (matcher 20 (.start "[[],]") {}).outcome ≠ .fault .recursionLimit := by
    rw [hrun]
    nofun
  have hstart : ∀ notice, (({} : Engine).matchPrefix 20 (matcher 20) (.text "[[],]") {}).outcome ≠
      .fault (.misuse .depth notice) := by
    rw [Engine.matchPrefix_of_finished hsize hfinished, hrun]
    nofun
  have hwhole : ∀ notice, (({} : Engine).matchAll 20 (matcher 20) (.text "[[],]") {}).result ≠
      .error (.misuse .depth notice) := by
    rw [Engine.matchAll_of_matched hsize ⟨hrun, rfl⟩]
    nofun
  obtain ⟨happly, hengine⟩ :=
    run_limit_raised listWorkspace.scope nestedList (show 20 ≤ 1000 by decide)
  obtain ⟨hstartEq, hwholeEq⟩ := hengine {} (.text "[[],]") {}
  exact ⟨⟨hfinished, happly _ _ hfinished⟩, ⟨hstart, hstartEq hstart⟩, hwhole, hwholeEq hwhole⟩

end GrammarKit
