import GrammarKit.Formatter.Recipe
import GrammarKit.Proofs.Limits

/-!
# Three ways to match

A matcher can be applied at the start of a source, or an engine can be asked for a match of some
beginning or of the whole source. An engine does not look into the matcher: it refuses a source
before it applies the matcher, or it applies it once and only adds to what this application reports.

* `Report.Relayed` — the report of an application as an engine hands it on;
* `Report.Relayed.eq_or_exhausted`, `Report.Relayed.outcome_ne` — one fault may take the place of
  another, and a bare exhausted limit is not handed on;
* `Report.Judged`, `Report.Relayed.judged` — what is said of the whole source after that;
* `Engine.matchPrefix_relayed` — an engine hands on what the matcher reports;
* `matching_agrees` — all three ways;
* `matching_disagrees` — where they do not: another text, and another application.
-/

namespace GrammarKit

namespace Report

/-- An engine hands on the report of an application as it is. Only an exhausted recursion limit is
reported in another way: by one more record, a warning, and by a misuse at the start of the
source. -/
structure Relayed (report relayed : Report Value) : Prop where
  of_finished : report.outcome ≠ .fault .recursionLimit → relayed = report
  of_exhausted : report.outcome = .fault .recursionLimit → ∃ record diagnostic,
    relayed = ⟨report.events ++ [.log record], .fault (.misuse .depth (.diagnosed diagnostic)),
      report.store⟩ ∧
    record.level = .warning ∧ diagnostic.code = .recursionLimitExceeded ∧
    diagnostic.span = some ⟨0, 0, 1, 1, by decide, by decide, by decide⟩

/-- What is said of a source of `total` characters, after the report of an application and the one
that was handed on. -/
structure Judged (total : Nat) (report relayed : Report Value) (verdict : Verdict) : Prop where
  /-- The faults are those that were handed on. -/
  error_iff : ∀ f, verdict.result = .error f ↔ relayed.outcome = .fault f
  /-- The result is the value of a match up to the end, or the marker for no match if there is
  neither such a match nor a fault. -/
  ok_iff : ∀ v, verdict.result = .ok v ↔
    report.Completes v ∨
      v = .noMatch ∧ (¬∃ f, report.outcome = .fault f) ∧ ¬∃ w, report.Completes w
  /-- A match that ends too early is logged once. -/
  events_of_early : ∀ v rest, report.outcome = .matched v rest → rest.atEnd = false →
    ∃ record : LogRecord, verdict.events = relayed.events ++ [.log record] ∧
      record.message = s!"Partial match rejected: consumed {rest.pos} of {total} characters"
  /-- Nothing else is. -/
  events_of_not_early : (∀ v rest, report.outcome = .matched v rest → rest.atEnd = true) →
    verdict.events = relayed.events
  store_eq : verdict.store = relayed.store

end Report

namespace Report.Relayed

variable {report relayed : Report Value}

/-- Either nothing is changed, or one fault takes the place of another. -/
theorem eq_or_exhausted (h : report.Relayed relayed) :
    (report.outcome ≠ .fault .recursionLimit ∧ relayed = report) ∨
      report.outcome = .fault .recursionLimit ∧
        ∃ notice, relayed.outcome = .fault (.misuse .depth notice) := by
  by_cases hlimit : report.outcome = .fault .recursionLimit
  · obtain ⟨record, diagnostic, rfl, -⟩ := h.of_exhausted hlimit
    exact .inr ⟨hlimit, _, rfl⟩
  · exact .inl ⟨hlimit, h.of_finished hlimit⟩

/-- A bare exhausted limit is not handed on. -/
theorem outcome_ne (h : report.Relayed relayed) : relayed.outcome ≠ .fault .recursionLimit := by
  rcases h.eq_or_exhausted with ⟨hfinished, rfl⟩ | ⟨-, notice, hrelayed⟩
  · exact hfinished
  · rw [hrelayed]
    nofun

theorem matched_iff (h : report.Relayed relayed) {v : Value} {rest : Cursor} :
    relayed.outcome = .matched v rest ↔ report.outcome = .matched v rest := by
  rcases h.eq_or_exhausted with ⟨-, rfl⟩ | ⟨hlimit, notice, hrelayed⟩
  · rfl
  · simp [hlimit, hrelayed]

theorem exists_fault_iff (h : report.Relayed relayed) :
    (∃ f, relayed.outcome = .fault f) ↔ ∃ f, report.outcome = .fault f := by
  rcases h.eq_or_exhausted with ⟨-, rfl⟩ | ⟨hlimit, notice, hrelayed⟩
  · rfl
  · simp [hlimit, hrelayed]

theorem completes_iff (h : report.Relayed relayed) {v : Value} :
    relayed.Completes v ↔ report.Completes v := by
  unfold Completes
  simp only [h.matched_iff]

/-- What is handed on decides on the whole source as the report itself does. -/
theorem judged (h : report.Relayed relayed) (total : Nat) :
    Judged total report relayed (Engine.wholeResult total relayed) where
  error_iff f := Engine.result_wholeResult_eq_error_iff
  ok_iff v := by
    rw [Engine.result_wholeResult_eq_ok_iff, h.exists_fault_iff]
    simp only [h.completes_iff]
  events_of_early v rest ho hend :=
    ⟨_, Engine.events_wholeResult_of_early (h.matched_iff.2 ho) hend, rfl⟩
  events_of_not_early hends :=
    Engine.events_wholeResult_of_not_early fun v rest ho => hends v rest (h.matched_iff.1 ho)
  store_eq := Engine.store_wholeResult

end Report.Relayed

namespace Engine

variable {engine : Engine} {limit : Nat} {matcher : Matcher} {text : String} {s : Store}

/-- An integer is taken as the bound that it is. -/
theorem integer?_maxSourceSize_ofMax {max : Value} {n : Int} (h : max.integer? = some n) :
    (ofMax max).maxSourceSize.integer? = some n := by
  cases max <;> cases h <;> rfl

/-- Of a source that is not refused, an engine hands on what the matcher reports. -/
theorem matchPrefix_relayed (hsize : engine.checkSize text.length = .ok ()) :
    (matcher (.start text) s).Relayed (engine.matchPrefix limit matcher (.text text) s) where
  of_finished hlimit := matchPrefix_of_finished hsize hlimit
  of_exhausted hlimit := by
    refine ⟨_, _, matchPrefix_of_exhausted hsize ?_, rfl, rfl, rfl⟩
    rw [← hlimit]

end Engine

/-- **The three ways to match agree.** Let the bound of an engine be an integer, and take any
matcher and any source.

If the bound is positive and the source is longer, the engine refuses the source without an event,
be it asked for a match of some beginning or of the whole source. That is so for all matchers, also
for those that report each of their applications.

Otherwise the match of some beginning is the application of the matcher at the start, with the same
events, outcome and shared lists, unless it exhausts the recursion limit; in no case is a bare
exhausted limit the outcome. The match of the whole source has the same faults. Its result is the
value of a match up to the end or else the marker for no match. Its events are the same, too, but
for one record about a match that ends too early.

A match that ends in this source is one up to the end if its position is the length of the source. A
matcher that leads into another text is judged by the end of that text; see `matching_disagrees`. -/
theorem matching_agrees {max : Value} {n : Int} (hmax : max.integer? = some n) (limit : Nat)
    (matcher : Matcher) (text : String) (s : Store) :
    let engine := Engine.ofMax max
    let refusal : Fault := .sourceTooLong text.length (Text.grouped n.toNat)
    let report := matcher (.start text) s
    let beginning := engine.matchPrefix limit matcher (.text text) s
    let whole := engine.matchAll limit matcher (.text text) s
    (0 < n ∧ n < text.length → refusal.kind = .wrongValue ∧
      beginning = ⟨[], .fault refusal, s⟩ ∧ whole = ⟨[], .error refusal, s⟩) ∧
    (¬(0 < n ∧ n < text.length) →
      report.Relayed beginning ∧ report.Judged text.length beginning whole) ∧
    beginning.outcome ≠ .fault .recursionLimit ∧
    ∀ v rest, report.outcome = .matched v rest → rest.source = text →
      (rest.atEnd = true ↔ rest.pos = text.length) := by
  intro engine refusal report beginning whole
  have hsize := Engine.checkSize_of_integer (Engine.integer?_maxSourceSize_ofMax hmax) text.length
  have hrefused (h : 0 < n ∧ n < text.length) :
      beginning = ⟨[], .fault refusal, s⟩ ∧ whole = ⟨[], .error refusal, s⟩ :=
    Engine.matching_refused (hsize.trans (if_pos h))
  have hrelayed (h : ¬(0 < n ∧ n < text.length)) : report.Relayed beginning :=
    Engine.matchPrefix_relayed (hsize.trans (if_neg h))
  refine ⟨fun h => ⟨rfl, hrefused h⟩, fun h => ⟨hrelayed h, (hrelayed h).judged _⟩, ?_, ?_⟩
  · by_cases h : 0 < n ∧ n < text.length
    · simp [(hrefused h).1, refusal]
    · exact (hrelayed h).outcome_ne
  · rintro v rest - hsource
    rw [Cursor.atEnd_iff, hsource, IndexedText.size_ofText]

/-- The default engine is one of these. -/
example : Engine.ofMax (.int defaultMaxSourceSize) = {} := rfl

/-- Letters, each of which may be left out. -/
def optionalLetters : Parser :=
  .repetition (.optional (.literal "a" .unwrap) .unwrap) 0 .unwrap

/-- An engine that takes three characters refuses four. Two letters are all of a source or less than
it, and two levels are not enough for them. -/
theorem matching_agrees_letters :
    let engine : Engine := .ofMax (.int 3)
    let matcher := fun limit => optionalLetters.run (fun _ _ => none) limit
    (Value.int 3).integer? = some 3 ∧
    engine.matchAll 3 (matcher 3) (.text "aaab") {} =
      ⟨[], .error (.sourceTooLong 4 "3"), {}⟩ ∧
    (engine.matchAll 3 (matcher 3) (.text "aa") {}).result =
      .ok (.list [.text "a", .text "a", .absent]) ∧
    (engine.matchAll 3 (matcher 3) (.text "aab") {}).result = .ok .noMatch ∧
    (∃ record : LogRecord,
      (engine.matchAll 3 (matcher 3) (.text "aab") {}).events =
        [.log (.zeroWidth 2 3), .log record] ∧
      record.message = "Partial match rejected: consumed 2 of 3 characters") ∧
    ∃ record notice,
      engine.matchPrefix 2 (matcher 2) (.text "aab") {} =
        ⟨[.log record], .fault (.misuse .depth notice), {}⟩ ∧ record.level = .warning := by
  intro engine matcher
  have hlong := (@matching_agrees (.int 3) 3 rfl 3 (matcher 3) "aaab" {}).1 (by decide)
  have hall := (@matching_agrees (.int 3) 3 rfl 3 (matcher 3) "aa" {}).2.1 (by decide)
  have hpart := (@matching_agrees (.int 3) 3 rfl 3 (matcher 3) "aab" {}).2.1 (by decide)
  have hlow := (@matching_agrees (.int 3) 3 rfl 2 (matcher 2) "aab" {}).2.1 (by decide)
  have hmatched : (matcher 3 (.start "aab") {}).outcome =
      .matched (.list [.text "a", .text "a", .absent]) ((Cursor.start "aab").forward 2) := rfl
  refine ⟨rfl, hlong.2.2, (hall.2.ok_iff _).2 (.inl ⟨_, rfl, rfl⟩), ?_, ?_, ?_⟩
  · refine (hpart.2.ok_iff .noMatch).2 (.inr ⟨rfl, ?_, ?_⟩)
    · rintro ⟨f, hf⟩
      cases hmatched.symm.trans hf
    · rintro ⟨w, rest, hw, hend⟩
      cases hmatched.symm.trans hw
      cases hend
  · obtain ⟨record, hevents, hrecord⟩ := hpart.2.events_of_early _ _ hmatched rfl
    rw [hpart.1.of_finished (by rw [hmatched]; nofun)] at hevents
    exact ⟨record, hevents, hrecord⟩
  · obtain ⟨record, _, heq, hlevel, -⟩ := hlow.1.of_exhausted rfl
    exact ⟨record, _, heq, hlevel⟩

/-- A list to which another one is added in place whenever the value of the constant is folded. -/
def growingList : Recipe :=
  .chain
    [.constant (.tagged .sequence
      (.list [.list [.text "x"], .list [.list [.text "+", .list [.text "y"]]]])),
    .ready Formatter.foldChain]

/-- The matcher that leads to a given place, wherever it is applied. -/
def leadingTo (rest : Cursor) : Matcher := fun _ => .matched (.text "v") rest

/-- The length of the source does not decide on a match that leads into another text, neither if
this ends there nor if it goes on: a match of one character is taken for three, and three characters
of three are said to be too few. Nor does one application decide on another one, if they share a
list that a formatter changes. -/
theorem matching_disagrees :
    let engine : Engine := {}
    engine.matchAll 9 (leadingTo ((Cursor.start "z").forward 1)) (.text "abc") {} =
      ⟨[], .ok (.text "v"), {}⟩ ∧
    (∃ record : LogRecord,
      engine.matchAll 9 (leadingTo ((Cursor.start "abcd").forward 3)) (.text "abc") {} =
        ⟨[.log record], .ok .noMatch, {}⟩ ∧
      record.message = "Partial match rejected: consumed 3 of 3 characters") ∧
    let (format, store) := growingList.build.run {}
    let matcher := (Parser.literal (.ofText "a") format).run (fun _ _ => none) 9
    let first := matcher (.start "a") store
    let whole := engine.matchAll 9 matcher (.text "a") first.store
    ∃ v w, first.Completes v ∧ first.store.snapshot v = .ok (.list [.text "x", .text "y"]) ∧
      whole.result = .ok w ∧
      whole.store.snapshot w = .ok (.list [.text "x", .text "y", .text "y"]) :=
  ⟨rfl, ⟨_, rfl, rfl⟩, _, _, ⟨_, rfl, rfl⟩, rfl, rfl, rfl⟩

end GrammarKit
