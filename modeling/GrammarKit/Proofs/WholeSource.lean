import GrammarKit.Engine
import GrammarKit.Proofs.Branching

/-!
# Whole sources

What is said of a whole source, in terms of the application of the matcher at its start.

* `Engine.checkSize_of_integer`, `Engine.checkSize_default` — which sources an engine refuses whose
  bound is an integer, and which ones the default engine;
* `Engine.matching_refused` — nothing is reported of a source that is refused;
* `Report.Completes` — a match up to the end;
* `Engine.result_wholeResult_eq_error_iff`, `Engine.result_wholeResult_eq_ok_iff`,
  `Engine.events_wholeResult_of_early`, `Engine.events_wholeResult_of_not_early` — what a match of
  some beginning says about the whole source;
* `Engine.matchAll_of_matched`, `Engine.matchAll_of_mismatch`, `Engine.matchAll_of_refused` — the
  result, from how the application ends or from the refusal of the source;
* `Engine.exists_matched_of_matchAll` — a result other than the marker for no match is the value of
  a match up to the end;
* `Engine.matchPrefix_of_exhausted`, `Engine.matchAll_of_exhausted` — an exhausted recursion limit
  is logged and reported as a misuse.
-/

namespace GrammarKit

/-! ### Sources that are too long -/

theorem Number.gt_ofInt (m n : Int) : (ofInt m).gt (ofInt n) = decide (n < m) := by
  have hcompare : compareScaled m 0 n 0 = compare m n := by
    simp [compareScaled, Binary.twoPow]
  rw [gt, ofInt, ofInt, compare?, hcompare]
  by_cases h : n < m
  · simp [h, Int.compare_eq_gt.2 h]
  · have hne : compare m n ≠ .gt := fun hgt => h (Int.compare_eq_gt.1 hgt)
    simp [h, hne]

/-- An integer is a number, be it a truth value. -/
theorem Value.number?_of_integer {value : Value} {n : Int} (h : value.integer? = some n) :
    value.number? = some (.ofInt n) := by
  cases value <;> cases h <;> rfl

namespace Engine

variable {engine : Engine} {limit : Nat} {matcher : Matcher} {text : String} {s : Store}

/-- The message about a long source gives an integer in groups of three digits. -/
theorem limitText_of_integer {value : Value} {n : Int} (h : value.integer? = some n) :
    limitText value = Text.grouped n.toNat := by
  cases value <;> cases h <;> rfl

/-- An engine with a positive integer as its bound refuses the sources that are longer. -/
theorem checkSize_of_integer {n : Int} (hmax : engine.maxSourceSize.integer? = some n)
    (length : Nat) :
    engine.checkSize length =
      if 0 < n ∧ n < length then .error (.sourceTooLong length (Text.grouped n.toNat))
      else .ok () := by
  unfold checkSize
  rw [Value.number?_of_integer hmax, limitText_of_integer hmax]
  simp only [Number.gt_ofInt, Bool.and_eq_true, decide_eq_true_eq]

/-- The default engine refuses the sources that are longer than its bound. -/
theorem checkSize_default (length : Nat) :
    ({} : Engine).checkSize length =
      if length ≤ defaultMaxSourceSize then .ok ()
      else .error (.sourceTooLong length "10,485,760") := by
  have hlimit : Text.grouped defaultMaxSourceSize = "10,485,760" := by decide
  have hpos : (0 : Int) < defaultMaxSourceSize := by decide
  rw [checkSize_of_integer rfl, Int.toNat_natCast, hlimit]
  by_cases h : length ≤ defaultMaxSourceSize
  · rw [if_neg (by omega), if_pos h]
  · rw [if_pos (by omega), if_neg h]

/-- Nothing is reported of a source that is refused, whatever the matcher would report. -/
theorem matching_refused {f : Fault} (hsize : engine.checkSize text.length = .error f) :
    engine.matchPrefix limit matcher (.text text) s = ⟨[], .fault f, s⟩ ∧
    engine.matchAll limit matcher (.text text) s = ⟨[], .error f, s⟩ := by
  unfold matchAll matchPrefix
  simp only [hsize]
  exact ⟨rfl, rfl⟩

theorem matchAll_of_refused {f : Fault} (hsize : engine.checkSize text.length = .error f) :
    (engine.matchAll limit matcher (.text text) s).result = .error f := by
  rw [(matching_refused hsize).2]

end Engine

/-! ### From some beginning to the whole source -/

/-- The report is a match with a value up to the end. -/
def Report.Completes (report : Report Value) (v : Value) : Prop :=
  ∃ rest, report.outcome = .matched v rest ∧ rest.atEnd = true

theorem Report.completes_iff {report : Report Value} {v w : Value} {rest : Cursor}
    (h : report.outcome = .matched w rest) : report.Completes v ↔ w = v ∧ rest.atEnd = true := by
  constructor
  · rintro ⟨rest', h', hend⟩
    cases h.symm.trans h'
    exact ⟨rfl, hend⟩
  · rintro ⟨rfl, hend⟩
    exact ⟨rest, h, hend⟩

namespace Engine

section

variable {total : Nat} {report : Report Value}

theorem result_wholeResult_eq_error_iff {f : Fault} :
    (wholeResult total report).result = .error f ↔ report.outcome = .fault f := by
  unfold wholeResult
  cases report.outcome with
  | matched v rest => cases hend : rest.atEnd <;> simp [hend]
  | mismatch => simp
  | fault f => simp

/-- The result is the value of a match up to the end. Without one, and without a fault, it is the
marker for no match, which may also be the value of a match. -/
theorem result_wholeResult_eq_ok_iff {v : Value} :
    (wholeResult total report).result = .ok v ↔
      report.Completes v ∨
        v = .noMatch ∧ (¬∃ f, report.outcome = .fault f) ∧ ¬∃ w, report.Completes w := by
  have hmarker : Value.noMatch = v ↔ v = .noMatch := eq_comm
  cases ho : report.outcome with
  | matched w rest =>
    simp only [wholeResult, ho, Report.completes_iff ho]
    cases rest.atEnd <;> simp [hmarker]
  | mismatch => simp [wholeResult, Report.Completes, ho, hmarker]
  | fault f => simp [wholeResult, ho, Report.Completes]

theorem events_wholeResult_of_early {v : Value} {rest : Cursor}
    (h : report.outcome = .matched v rest) (hend : rest.atEnd = false) :
    (wholeResult total report).events = report.events ++ [.log (.partialMatch rest.pos total)] := by
  simp [wholeResult, h, hend]

theorem events_wholeResult_of_not_early
    (h : ∀ v rest, report.outcome = .matched v rest → rest.atEnd = true) :
    (wholeResult total report).events = report.events := by
  unfold wholeResult
  cases ho : report.outcome with
  | matched v rest => simp [h v rest ho]
  | mismatch => rfl
  | fault f => rfl

theorem store_wholeResult : (wholeResult total report).store = report.store := by
  unfold wholeResult
  cases report.outcome with
  | matched v rest => cases hend : rest.atEnd <;> simp [hend]
  | mismatch => rfl
  | fault f => rfl

end

variable {engine : Engine} {limit : Nat} {matcher : Matcher} {text : String} {s s' : Store}

/-- The value of a match up to the end is the result; other matches give the marker for no match. -/
theorem matchAll_of_matched {v : Value} {rest : Cursor}
    (hsize : engine.checkSize text.length = .ok ())
    (h : (matcher (.start text)).Ends s (.matched v rest) s') :
    (engine.matchAll limit matcher (.text text) s).result =
      .ok (if rest.atEnd then v else .noMatch) := by
  unfold matchAll matchPrefix
  simp only [hsize, guarded, h.1, wholeResult]
  split <;> rfl

theorem matchAll_of_mismatch (hsize : engine.checkSize text.length = .ok ())
    (h : (matcher (.start text)).Ends s .mismatch s') :
    (engine.matchAll limit matcher (.text text) s).result = .ok .noMatch := by
  unfold matchAll matchPrefix
  simp only [hsize, guarded, h.1, wholeResult]

/-- A match of some beginning is one of the matcher. -/
theorem matched_of_matchPrefix {v : Value} {rest : Cursor}
    (h : (engine.matchPrefix limit matcher (.text text) s).outcome = .matched v rest) :
    (matcher (.start text) s).outcome = .matched v rest := by
  cases hsize : engine.checkSize text.length with
  | error f =>
    rw [(matching_refused hsize).1] at h
    cases h
  | ok _ =>
    simp only [matchPrefix, hsize, guarded] at h
    split at h
    · cases h
    · exact h

/-- A result other than the marker for no match is the value of a match up to the end. -/
theorem exists_matched_of_matchAll {v : Value}
    (h : (engine.matchAll limit matcher (.text text) s).result = .ok v) (hv : v ≠ .noMatch) :
    ∃ rest, (matcher (.start text) s).outcome = .matched v rest ∧ rest.atEnd = true := by
  rcases result_wholeResult_eq_ok_iff.1 h with ⟨rest, hmatched, hend⟩ | ⟨hmarker, -⟩
  · exact ⟨rest, matched_of_matchPrefix hmatched, hend⟩
  · exact absurd hmarker hv

/-- An exhausted recursion limit gets one more record and is reported as a misuse. -/
theorem matchPrefix_of_exhausted {events : List Event}
    (hsize : engine.checkSize text.length = .ok ())
    (h : matcher (.start text) s = ⟨events, .fault .recursionLimit, s'⟩) :
    engine.matchPrefix limit matcher (.text text) s =
      ⟨events ++ [.log (.recursionLimit limit text.length)],
        .fault (depthFault limit (.start text)), s'⟩ := by
  unfold matchPrefix
  simp only [hsize, guarded, h]
  rfl

theorem matchAll_of_exhausted {events : List Event}
    (hsize : engine.checkSize text.length = .ok ())
    (h : matcher (.start text) s = ⟨events, .fault .recursionLimit, s'⟩) :
    engine.matchAll limit matcher (.text text) s =
      ⟨events ++ [.log (.recursionLimit limit text.length)],
        .error (depthFault limit (.start text)), s'⟩ := by
  unfold matchAll
  rw [matchPrefix_of_exhausted hsize h]
  rfl

end Engine

end GrammarKit
