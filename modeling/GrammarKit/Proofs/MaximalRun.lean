import GrammarKit.Proofs.Progress

/-!
# Maximal runs

A repetition applies its child again and again, each time where the match before has ended. As long
as the child never leads backwards this comes to an end, at the first cursor where the child fails
or matches without moving. Until then nothing is decided: the minimum, the formatter and the value
of the repetition only matter there.

* `Stride` — an application that matches and moves;
* `Matcher.Climbs` — strides one after the other;
* `Matcher.StopsAt` — no stride is possible;
* `Matcher.exists_climbs`, `Matcher.Climbs.unique` — there is one maximal run;
* `Matcher.announced` — a matcher that reports each of its applications;
* `Matcher.Climbs.loop_eq` — what a repetition does as long as there are strides;
* `Matcher.Climbs.exists_repetition_eq` — what is left of it after all of them;
* `repetition_maximal_run` — what it does in all.
-/

namespace GrammarKit

/-- An application that matches and moves: where it starts, its events and its value. -/
structure Stride where
  start : Cursor
  events : List Event
  value : Value

theorem Report.after_after {α : Type} (es fs : List Event) (report : Report α) :
    (report.after fs).after es = report.after (es ++ fs) := by
  simp [after]

namespace Matcher

variable {child : Matcher} {c d d' : Cursor} {s s' s'' : Store} {strides strides' : List Stride}

/-- The matcher makes the strides one after the other, from one cursor and shared lists to
others. -/
inductive Climbs (child : Matcher) : Cursor → Store → List Stride → Cursor → Store → Prop
  | refl (c : Cursor) (s : Store) : Climbs child c s [] c s
  | step {c s v rest strides d s'} (hmatched : (child c s).outcome = .matched v rest)
      (hmove : c.pos < rest.pos) (hnext : Climbs child rest (child c s).store strides d s') :
      Climbs child c s (⟨c, (child c s).events, v⟩ :: strides) d s'

/-- The matcher makes no stride here: if it matches at all, it does so without moving. -/
def StopsAt (child : Matcher) (c : Cursor) (s : Store) : Prop :=
  ∀ v rest, (child c s).outcome = .matched v rest → rest.pos = c.pos

/-- Each stride leaves less of the source. -/
theorem Climbs.length_le (hchild : child.Advances) (h : child.Climbs c s strides d s') :
    strides.length + d.remaining ≤ c.remaining := by
  induction h with
  | refl => exact Nat.le_of_eq (Nat.zero_add _)
  | step hmatched hmove _ ih =>
    have hless := (hchild _ _ _ _ hmatched).remaining_lt (Nat.ne_of_gt hmove)
    rw [List.length_cons]
    omega

/-- A matcher that never leads backwards comes to a cursor where it makes no stride. -/
theorem exists_climbs (hchild : child.Advances) (c : Cursor) (s : Store) :
    ∃ strides d s', child.Climbs c s strides d s' ∧ child.StopsAt d s' := by
  induction hn : c.remaining using Nat.strongRecOn generalizing c s with
  | _ n ih =>
    by_cases hstop : child.StopsAt c s
    · exact ⟨[], c, s, .refl c s, hstop⟩
    · simp only [StopsAt, not_forall] at hstop
      obtain ⟨v, rest, hmatched, hmove⟩ := hstop
      have hbefore := hchild c s v rest hmatched
      obtain ⟨strides, d, s', hclimbs, hstop⟩ :=
        ih rest.remaining (hn ▸ hbefore.remaining_lt hmove) rest (child c s).store rfl
      have hlt : c.pos < rest.pos := Nat.lt_of_le_of_ne hbefore.2 (Ne.symm hmove)
      exact ⟨_, d, s', .step hmatched hlt hclimbs, hstop⟩

/-- **There is one maximal run only:** whoever stops has made all strides. -/
theorem Climbs.unique (h : child.Climbs c s strides d s') (hstop : child.StopsAt d s')
    (h' : child.Climbs c s strides' d' s'') (hstop' : child.StopsAt d' s'') :
    strides' = strides ∧ d' = d ∧ s'' = s' := by
  induction h generalizing strides' with
  | refl =>
    cases h' with
    | refl => exact ⟨rfl, rfl, rfl⟩
    | step hmatched hmove => exact absurd (hstop _ _ hmatched) (Nat.ne_of_gt hmove)
  | step hmatched hmove _ ih =>
    cases h' with
    | refl => exact absurd (hstop' _ _ hmatched) (Nat.ne_of_gt hmove)
    | step hmatched' _ hnext' =>
      cases hmatched.symm.trans hmatched'
      obtain ⟨rfl, rfl, rfl⟩ := ih hstop hnext'
      exact ⟨rfl, rfl, rfl⟩

/-! ### Repetitions -/

/-- The matcher that reports, each time it is applied at a cursor, what `announce` has for this
cursor first. With nothing to announce, that is the matcher itself. -/
def announced (announce : Cursor → List Event) (child : Matcher) : Matcher := fun c =>
  (child c).after (announce c)

/-- What is reported while an announced matcher makes strides. -/
def announcements (announce : Cursor → List Event) (strides : List Stride) : List Event :=
  strides.flatMap fun stride => announce stride.start ++ stride.events

variable {format : Formatting} {minimum : Nat}

/-- As long as there are strides, a repetition collects their values. The induction is on the
strides; each uses up one unit of the fuel. -/
theorem Climbs.loop_eq (announce : Cursor → List Event) (h : child.Climbs c s strides d s')
    (fuel : Nat) (values : List Value) :
    loop (child.announced announce) minimum (strides.length + fuel) format values c s =
      (loop (child.announced announce) minimum fuel format
        (values ++ strides.map (·.value)) d s').after (announcements announce strides) := by
  induction h generalizing values with
  | refl => simp [announcements, Report.after]
  | @step c s v rest strides _ _ hmatched hmove _ ih =>
    have hmatched' : (child.announced announce c s).outcome = .matched v rest := hmatched
    rw [List.length_cons, Nat.add_right_comm, loop_succ, Run.branch_of_matched hmatched',
      if_neg (Nat.ne_of_gt hmove)]
    change Report.after _ (loop _ _ _ _ _ rest (child c s).store) = _
    rw [ih, Report.after_after]
    simp [announcements, announced, Run.after, Report.after]

/-- After all strides, some fuel is left: there was more than what is left of the source. -/
theorem Climbs.exists_repetition_eq (hchild : child.Advances)
    (h : child.Climbs c s strides d s') :
    ∃ fuel, ∀ (announce : Cursor → List Event) (minimum : Nat) (format : Formatting),
      repetition (child.announced announce) minimum format c s =
        (loop (child.announced announce) minimum (fuel + 1) format (strides.map (·.value))
          d s').after (announcements announce strides) := by
  have hlength := h.length_le hchild
  have hfuel : c.source.size + 1 = strides.length + (c.source.size - strides.length + 1) := by
    unfold Cursor.remaining at hlength
    omega
  refine ⟨c.source.size - strides.length, fun announce minimum format => ?_⟩
  rw [repetition_eq_loop, hfuel, h.loop_eq announce _ []]
  rfl

end Matcher

/-- **A repetition makes the maximal run and then ends.** Let its child never lead backwards. From
every cursor and all shared lists there is one run of strides only after which no stride is
possible, and it has at most as many strides as there are characters left. The repetition applies
its child where each stride starts and once more where the run ends, and nowhere else. What it
gives depends on how that last application ends:

* after a mismatch, the formatter gets the values of the strides, if there are enough of them;
  otherwise the repetition mismatches;
* a fault is that of the repetition;
* a match without a move is recorded and logged once, with the number of all matches. It meets every
  minimum.

No other records are logged, and the events of the child are reported in order. -/
theorem repetition_maximal_run {child : Matcher} (hchild : child.Advances) (c : Cursor)
    (s : Store) :
    ∃ strides d s', (child.Climbs c s strides d s' ∧ child.StopsAt d s') ∧
      (∀ strides' d' s'', child.Climbs c s strides' d' s'' → child.StopsAt d' s'' →
        strides' = strides ∧ d' = d ∧ s'' = s') ∧
      strides.length ≤ c.remaining ∧
      ∀ (announce : Cursor → List Event) (minimum : Nat) (format : Formatting),
        let values := strides.map (·.value)
        let last := child d s'
        let events := Matcher.announcements announce strides ++ (announce d ++ last.events)
        let report := Matcher.repetition (child.announced announce) minimum format c s
        (last.outcome = .mismatch → minimum ≤ strides.length →
          report = (Run.formatted format .repetition (.list values) d last.store).after events) ∧
        (last.outcome = .mismatch → strides.length < minimum →
          report = ⟨events, .mismatch, last.store⟩) ∧
        (∀ f, last.outcome = .fault f → report = ⟨events, .fault f, last.store⟩) ∧
        ∀ v rest, last.outcome = .matched v rest →
          rest = d ∧
          report = (Run.formatted format .repetition (.list (values ++ [v])) d last.store).after
            (events ++ [.log (.zeroWidth d.pos (strides.length + 1))]) := by
  obtain ⟨strides, d, s', hclimbs, hstop⟩ := Matcher.exists_climbs hchild c s
  obtain ⟨fuel, hrepetition⟩ := hclimbs.exists_repetition_eq hchild
  refine ⟨strides, d, s', ⟨hclimbs, hstop⟩,
    fun _ _ _ hclimbs' hstop' => hclimbs.unique hstop hclimbs' hstop',
    Nat.le_trans (Nat.le_add_right _ _) (hclimbs.length_le hchild), ?_⟩
  intro announce minimum format values last events report
  have hreport : report = _ := hrepetition announce minimum format
  have hcount : values.length = strides.length := List.length_map ..
  rw [Matcher.loop_succ, hcount] at hreport
  refine ⟨fun ho hmin => ?_, fun ho hmin => ?_, fun f ho => ?_, fun v rest ho => ?_⟩
  · have ho' : (child.announced announce d s').outcome = .mismatch := ho
    rw [hreport, Run.branch_of_mismatch ho', if_neg (Nat.not_lt.2 hmin), Report.after_after]
    rfl
  · have ho' : (child.announced announce d s').outcome = .mismatch := ho
    rw [hreport, Run.branch_of_mismatch ho', if_pos hmin, Report.after_after]
    simp only [Run.mismatch, Report.after, List.append_nil]
    rfl
  · have ho' : (child.announced announce d s').outcome = .fault f := ho
    rw [hreport, Run.branch_of_fault ho']
    rfl
  · have ho' : (child.announced announce d s').outcome = .matched v rest := ho
    refine ⟨(hchild d s' v rest ho).eq_of_pos (hstop v rest ho), ?_⟩
    rw [hreport, Run.branch_of_matched ho', if_pos (hstop v rest ho), Report.after_after,
      Run.after, Report.after_after]
    rfl

/-- A letter that may be left out. -/
def optionalLetter : Parser := .optional (.literal "a" .unwrap) .unwrap

/-- Two letters are taken, and then nothing any number of times, which is recorded once. -/
theorem repetition_maximal_run_letters :
    let child := optionalLetter.run (fun _ _ => none) 2
    child.Advances ∧ ∃ strides d s',
      (child.Climbs (.start "aab") {} strides d s' ∧ child.StopsAt d s') ∧
      strides.map (·.value) = [.text "a", .text "a"] ∧ d = (Cursor.start "aab").forward 2 ∧
      ∀ minimum, Matcher.repetition (child.announced fun c => [.mark (.enter "a" c.pos)]) minimum
          (Formatter.unwrap.within 0) (.start "aab") {} =
        ⟨[.mark (.enter "a" 0), .mark (.enter "a" 1), .mark (.enter "a" 2), .log (.zeroWidth 2 3)],
          .matched (.list [.text "a", .text "a", .absent]) d, s'⟩ := by
  intro child
  have hforward : ∀ q ∈ optionalLetter.subtrees, q.IsForward := by
    simp [optionalLetter, Parser.subtrees, Parser.IsForward, Parser.handWritten?]
  have hchild : child.Advances := by
    refine run_advances (Scope.everywhere_of_subtrees hforward ?_) 2
    rintro _ _ _ ⟨⟩
  have hclimbs : child.Climbs (.start "aab") {}
      [⟨.start "aab", [], .text "a"⟩, ⟨(Cursor.start "aab").forward 1, [], .text "a"⟩]
      ((Cursor.start "aab").forward 2) {} :=
    .step rfl (by decide) (.step rfl (by decide) (.refl _ _))
  have hlast : (child ((Cursor.start "aab").forward 2) {}).outcome =
      .matched .absent ((Cursor.start "aab").forward 2) := rfl
  have hstop : child.StopsAt ((Cursor.start "aab").forward 2) {} := by
    intro v rest h
    cases hlast.symm.trans h
    rfl
  obtain ⟨strides, d, s', hrun, hunique, -, hreport⟩ :=
    repetition_maximal_run hchild (.start "aab") {}
  obtain ⟨rfl, rfl, rfl⟩ := hunique _ _ _ hclimbs hstop
  refine ⟨hchild, _, _, _, hrun, rfl, rfl, fun minimum => ?_⟩
  exact ((hreport _ minimum (Formatter.unwrap.within 0)).2.2.2 _ _ hlast).2

end GrammarKit
