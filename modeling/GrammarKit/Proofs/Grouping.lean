import GrammarKit.Proofs.Limits
import GrammarKit.Proofs.MaximalRun

/-!
# Grouping

The children of a sequence or of an alternation can be put into groups, each a combinator of the
same kind. Then the same children are applied at the same cursors in the same order, and only the
shape of the value shows the groups: a sequence has a list of lists, an alternation one tag more.

* `Report.map`, `Run.map` — the same with another value;
* `Run.bind_assoc`, `Run.orElse_assoc` — going on after matches and after mismatches, in any
  grouping;
* `Matcher.collectGroups` — the values of all children of a sequence, group by group;
* `Matcher.collect_flatten`, `Matcher.collect_sequences` — what the groups have to do with the
  values in a row, and with those of sequences in a row;
* `Matcher.firstMatch_alternations` — the first match among alternations;
* `Report.Regroups` — two reports differ in the groups of a sequence only;
* `children_grouped` — the law for functions, and for parsers under a recursion limit.
-/

namespace GrammarKit

variable {α β γ : Type}

/-! ### Other values -/

/-- The report with another value. -/
def Report.map (f : α → β) (report : Report α) : Report β :=
  ⟨report.events, report.outcome.map f, report.store⟩

/-- The run with another value. -/
def Run.map (f : α → β) (run : Run α) : Run β := fun s => (run s).map f

namespace Run

theorem bind_matched_eq_map (f : α → β) (run : Run α) :
    run.bind (fun value rest => matched (f value) rest) = run.map f := by
  funext s
  unfold bind map
  rcases run s with ⟨events, outcome, store⟩
  cases outcome <;> simp [matched, Report.after, Report.map, Outcome.map]

theorem bind_assoc (run : Run α) (next : α → Cursor → Run β) (last : β → Cursor → Run γ) :
    (run.bind next).bind last = run.bind fun value rest => (next value rest).bind last := by
  rw [bind_eq_branch run, bind_branch, bind_mismatch, ← bind_eq_branch]

theorem map_id (run : Run α) : run.map (fun value => value) = run := by
  funext s
  unfold map
  rcases run s with ⟨events, outcome, store⟩
  cases outcome <;> rfl

theorem map_bind (f : β → γ) (run : Run α) (next : α → Cursor → Run β) :
    (run.bind next).map f = run.bind fun value rest => (next value rest).map f := by
  simp only [← bind_matched_eq_map, bind_assoc]

theorem bind_map (f : α → β) (run : Run α) (next : β → Cursor → Run γ) :
    (run.map f).bind next = run.bind fun value rest => next (f value) rest := by
  simp only [← bind_matched_eq_map, bind_assoc, bind_matched]

theorem map_map (f : α → β) (g : β → γ) (run : Run α) :
    (run.map f).map g = run.map fun value => g (f value) := by
  simp only [← bind_matched_eq_map, bind_assoc, bind_matched]

theorem map_orElse (f : α → β) (run other : Run α) :
    (run.orElse other).map f = (run.map f).orElse (other.map f) := by
  funext s
  cases h : (run s).outcome <;> simp [orElse, map, h, Report.after, Report.map, Outcome.map]

theorem orElse_assoc (first second third : Run α) :
    (first.orElse second).orElse third = first.orElse (second.orElse third) := by
  funext s
  unfold orElse
  rcases first s with ⟨events, outcome, store⟩
  cases outcome with
  | matched value rest => rfl
  | fault f => rfl
  | mismatch =>
    simp only [Report.after]
    rcases second store with ⟨events', outcome', store'⟩
    cases outcome' <;> simp

/-- A run that goes on after a match can match only if there was one. -/
theorem outcome_bind_eq_matched {run : Run α} {next : α → Cursor → Run β} {s : Store} {w : β}
    {d : Cursor} (h : (run.bind next s).outcome = .matched w d) :
    ∃ v rest s', (run s).outcome = .matched v rest ∧ (next v rest s').outcome = .matched w d := by
  rw [bind_eq_branch] at h
  rcases ends_branch_iff.1 ⟨h, rfl⟩ with
    ⟨v, rest, s', hrun, hnext⟩ | ⟨_, -, hmismatch⟩ | ⟨_, -, hfault⟩
  · exact ⟨v, rest, s', hrun.1, hnext.1⟩
  · cases (ends_mismatch_iff.1 hmismatch).1
  · cases hfault

end Run

theorem Outcome.map_eq_matched {f : α → β} {o : Outcome α} {w : β} {d : Cursor}
    (h : o.map f = .matched w d) : ∃ v, o = .matched v d ∧ w = f v := by
  cases o with
  | matched v rest =>
    cases h
    exact ⟨v, rfl, rfl⟩
  | mismatch => cases h
  | fault f => cases h

theorem Outcome.map_eq_fault_iff {f : α → β} {o : Outcome α} {e : Fault} :
    o.map f = .fault e ↔ o = .fault e := by
  cases o <;> simp [map]

namespace Matcher

variable {ι : Type} {apply : ι → Matcher}

/-! ### Sequences -/

/-- A sequence without a formatter has the values of its children. -/
theorem sequence_identity (children : List ι) (c : Cursor) :
    sequence apply children .identity c =
      (collect apply children c).map fun values => .tagged .sequence (.list values) := by
  rw [← Run.bind_matched_eq_map]
  rfl

/-- Children in a row are applied part by part. -/
theorem collect_append (children others : List ι) (c : Cursor) :
    collect apply (children ++ others) c =
      (collect apply children c).bind fun values rest =>
        (collect apply others rest).map (values ++ ·) := by
  induction children generalizing c with
  | nil => exact (Run.map_id _).symm
  | cons child children ih =>
    simp only [List.cons_append, collect, Run.bind_matched_eq_map, ih, Run.map_bind, Run.map_map,
      Run.bind_assoc, Run.bind_map]

/-- The values of all children in a row, group by group. -/
def collectGroups (apply : ι → Matcher) : List (List ι) → Cursor → Run (List (List Value))
  | [], c => .matched [] c
  | group :: groups, c =>
    (collect apply group c).bind fun values rest =>
      (collectGroups apply groups rest).map (values :: ·)

theorem collect_flatten (groups : List (List ι)) (c : Cursor) :
    collect apply groups.flatten c = (collectGroups apply groups c).map List.flatten := by
  induction groups generalizing c with
  | nil => rfl
  | cons group groups ih =>
    simp only [List.flatten_cons, collect_append, collectGroups, ih, Run.map_bind, Run.map_map]

theorem collect_sequences (groups : List (List ι)) (c : Cursor) :
    collect (fun group => sequence apply group .identity) groups c =
      (collectGroups apply groups c).map
        (List.map fun values => .tagged .sequence (.list values)) := by
  induction groups generalizing c with
  | nil => rfl
  | cons group groups ih =>
    simp only [collect, collectGroups, sequence_identity, ih, Run.bind_matched_eq_map, Run.bind_map,
      Run.map_bind, Run.map_map, List.map_cons]

/-- There is a value for each child. -/
theorem length_collect {children : List ι} {c d : Cursor} {s : Store} {values : List Value}
    (h : (collect apply children c s).outcome = .matched values d) :
    values.length = children.length := by
  induction children generalizing c s values with
  | nil =>
    cases h
    rfl
  | cons child children ih =>
    rw [collect] at h
    obtain ⟨value, rest, s', -, h⟩ := Run.outcome_bind_eq_matched h
    rw [Run.bind_matched_eq_map] at h
    obtain ⟨values, hvalues, rfl⟩ := Outcome.map_eq_matched h
    exact congrArg Nat.succ (ih hvalues)

/-- Each group has as many values as children. -/
theorem length_collectGroups {groups : List (List ι)} {c d : Cursor} {s : Store}
    {values : List (List Value)}
    (h : (collectGroups apply groups c s).outcome = .matched values d) :
    values.map List.length = groups.map List.length := by
  induction groups generalizing c s values with
  | nil =>
    cases h
    rfl
  | cons group groups ih =>
    rw [collectGroups] at h
    obtain ⟨first, rest, s', hfirst, h⟩ := Run.outcome_bind_eq_matched h
    obtain ⟨others, hothers, rfl⟩ := Outcome.map_eq_matched h
    rw [List.map_cons, List.map_cons, length_collect hfirst, ih hothers]

end Matcher

/-- The two reports are the same but for the values of their matches: those are sequences, of the
values of all groups in a row or of one sequence for each group. A group has as many values as its
size says. -/
def Report.Regroups (sizes : List Nat) (flat grouped : Report Value) : Prop :=
  ∃ report : Report (List (List Value)),
    flat = report.map (fun groups => .tagged .sequence (.list groups.flatten)) ∧
    grouped = report.map (fun groups =>
      .tagged .sequence (.list (groups.map fun values => .tagged .sequence (.list values)))) ∧
    ∀ groups rest, report.outcome = .matched groups rest → groups.map List.length = sizes

/-- Groups have no influence on faults. -/
theorem Report.Regroups.outcome_eq_fault_iff {sizes : List Nat} {flat grouped : Report Value}
    (h : Regroups sizes flat grouped) {f : Fault} :
    flat.outcome = .fault f ↔ grouped.outcome = .fault f := by
  obtain ⟨report, rfl, rfl, -⟩ := h
  exact Outcome.map_eq_fault_iff.trans Outcome.map_eq_fault_iff.symm

namespace Matcher

variable {ι : Type} (apply : ι → Matcher) (groups : List (List ι)) (c : Cursor)

theorem sequence_regroups (s : Store) :
    Report.Regroups (groups.map List.length) (sequence apply groups.flatten .identity c s)
      (sequence (fun group => sequence apply group .identity) groups .identity c s) := by
  refine ⟨collectGroups apply groups c s, ?_, ?_, fun _ _ h => length_collectGroups h⟩
  · rw [sequence_identity, collect_flatten, Run.map_map]
    rfl
  · rw [sequence_identity, collect_sequences, Run.map_map]
    rfl

/-! ### Alternations -/

/-- An alternation without a formatter has the value of the first child that matches. -/
theorem alternation_identity (children : List ι) :
    alternation apply children .identity c =
      (firstMatch apply children c).map (.tagged .alternation) := by
  rw [← Run.bind_matched_eq_map]
  rfl

/-- The first match among children is looked for part by part. -/
theorem firstMatch_append (children others : List ι) :
    firstMatch apply (children ++ others) c =
      (firstMatch apply children c).orElse (firstMatch apply others c) := by
  induction children with
  | nil => rfl
  | cons child children ih => rw [List.cons_append, firstMatch, ih, firstMatch, Run.orElse_assoc]

theorem firstMatch_alternations :
    firstMatch (fun group => alternation apply group .identity) groups c =
      (firstMatch apply groups.flatten c).map (.tagged .alternation) := by
  induction groups with
  | nil => rfl
  | cons group groups ih =>
    simp only [firstMatch, ih, alternation_identity, List.flatten_cons, firstMatch_append,
      Run.map_orElse]

theorem alternation_alternations :
    alternation (fun group => alternation apply group .identity) groups .identity c =
      (alternation apply groups.flatten .identity c).map (.tagged .alternation) := by
  rw [alternation_identity, firstMatch_alternations, alternation_identity]

end Matcher

/-! ### Parsers -/

namespace Parser

/-- A sequence of sequences. -/
def sequences (groups : List (List Parser)) : Parser :=
  .sequence (groups.map fun group => .sequence group .identity) .identity

/-- An alternation of alternations. -/
def alternations (groups : List (List Parser)) : Parser :=
  .alternation (groups.map fun group => .alternation group .identity) .identity

variable (scope : Scope) (limit : Nat) (groups : List (List Parser))

theorem run_sequences : (sequences groups).run scope (limit + 2) =
    Matcher.sequence (fun group => Matcher.sequence (run scope limit) group .identity) groups
      .identity := by
  unfold sequences Matcher.sequence
  rw [run_sequence]
  unfold Matcher.sequence
  rw [Matcher.collect_map]
  rfl

theorem run_alternations : (alternations groups).run scope (limit + 2) =
    Matcher.alternation (fun group => Matcher.alternation (run scope limit) group .identity) groups
      .identity := by
  unfold alternations Matcher.alternation
  rw [run_alternation]
  unfold Matcher.alternation
  rw [Matcher.firstMatch_map]
  rfl

variable (c : Cursor) (s : Store)

/-- Groups are one level deeper. What does not exhaust a limit there does not exhaust it without
groups, and there is no group at all if the limit is exhausted by the groups themselves. -/
theorem run_sequence_regroups
    (hlimit : ((sequences groups).run scope limit c s).outcome ≠ .fault .recursionLimit) :
    Report.Regroups (groups.map List.length)
      ((sequence groups.flatten .identity).run scope limit c s)
      ((sequences groups).run scope limit c s) := by
  match limit, groups with
  | 0, _ => exact absurd rfl hlimit
  | 1, _ :: _ => exact absurd rfl hlimit
  | 1, [] => exact Matcher.sequence_regroups (run scope 0) [] c s
  | limit + 2, groups =>
    rw [run_sequences] at hlimit ⊢
    have hlaw := Matcher.sequence_regroups (run scope limit) groups c s
    have hflat := run_extends scope (.sequence groups.flatten .identity)
      (Nat.le_succ (limit + 1)) c s fun h => hlimit (hlaw.outcome_eq_fault_iff.1 h)
    exact hflat ▸ hlaw

theorem run_alternations_eq
    (hlimit : ((alternations groups).run scope limit c s).outcome ≠ .fault .recursionLimit) :
    (alternations groups).run scope limit c s =
      ((alternation groups.flatten .identity).run scope limit c s).map (.tagged .alternation) := by
  match limit, groups with
  | 0, _ => exact absurd rfl hlimit
  | 1, _ :: _ => exact absurd rfl hlimit
  | 1, [] => rfl
  | limit + 2, groups =>
    rw [run_alternations] at hlimit ⊢
    have hlaw := congrFun (Matcher.alternation_alternations (run scope limit) groups c) s
    have hflat := run_extends scope (.alternation groups.flatten .identity)
      (Nat.le_succ (limit + 1)) c s fun h => ?_
    · exact hflat ▸ hlaw
    · rw [hlaw] at hlimit
      exact hlimit (Outcome.map_eq_fault_iff.2 h)

end Parser

/-- **Grouping does not matter.** Put the children of a sequence or of an alternation into groups,
some of them empty perhaps, and make each group a combinator of the same kind, without formatters.
Then the events, the shared lists afterwards and the way in which an application ends are the same
as without groups: both match up to the same cursor, both mismatch, or both end with the same fault.
The values of a sequence are those of its groups in a row, and an alternation has one tag more.

This holds of functions as the children. What `announce` has for a child and a cursor is reported
whenever the child is applied there, so the same children are applied at the same cursors in the
same order. It holds of all parsers as well, unless the groups exhaust the recursion limit. -/
theorem children_grouped (c : Cursor) (s : Store) :
    (∀ (ι : Type) (child : ι → Matcher) (announce : ι → Cursor → List Event)
        (groups : List (List ι)),
      let apply := fun i => (child i).announced (announce i)
      Report.Regroups (groups.map List.length)
        (Matcher.sequence apply groups.flatten .identity c s)
        (Matcher.sequence (fun group => Matcher.sequence apply group .identity) groups .identity
          c s) ∧
      Matcher.alternation (fun group => Matcher.alternation apply group .identity) groups .identity
          c s =
        (Matcher.alternation apply groups.flatten .identity c s).map (.tagged .alternation)) ∧
    ∀ (scope : Scope) (groups : List (List Parser)) (limit : Nat),
      (((Parser.sequences groups).run scope limit c s).outcome ≠ .fault .recursionLimit →
        Report.Regroups (groups.map List.length)
          ((Parser.sequence groups.flatten .identity).run scope limit c s)
          ((Parser.sequences groups).run scope limit c s)) ∧
      (((Parser.alternations groups).run scope limit c s).outcome ≠ .fault .recursionLimit →
        (Parser.alternations groups).run scope limit c s =
          ((Parser.alternation groups.flatten .identity).run scope limit c s).map
            (.tagged .alternation)) := by
  constructor
  · intro ι child announce groups apply
    exact ⟨Matcher.sequence_regroups apply groups c s,
      congrFun (Matcher.alternation_alternations apply groups c) s⟩
  · intro scope groups limit
    exact ⟨Parser.run_sequence_regroups scope limit groups c s,
      Parser.run_alternations_eq scope limit groups c s⟩

/-- A letter with another one that may be left out, nothing, and a last letter. -/
def letterGroups : List (List Parser) :=
  [[.literal "a" .unwrap, .optional (.literal "b" .unwrap) .unwrap], [], [.literal "c" .unwrap]]

/-- The groups are seen in the values only: of the sequence, and of the alternation, which takes its
last child. -/
theorem children_grouped_letters :
    let scope : Scope := fun _ _ => none
    let row := (Parser.sequences letterGroups).run scope 4 (.start "ac") {}
    let choice := (Parser.alternations letterGroups.tail).run scope 3 (.start "c") {}
    (row.outcome ≠ .fault .recursionLimit ∧
      Report.Regroups [2, 0, 1]
        ((Parser.sequence letterGroups.flatten .identity).run scope 4 (.start "ac") {}) row ∧
      row.outcome = .matched (.tagged .sequence (.list
        [.tagged .sequence (.list [.text "a", .absent]), .tagged .sequence (.list []),
          .tagged .sequence (.list [.text "c"])])) ((Cursor.start "ac").forward 2)) ∧
    (choice.outcome ≠ .fault .recursionLimit ∧
      choice = ((Parser.alternation letterGroups.tail.flatten .identity).run scope 3 (.start "c")
        {}).map (.tagged .alternation) ∧
      choice.outcome = .matched (.tagged .alternation (.tagged .alternation (.text "c")))
        ((Cursor.start "c").forward 1)) := by
  intro scope row choice
  have hrow : row.outcome = .matched (.tagged .sequence (.list
      [.tagged .sequence (.list [.text "a", .absent]), .tagged .sequence (.list []),
        .tagged .sequence (.list [.text "c"])])) ((Cursor.start "ac").forward 2) := rfl
  have hchoice : choice.outcome =
      .matched (.tagged .alternation (.tagged .alternation (.text "c")))
        ((Cursor.start "c").forward 1) := rfl
  have hrowLimit : row.outcome ≠ .fault .recursionLimit := by
    rw [hrow]
    nofun
  have hchoiceLimit : choice.outcome ≠ .fault .recursionLimit := by
    rw [hchoice]
    nofun
  exact ⟨⟨hrowLimit, ((children_grouped (.start "ac") {}).2 scope letterGroups 4).1 hrowLimit,
      hrow⟩,
    hchoiceLimit, ((children_grouped (.start "c") {}).2 scope letterGroups.tail 3).2
      hchoiceLimit, hchoice⟩

end GrammarKit
