import GrammarKit.Proofs.Derivation
import Mathlib.Order.Filter.AtTopBot.Basic

/-!
# Runs and derivations

A run under a recursion limit is an account of derivations: what it gives, unless the limit was in
its way, can be derived, and whatever can be derived is what it gives under every limit that is
large enough.

* `Derives.of_run` — the outcome of a run is derived;
* `Task.Ends` — how a task ends under a recursion limit;
* `Derives.eventually_ends` — a derived outcome is that of the runs under large limits;
* `Derives.unique` — a task has only one derived outcome;
* `run_adequate` — both directions together.
-/

namespace GrammarKit

open Filter

variable {scope : Scope} {limit : Nat} {c : Cursor} {s s' : Store} {o : Outcome Value}

/-! ### From runs to derivations -/

/-- The runs of a parser give only what is derived, the recursion limit apart. -/
def Sound (scope : Scope) (limit : Nat) (p : Parser) : Prop :=
  ∀ c s o s', (p.run scope limit c).Ends s o s' → o ≠ .fault .recursionLimit →
    Derives scope (.apply p) c s o s'

theorem derives_row {children : List Parser} {format : Formatter} {values : List Value}
    {room : Nat} (hsound : ∀ q ∈ children, Sound scope limit q)
    (h : (Matcher.row (Parser.run scope limit) children (format.within room) values c).Ends s o s')
    (ho : o ≠ .fault .recursionLimit) : Derives scope (.row children format values) c s o s' := by
  induction children generalizing values c s with
  | nil =>
    rw [Matcher.row_nil, Run.ends_formatted_iff] at h
    exact .rowEnd (.of_within h ho)
  | cons q qs ih =>
    rw [Matcher.row_cons, Run.ends_branch_iff] at h
    have hq := hsound q (List.mem_cons_self ..)
    rcases h with ⟨v, rest, s₁, hmatch, hnext⟩ | ⟨s₁, hmiss, hend⟩ | ⟨f, hfault, rfl⟩
    · exact .rowNext (hq _ _ _ _ hmatch nofun)
        (ih (fun r hr => hsound r (List.mem_cons_of_mem _ hr)) hnext)
    · obtain ⟨rfl, rfl⟩ := Run.ends_mismatch_iff.1 hend
      exact .rowMiss (hq _ _ _ _ hmiss nofun)
    · exact .rowRaise (hq _ _ _ _ hfault ho)

theorem derives_choice {children : List Parser} {format : Formatter} {room : Nat}
    (hsound : ∀ q ∈ children, Sound scope limit q)
    (h : (Matcher.alternation (Parser.run scope limit) children (format.within room) c).Ends s o s')
    (ho : o ≠ .fault .recursionLimit) : Derives scope (.choice children format) c s o s' := by
  induction children generalizing s with
  | nil =>
    rw [Matcher.alternation_nil, Run.ends_mismatch_iff] at h
    obtain ⟨rfl, rfl⟩ := h
    exact .choiceEnd
  | cons q qs ih =>
    rw [Matcher.alternation_cons, Run.ends_branch_iff] at h
    have hq := hsound q (List.mem_cons_self ..)
    rcases h with ⟨v, rest, s₁, hmatch, hend⟩ | ⟨s₁, hmiss, hnext⟩ | ⟨f, hfault, rfl⟩
    · exact .choiceMatch (hq _ _ _ _ hmatch nofun) (.of_within (Run.ends_formatted_iff.1 hend) ho)
    · exact .choiceNext (hq _ _ _ _ hmiss nofun)
        (ih (fun r hr => hsound r (List.mem_cons_of_mem _ hr)) hnext)
    · exact .choiceRaise (hq _ _ _ _ hfault ho)

/-- The fuel of a repetition never runs out: each application that is followed by another leaves
less of the source. -/
theorem derives_loop {child : Parser} {minimum fuel room : Nat} {format : Formatter}
    {values : List Value} (hsound : Sound scope limit child) (hfuel : c.remaining < fuel)
    (h : (Matcher.loop (child.run scope limit) minimum fuel (format.within room) values c).Ends s o
      s') (ho : o ≠ .fault .recursionLimit) :
    Derives scope (.loop child minimum format values) c s o s' := by
  induction fuel generalizing values c s with
  | zero => omega
  | succ fuel ih =>
    rw [Matcher.loop_succ, Run.ends_branch_iff] at h
    rcases h with ⟨v, rest, s₁, hmatch, hnext⟩ | ⟨s₁, hmiss, hend⟩ | ⟨f, hfault, rfl⟩
    · have hchild := hsound _ _ _ _ hmatch nofun
      split at hnext
      · next hzero => exact .loopZero hchild hzero (.of_within (Run.ends_formatted_iff.1 hnext) ho)
      · next hmove =>
        have hless := (hchild.before rfl).remaining_lt hmove
        exact .loopNext hchild hmove (ih (by omega) hnext)
    · have hchild := hsound _ _ _ _ hmiss nofun
      split at hend
      · next hmin =>
        obtain ⟨rfl, rfl⟩ := Run.ends_mismatch_iff.1 hend
        exact .loopShort hchild hmin
      · next hmin =>
        exact .loopEnd hchild (by omega) (.of_within (Run.ends_formatted_iff.1 hend) ho)
    · exact .loopRaise (hsound _ _ _ _ hfault ho)

/-- The outcome of a run of a plain parser is derived, unless it is the recursion limit. -/
theorem Derives.of_run {p : Parser} (hp : scope.Everywhere (·.isPlain = true) p)
    (h : (p.run scope limit c).Ends s o s') (ho : o ≠ .fault .recursionLimit) :
    Derives scope (.apply p) c s o s' := by
  induction limit generalizing p c s o s' with
  | zero =>
    obtain ⟨rfl, -⟩ := Run.ends_fault_iff.1 h
    exact absurd rfl ho
  | succ limit ih =>
    have hparts : ∀ q ∈ p.parts, Sound scope limit q :=
      fun q hq _ _ _ _ hend hne => ih (hp.part hq) hend hne
    cases p with
    | literal text format =>
      rw [Parser.run_literal, Matcher.ends_literal_iff] at h
      rcases h with ⟨hahead, hshape⟩ | ⟨hahead, rfl, rfl⟩
      · exact .literal hahead (.of_within hshape ho)
      · exact .literalMiss hahead
    | charClass cls format =>
      rw [Parser.run_charClass, Matcher.ends_charClass_iff] at h
      rcases h with ⟨char, hnext, hin, hshape⟩ | ⟨hnext, rfl, rfl⟩
      · exact .charClass hnext hin (.of_within hshape ho)
      · exact .charClassMiss hnext
    | sequence children format =>
      rw [Parser.run_sequence, Matcher.sequence_eq_row] at h
      exact .sequence (derives_row hparts h ho)
    | alternation children format =>
      rw [Parser.run_alternation] at h
      exact .alternation (derives_choice hparts h ho)
    | optional child format =>
      rw [Parser.run_optional, Matcher.optional_eq_branch, Run.ends_branch_iff] at h
      have hchild := hparts child (List.mem_singleton_self _)
      rcases h with ⟨v, rest, s₁, hmatch, hend⟩ | ⟨s₁, hmiss, hend⟩ | ⟨f, hfault, rfl⟩
      · have hshape := Run.ends_formatted_iff.1 hend
        exact .optionalMatch (hchild _ _ _ _ hmatch nofun) (.of_within hshape ho)
      · have hshape := Run.ends_formatted_iff.1 hend
        exact .optionalMiss (hchild _ _ _ _ hmiss nofun) (.of_within hshape ho)
      · exact .optionalRaise (hchild _ _ _ _ hfault ho)
    | repetition child minimum format =>
      rw [Parser.run_repetition, Matcher.repetition_eq_loop] at h
      have hfuel : c.remaining < c.source.size + 1 := by
        unfold Cursor.remaining
        omega
      exact .repetition (derives_loop (hparts child (List.mem_singleton_self _)) hfuel h ho)
    | reference registry name =>
      cases hkey : name.keyObstacle? with
      | some typeName =>
        simp only [Parser.run, hkey, Run.ends_fault_iff] at h
        obtain ⟨rfl, rfl⟩ := h
        exact .referenceKey hkey
      | none =>
        cases hbound : scope registry name with
        | none =>
          simp only [Parser.run, hkey, hbound, Run.ends_fault_iff] at h
          obtain ⟨rfl, rfl⟩ := h
          refine .referenceMissing hkey hbound ?_
          filter_upwards [eventually_ge_atTop limit] with room hle
          exact (Parser.unboundFault_stable hle name c).resolve_left fun h => ho (h ▸ rfl)
        | some target =>
          rw [Parser.run_reference_of_bound _ _ hkey hbound] at h
          exact .reference hkey hbound (ih (hp.rule hbound) h ho)
    | leaf _ => cases hp.self
    | custom _ => cases hp.self
    | probe _ _ => cases hp.self
    | inert _ => cases hp.self

/-! ### From derivations to runs -/

/-- How a task ends under a recursion limit, which is also the room that is left for formatters. The
fuel of a repetition may be any that is enough. -/
def Task.Ends (scope : Scope) (limit : Nat) (c : Cursor) (s : Store) (o : Outcome Value)
    (s' : Store) : Task → Prop
  | apply p => (p.run scope limit c).Ends s o s'
  | row children format values =>
    (Matcher.row (Parser.run scope limit) children (format.within limit) values c).Ends s o s'
  | choice children format =>
    (Matcher.alternation (Parser.run scope limit) children (format.within limit) c).Ends s o s'
  | loop child minimum format values => ∀ fuel, c.remaining < fuel →
    (Matcher.loop (child.run scope limit) minimum fuel (format.within limit) values c).Ends s o s'

/-- What holds one level deeper under large limits gives what holds under large limits. -/
theorem eventually_of_succ {P Q : Nat → Prop} (h : ∀ᶠ limit in atTop, P limit)
    (hsucc : ∀ limit, P limit → Q (limit + 1)) : ∀ᶠ limit in atTop, Q limit := by
  obtain ⟨L, hL⟩ := eventually_atTop.1 h
  refine eventually_atTop.2 ⟨L + 1, fun limit hlimit => ?_⟩
  obtain ⟨deeper, rfl⟩ := Nat.exists_eq_add_of_le' (Nat.le_of_add_left_le hlimit)
  exact hsucc deeper (hL deeper (by omega))

/-- A derived outcome is that of the run under every recursion limit that is large enough. -/
theorem Derives.eventually_ends {t : Task} (h : Derives scope t c s o s') :
    ∀ᶠ limit in atTop, t.Ends scope limit c s o s' := by
  induction h with
  | literal hahead hshape =>
    refine eventually_of_succ hshape fun limit hshape => ?_
    exact Matcher.ends_literal_iff.2 (Or.inl ⟨hahead, hshape⟩)
  | literalMiss hahead =>
    refine eventually_of_succ (.of_forall fun _ => trivial) fun limit _ => ?_
    exact Matcher.ends_literal_iff.2 (Or.inr ⟨hahead, rfl, rfl⟩)
  | charClass hnext hin hshape =>
    refine eventually_of_succ hshape fun limit hshape => ?_
    exact Matcher.ends_charClass_iff.2 (Or.inl ⟨_, hnext, hin, hshape⟩)
  | charClassMiss hnext =>
    refine eventually_of_succ (.of_forall fun _ => trivial) fun limit _ => ?_
    exact Matcher.ends_charClass_iff.2 (Or.inr ⟨hnext, rfl, rfl⟩)
  | sequence _ ih =>
    refine eventually_of_succ ih fun limit hrow => ?_
    exact hrow
  | rowEnd hshape =>
    filter_upwards [hshape] with limit hshape
    simpa only [Task.Ends, Matcher.row_nil, Run.ends_formatted_iff] using hshape
  | rowNext _ _ ih ihnext =>
    filter_upwards [ih, ihnext] with limit hmatch hnext
    rw [Task.Ends, Matcher.row_cons, Run.ends_branch_iff]
    exact Or.inl ⟨_, _, _, hmatch, hnext⟩
  | rowMiss _ ih =>
    filter_upwards [ih] with limit hmiss
    rw [Task.Ends, Matcher.row_cons, Run.ends_branch_iff]
    exact Or.inr (Or.inl ⟨_, hmiss, Run.ends_mismatch_iff.2 ⟨rfl, rfl⟩⟩)
  | rowRaise _ ih =>
    filter_upwards [ih] with limit hfault
    rw [Task.Ends, Matcher.row_cons, Run.ends_branch_iff]
    exact Or.inr (Or.inr ⟨_, hfault, rfl⟩)
  | alternation _ ih =>
    refine eventually_of_succ ih fun limit hchoice => ?_
    exact hchoice
  | choiceEnd => exact .of_forall fun limit => Run.ends_mismatch_iff.2 ⟨rfl, rfl⟩
  | choiceMatch _ hshape ih =>
    filter_upwards [ih, hshape] with limit hmatch hshape
    rw [Task.Ends, Matcher.alternation_cons, Run.ends_branch_iff]
    exact Or.inl ⟨_, _, _, hmatch, Run.ends_formatted_iff.2 hshape⟩
  | choiceNext _ _ ih ihnext =>
    filter_upwards [ih, ihnext] with limit hmiss hnext
    rw [Task.Ends, Matcher.alternation_cons, Run.ends_branch_iff]
    exact Or.inr (Or.inl ⟨_, hmiss, hnext⟩)
  | choiceRaise _ ih =>
    filter_upwards [ih] with limit hfault
    rw [Task.Ends, Matcher.alternation_cons, Run.ends_branch_iff]
    exact Or.inr (Or.inr ⟨_, hfault, rfl⟩)
  | optionalMatch _ hshape ih =>
    refine eventually_of_succ (ih.and hshape) fun limit h => ?_
    obtain ⟨hmatch, hshape⟩ := h
    rw [Task.Ends, Parser.run_optional, Matcher.optional_eq_branch, Run.ends_branch_iff]
    exact Or.inl ⟨_, _, _, hmatch, Run.ends_formatted_iff.2 hshape⟩
  | optionalMiss _ hshape ih =>
    refine eventually_of_succ (ih.and hshape) fun limit h => ?_
    obtain ⟨hmiss, hshape⟩ := h
    rw [Task.Ends, Parser.run_optional, Matcher.optional_eq_branch, Run.ends_branch_iff]
    exact Or.inr (Or.inl ⟨_, hmiss, Run.ends_formatted_iff.2 hshape⟩)
  | optionalRaise _ ih =>
    refine eventually_of_succ ih fun limit hfault => ?_
    rw [Task.Ends, Parser.run_optional, Matcher.optional_eq_branch, Run.ends_branch_iff]
    exact Or.inr (Or.inr ⟨_, hfault, rfl⟩)
  | repetition _ ih =>
    refine eventually_of_succ ih fun limit hloop => ?_
    exact hloop _ (by unfold Cursor.remaining; omega)
  | loopEnd _ hmin hshape ih =>
    filter_upwards [ih, hshape] with limit hmiss hshape fuel hfuel
    obtain ⟨fuel, rfl⟩ := Nat.exists_eq_add_one_of_ne_zero (Nat.ne_zero_of_lt hfuel)
    rw [Matcher.loop_succ, Run.ends_branch_iff, if_neg (by omega)]
    exact Or.inr (Or.inl ⟨_, hmiss, Run.ends_formatted_iff.2 hshape⟩)
  | loopShort _ hmin ih =>
    filter_upwards [ih] with limit hmiss fuel hfuel
    obtain ⟨fuel, rfl⟩ := Nat.exists_eq_add_one_of_ne_zero (Nat.ne_zero_of_lt hfuel)
    rw [Matcher.loop_succ, Run.ends_branch_iff, if_pos hmin]
    exact Or.inr (Or.inl ⟨_, hmiss, Run.ends_mismatch_iff.2 ⟨rfl, rfl⟩⟩)
  | loopZero _ hzero hshape ih =>
    filter_upwards [ih, hshape] with limit hmatch hshape fuel hfuel
    obtain ⟨fuel, rfl⟩ := Nat.exists_eq_add_one_of_ne_zero (Nat.ne_zero_of_lt hfuel)
    rw [Matcher.loop_succ, Run.ends_branch_iff]
    refine Or.inl ⟨_, _, _, hmatch, ?_⟩
    rw [if_pos hzero]
    exact Run.ends_formatted_iff.2 hshape
  | loopNext hchild hmove _ ih ihnext =>
    filter_upwards [ih, ihnext] with limit hmatch hnext fuel hfuel
    obtain ⟨fuel, rfl⟩ := Nat.exists_eq_add_one_of_ne_zero (Nat.ne_zero_of_lt hfuel)
    have hless := (hchild.before rfl).remaining_lt hmove
    rw [Matcher.loop_succ, Run.ends_branch_iff]
    refine Or.inl ⟨_, _, _, hmatch, ?_⟩
    rw [if_neg hmove]
    exact hnext fuel (by omega)
  | loopRaise _ ih =>
    filter_upwards [ih] with limit hfault fuel hfuel
    obtain ⟨fuel, rfl⟩ := Nat.exists_eq_add_one_of_ne_zero (Nat.ne_zero_of_lt hfuel)
    rw [Matcher.loop_succ, Run.ends_branch_iff]
    exact Or.inr (Or.inr ⟨_, hfault, rfl⟩)
  | reference hkey hbound _ ih =>
    refine eventually_of_succ ih fun limit htarget => ?_
    rw [Task.Ends, Parser.run_reference_of_bound _ _ hkey hbound]
    exact htarget
  | referenceMissing hkey hbound hfault =>
    refine eventually_of_succ hfault fun limit hfault => ?_
    simp [Task.Ends, Parser.run, hkey, hbound, hfault]
  | referenceKey hkey =>
    refine eventually_of_succ (.of_forall fun _ => trivial) fun limit _ => ?_
    simp [Task.Ends, Parser.run, hkey]

/-- A task has only one derived outcome. -/
theorem Derives.unique {t : Task} {o₁ o₂ : Outcome Value} {s₁ s₂ : Store}
    (h₁ : Derives scope t c s o₁ s₁) (h₂ : Derives scope t c s o₂ s₂) : o₁ = o₂ ∧ s₁ = s₂ := by
  obtain ⟨limit, e₁, e₂⟩ := (h₁.eventually_ends.and h₂.eventually_ends).exists
  cases t with
  | apply p => exact Run.Ends.unique e₁ e₂
  | row children format values => exact Run.Ends.unique e₁ e₂
  | choice children format => exact Run.Ends.unique e₁ e₂
  | loop child minimum format values =>
    exact (e₁ _ (Nat.lt_succ_self _)).unique (e₂ _ (Nat.lt_succ_self _))

/-- **Runs and derivations agree.** Of a parser that reaches plain ones only, every run that does
not end at the recursion limit ends as a derivation says, and for every derivation there is a
recursion limit from which on all runs end as it says. -/
theorem run_adequate {p : Parser} (hp : scope.Everywhere (·.isPlain = true) p) (c : Cursor)
    (s : Store) :
    (∀ limit, (p.run scope limit c s).outcome ≠ .fault .recursionLimit →
      Derives scope (.apply p) c s (p.run scope limit c s).outcome
        (p.run scope limit c s).store) ∧
    (∀ o s', Derives scope (.apply p) c s o s' → ∃ L, ∀ limit, L ≤ limit →
      (p.run scope limit c s).outcome = o ∧ (p.run scope limit c s).store = s') :=
  ⟨fun _ ho => .of_run hp ⟨rfl, rfl⟩ ho,
    fun _ _ h => eventually_atTop.1 h.eventually_ends⟩

/-- Digits and groups in parentheses, in a row that need not have the three items it asks for. -/
def groups : Parser :=
  .repetition
    (.alternation
      [.sequence
        [.literal "(" .identity, .reference 0 (.text "groups"), .literal ")" .identity] .unwrap,
        .optional (.charClass ⟨false, [.range 0x30 0x39]⟩ .identity) .matchedText] .identity)
    3 .identity

theorem run_adequate_groups :
    let scope : Scope := fun _ _ => some groups
    let report := groups.run scope 20 (.start "(1())2") {}
    Derives scope (.apply groups) (.start "(1())2") {} report.outcome report.store ∧
      ∃ L, ∀ limit, L ≤ limit →
        (groups.run scope limit (.start "(1())2") {}).outcome = report.outcome ∧
        (groups.run scope limit (.start "(1())2") {}).store = report.store := by
  intro scope report
  have hplain : scope.Everywhere (·.isPlain = true) groups :=
    Scope.everywhere_of_subtrees (by decide) fun _ _ r hr => Option.some.inj hr ▸ by decide
  obtain ⟨hsound, hcomplete⟩ := run_adequate hplain (.start "(1())2") {}
  have hlimit : report.outcome.isRecursionLimit = false := by decide
  have hderives := hsound 20 fun h => by
    rw [show report.outcome = _ from h] at hlimit
    cases hlimit
  exact ⟨hderives, hcomplete _ _ hderives⟩

end GrammarKit
