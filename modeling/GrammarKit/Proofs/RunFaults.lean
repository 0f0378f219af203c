import GrammarKit.Proofs.Faults

/-!
# The faults of runs

A condition on faults that all formatters, references and hand-written parsers satisfy is one that
all runs satisfy. It is enough to look at one level of a run: combinators hand on the faults of what
they apply.

* `Run.FaultsIn` — all faults of a run satisfy a condition;
* `Parser.faultsIn_runBy_succ` — the faults of one level of a run;
* `Parser.exists_failsAt_of_run` — every fault is that of some parser that was reached;
* `Leaf.fault_cases` — the faults of hand-written parsers.
-/

namespace GrammarKit

variable {α β : Type} {P : Fault → Prop}

/-- All faults that the run can end with satisfy `P`. -/
def Run.FaultsIn (run : Run α) (P : Fault → Prop) : Prop :=
  ∀ s f, (run s).outcome = .fault f → P f

/-- All faults that the function can end with on tagged values satisfy `P`. -/
def Formatting.FaultsIn (format : Formatting) (P : Fault → Prop) : Prop :=
  ∀ tag payload s f, (format (.tagged tag payload) s).result = .error f → P f

namespace Run

theorem faultsIn_mismatch : (mismatch : Run α).FaultsIn P := by
  rintro s f ⟨⟩

theorem faultsIn_fault {f : Fault} (h : P f) : (fault f : Run α).FaultsIn P := by
  rintro s _ ⟨⟩
  exact h

theorem FaultsIn.after {run : Run α} (h : run.FaultsIn P) (events : List Event) :
    (run.after events).FaultsIn P := h

theorem FaultsIn.branch {run : Run α} {next : α → Cursor → Run β} {other : Run β}
    (h : run.FaultsIn P) (hnext : ∀ value rest, (next value rest).FaultsIn P)
    (hother : other.FaultsIn P) : (run.branch next other).FaultsIn P := by
  intro s f hf
  rcases ends_branch_iff.1 ⟨hf, rfl⟩ with ⟨value, rest, s₁, -, h'⟩ | ⟨s₁, -, h'⟩ | ⟨f', h', heq⟩
  · exact hnext value rest s₁ f h'.1
  · exact hother s₁ f h'.1
  · cases heq
    exact h s f h'.1

theorem faultsIn_formatted {format : Formatting} (hformat : format.FaultsIn P) (tag : Tag)
    (payload : Value) (rest : Cursor) : (formatted format tag payload rest).FaultsIn P := by
  intro s f hf
  simp only [formatted] at hf
  split at hf
  · cases hf
  · cases hf
    exact hformat tag payload s f ‹_›

end Run

namespace Matcher

variable {ι : Type} {apply : ι → Matcher} {child : Matcher} {children : List ι}
variable {format : Formatting}

theorem faultsIn_row (hformat : format.FaultsIn P)
    (hchildren : ∀ child ∈ children, ∀ c, (apply child c).FaultsIn P) (values : List Value)
    (c : Cursor) : (row apply children format values c).FaultsIn P := by
  induction children generalizing values c with
  | nil =>
    rw [row_nil]
    exact Run.faultsIn_formatted hformat _ _ _
  | cons child children ih =>
    obtain ⟨hchild, hchildren⟩ := List.forall_mem_cons.1 hchildren
    rw [row_cons]
    exact (hchild c).branch (fun value rest => ih hchildren _ rest) Run.faultsIn_mismatch

theorem faultsIn_alternation (hformat : format.FaultsIn P)
    (hchildren : ∀ child ∈ children, ∀ c, (apply child c).FaultsIn P) (c : Cursor) :
    (alternation apply children format c).FaultsIn P := by
  induction children with
  | nil => exact Run.faultsIn_mismatch
  | cons child children ih =>
    obtain ⟨hchild, hchildren⟩ := List.forall_mem_cons.1 hchildren
    rw [alternation_cons]
    exact (hchild c).branch (Run.faultsIn_formatted hformat _) (ih hchildren)

theorem faultsIn_loop (hformat : format.FaultsIn P)
    (hchild : ∀ c, (child c).FaultsIn P) (hendless : P .endless) (minimum fuel : Nat)
    (values : List Value) (c : Cursor) :
    (loop child minimum fuel format values c).FaultsIn P := by
  induction fuel generalizing values c with
  | zero => exact Run.faultsIn_fault hendless
  | succ fuel ih =>
    rw [loop_succ]
    refine (hchild c).branch (fun value rest => ?_) ?_
    · split
      · exact (Run.faultsIn_formatted hformat _ _ _).after _
      · exact ih _ rest
    · split
      · exact Run.faultsIn_mismatch
      · exact Run.faultsIn_formatted hformat _ _ _

end Matcher

/-- **The faults of one level.** They are those of the parts of the parser, of the rule that it
finds if it is a reference, and of the parser itself, or an endless repetition. -/
theorem Parser.faultsIn_runBy_succ {use : Formatter → (room : Nat) → Formatting} {scope : Scope}
    {p : Parser} {limit : Nat} {c : Cursor} (hendless : P .endless)
    (hfails : ∀ f, p.FailsAt use scope limit c f → P f)
    (hparts : ∀ q ∈ p.parts, ∀ d, (q.runBy use scope limit d).FaultsIn P)
    (hrule : ∀ registry name target, p = .reference registry name →
      scope registry name = some target → (target.runBy use scope limit c).FaultsIn P) :
    (p.runBy use scope (limit + 1) c).FaultsIn P := by
  have hformat {format : Formatter} (h : p.format? = some format) :
      (use format limit).FaultsIn P :=
    fun tag payload s f hf => hfails f (.format h hf)
  rw [runBy_succ]
  cases p with
  | literal text format =>
    rw [layer, Matcher.literal]
    split
    · exact Run.faultsIn_formatted (hformat rfl) _ _ _
    · exact Run.faultsIn_mismatch
  | charClass cls format =>
    rw [layer, Matcher.charClass]
    split
    · split
      · exact Run.faultsIn_formatted (hformat rfl) _ _ _
      · exact Run.faultsIn_mismatch
    · exact Run.faultsIn_mismatch
  | sequence children format =>
    rw [layer, Matcher.sequence_eq_row]
    exact Matcher.faultsIn_row (hformat rfl) hparts [] c
  | alternation children format =>
    rw [layer]
    exact Matcher.faultsIn_alternation (hformat rfl) hparts c
  | optional child format =>
    rw [layer, Matcher.optional_eq_branch]
    exact (hparts child (List.mem_singleton_self _) c).branch
      (Run.faultsIn_formatted (hformat rfl) _) (Run.faultsIn_formatted (hformat rfl) _ _ _)
  | repetition child minimum format =>
    rw [layer, Matcher.repetition_eq_loop]
    exact Matcher.faultsIn_loop (hformat rfl) (hparts child (List.mem_singleton_self _)) hendless
      minimum _ [] c
  | reference registry name =>
    rw [layer]
    split
    · exact Run.faultsIn_fault (hfails _ (.notKey ‹_›))
    · exact hrule registry name _ rfl ‹_›
    · exact Run.faultsIn_fault (hfails _ (.unbound ‹_› ‹_›))
  | leaf l => exact fun s f hf => hfails f (.leaf hf)
  | custom matcher => exact fun s f hf => hfails f (.custom hf)
  | probe label inner =>
    intro s f hf
    refine hparts inner (List.mem_singleton_self _) c s f ?_
    rw [layer, Matcher.probe] at hf
    split at hf
    · cases hf
    · cases hf
    · cases hf
      assumption
  | inert value => exact Run.faultsIn_fault (hfails _ .inert)

/-- Every fault of a run is the recursion limit, that of an endless repetition, or that of some
parser that was reached. -/
theorem Parser.exists_failsAt_of_run {scope : Scope} {root p : Parser}
    (hp : scope.Reaches root p) (limit : Nat) (c : Cursor) :
    (p.run scope limit c).FaultsIn fun f => f = .recursionLimit ∨ f = .endless ∨
      ∃ q d room, scope.Reaches root q ∧ q.FailsAt Formatter.within scope room d f := by
  rw [← runBy_within]
  induction limit generalizing p c with
  | zero => exact Run.faultsIn_fault (Or.inl rfl)
  | succ limit ih =>
    refine faultsIn_runBy_succ (Or.inr (Or.inl rfl))
      (fun f hf => Or.inr (Or.inr ⟨p, c, limit, hp, hf⟩)) (fun q hq d => ih (hp.part hq) d) ?_
    rintro registry name target rfl hbound
    exact ih (hp.rule hbound) c

/-- A hand-written parser fails on purpose, or because it moves the cursor out of the source. -/
theorem Leaf.fault_cases {l : Leaf} {c : Cursor} {s : Store} {f : Fault}
    (h : (l.matcher c s).outcome = .fault f) :
    f = .parserFailed ∨ ∃ pos, f = .cursorOutside pos c.source.size := by
  cases l with
  | anyChar =>
    simp only [Leaf.matcher, Matcher.anyChar] at h
    cases hnext : c.next? with
    | none => simp [hnext, Run.mismatch] at h
    | some char => simp [hnext, Run.matched] at h
  | skip count =>
    simp only [Leaf.matcher, Matcher.skip] at h
    cases hmove : c.advance count with
    | ok rest => simp [hmove, Run.matched] at h
    | error f' =>
      simp only [hmove, Run.fault, Outcome.fault.injEq] at h
      subst h
      unfold Cursor.advance Cursor.make at hmove
      split at hmove
      · cases hmove
      · exact Or.inr ⟨_, (Except.error.inj hmove).symm⟩
  | broken =>
    cases h
    exact Or.inl rfl
  | never | rest | position => cases h

end GrammarKit
