import GrammarKit.Proofs.Progress
import GrammarKit.Proofs.Termination

/-!
# What lies behind

Parsers that are not written by hand never look back. If the same text lies ahead of two cursors,
what lies behind them changes nothing but positions, and those by the same distance everywhere.

* `Cursor.between` — the cursor between two texts;
* `Cursor.Parallel`, `Event.Parallel`, `Fault.Parallel` — the same apart from positions;
* `Comparison.parallel` — the comparison by these relations;
* `run_looks_ahead` — runs at two cursors with the same text ahead.
-/

namespace GrammarKit

/-- The cursor after the first of two texts, with the second one ahead. -/
def Cursor.between (behind ahead : String) : Cursor :=
  ⟨behind ++ ahead, behind.length, by simp⟩

theorem Cursor.ahead_between (behind ahead : String) :
    (between behind ahead).ahead = ahead.toList := by
  show (IndexedText.ofText (behind ++ ahead)).chars.toList.drop behind.length = _
  rw [IndexedText.toList_chars_eq, IndexedText.text_ofText, String.toList_append,
    ← String.length_toList, List.drop_left]

/-! ### The same apart from positions -/

/-- The same text lies ahead of both cursors, and they are as far from `i` as from `j`. -/
structure Cursor.Parallel (i j : Nat) (c c' : Cursor) : Prop where
  ahead : c.ahead = c'.ahead
  pos : ∃ k, c.pos = i + k ∧ c'.pos = j + k

/-- Both events are the same mark, or of one kind at positions that are as far from `i` as
from `j`. -/
inductive Event.Parallel (i j : Nat) : Event → Event → Prop
  | mark (m : Mark) : Parallel i j (.mark m) (.mark m)
  | zeroWidth (k count : Nat) :
      Parallel i j (.log (.zeroWidth (i + k) count)) (.log (.zeroWidth (j + k) count))
  | enter (k : Nat) (label : String) :
      Parallel i j (.mark (.enter label (i + k))) (.mark (.enter label (j + k)))
  | leave (k : Nat) (label : String) :
      Parallel i j (.mark (.leave label (some (i + k)))) (.mark (.leave label (some (j + k))))

/-- Both faults are that of a reference to one name, which is not bound, at parallel cursors; or
they are the same fault, which names no place or is that of a formatter. -/
inductive Fault.Parallel (scope : Scope) (root : Parser) (i j : Nat) : Fault → Fault → Prop
  | unbound (room : Nat) (name : Value) {c c' : Cursor} (h : c.Parallel i j c') :
      Parallel scope root i j (Parser.unboundFault room name c) (Parser.unboundFault room name c')
  | placeless {f : Fault} (h : ∀ name notice, f ≠ .misuse (.unbound name) notice) :
      Parallel scope root i j f f
  | raised {f : Fault} (h : scope.Raises root f) : Parallel scope root i j f f

namespace Cursor.Parallel

variable {i j : Nat} {c c' d d' : Cursor}

theorem forward (h : c.Parallel i j c') (n : Nat) : (c.forward n).Parallel i j (c'.forward n) := by
  have hremaining := remaining_eq_of_ahead h.ahead
  obtain ⟨k, hk, hk'⟩ := h.pos
  have := c.pos_le
  have := c'.pos_le
  refine ⟨by rw [ahead_forward, ahead_forward, h.ahead], k + min n c.remaining, ?_⟩
  rw [forward_pos, forward_pos]
  unfold remaining at hremaining ⊢
  omega

theorem pos_eq_iff (hc : c.Parallel i j c') (hd : d.Parallel i j d') :
    d.pos = c.pos ↔ d'.pos = c'.pos := by
  obtain ⟨k, hk, hk'⟩ := hc.pos
  obtain ⟨l, hl, hl'⟩ := hd.pos
  omega

end Cursor.Parallel

/-- The comparison of runs with the same text ahead. -/
def Comparison.parallel (scope : Scope) (root : Parser) (i j : Nat) : Comparison where
  cursors := Cursor.Parallel i j
  faults := Fault.Parallel scope root i j
  events := Event.Parallel i j
  excused _ := False
  ahead_eq h := h.ahead
  forward n h := h.forward n
  pos_eq_iff hc hd := hc.pos_eq_iff hd
  fault_self := .placeless
  fault_unbound room name h := .unbound room name h
  mark_self := .mark
  zeroWidth := by
    rintro c c' count ⟨-, k, hk, hk'⟩
    exact hk ▸ hk' ▸ .zeroWidth k count
  enter := by
    rintro c c' label ⟨-, k, hk, hk'⟩
    exact hk ▸ hk' ▸ .enter k label
  leave := by
    rintro c c' label ⟨-, k, hk, hk'⟩
    exact hk ▸ hk' ▸ .leave k label

variable {scope : Scope} {root p q : Parser}

/-- Nothing that is reached is written by hand, so all of it goes ahead, and repetitions have fuel
enough however long the source is. -/
theorem run_matchers_parallel (hhand : scope.Everywhere (·.handWritten? = none) root) (i j : Nat)
    (hq : scope.Reaches root q) (limit : Nat) :
    (Comparison.parallel scope root i j).Matchers (q.run scope limit) (q.run scope limit) := by
  have hforward : scope.Everywhere Parser.IsForward root := by
    intro r hr matcher hmatcher
    cases (hhand r hr).symm.trans hmatcher
  induction limit generalizing q with
  | zero => exact fun _ _ _ => Comparison.runs_fault (.placeless nofun)
  | succ limit ih =>
    rw [Parser.run_succ]
    refine Comparison.matchers_layer (fun _ name _ _ _ hc => Comparison.runs_unbound (Or.inl rfl)
      name hc) ?_ ?_ (fun r hr => ih (hq.part hr))
      (Or.inr fun r hr => ?_) ?_
    · intro format hformat
      refine Comparison.formats_within (Or.inl rfl) fun tag payload s f hraise => ?_
      by_cases hf : f = .recursionLimit
      · exact .placeless (hf ▸ nofun)
      · exact .raised (Scope.CanRaise.raises
          ⟨q, format, limit, tag, payload, s, hq, hformat, hraise⟩ hf)
    · intro matcher hmatcher
      cases (hhand q hq).symm.trans hmatcher
    · have hadvances := run_advances (hforward.of_reaches (hq.part hr)) limit
      exact ⟨hadvances, hadvances⟩
    · rintro registry name rfl
      exact Comparison.matchers_found fun target hfound => ih (hq.rule hfound)

/-- **What lies behind does not matter.** Let nothing that `p` reaches be written by hand. Apply `p`
under one recursion limit behind a text `u` and behind a text `v`, with the same text ahead. The
events are the same up to the shift of positions, and so are the shared lists in the end. Both
applications match with the same value after the same number of characters, or both mismatch, or
both fail: with a reference to one name that is not bound, as far from the start; or with the same
fault, which is that of a formatter if it is an unbound name. -/
theorem run_looks_ahead (hhand : scope.Everywhere (·.handWritten? = none) p) (limit : Nat)
    (u v t : String) (s : Store) :
    let report := p.run scope limit (.between u t) s
    let report' := p.run scope limit (.between v t) s
    List.Forall₂ (Event.Parallel u.length v.length) report.events report'.events ∧
    report.store = report'.store ∧
    ((∃ value rest rest' k, report.outcome = .matched value rest ∧
        report'.outcome = .matched value rest' ∧
        rest.pos = u.length + k ∧ rest'.pos = v.length + k) ∨
      (report.outcome = .mismatch ∧ report'.outcome = .mismatch) ∨
      (∃ name room span span' diagnostic diagnostic' k,
        Diagnostic.unboundReference room name (some span) = .ok diagnostic ∧
        Diagnostic.unboundReference room name (some span') = .ok diagnostic' ∧
        report.outcome = .fault (.misuse (.unbound name) (.diagnosed diagnostic)) ∧
        report'.outcome = .fault (.misuse (.unbound name) (.diagnosed diagnostic')) ∧
        span.start = u.length + k ∧ span'.start = v.length + k) ∨
      (∃ f, report.outcome = .fault f ∧ report'.outcome = .fault f ∧
        ((∀ name notice, f ≠ .misuse (.unbound name) notice) ∨ scope.Raises p f))) := by
  intro report report'
  have hstart : (Cursor.between u t).Parallel u.length v.length (.between v t) :=
    ⟨by rw [Cursor.ahead_between, Cursor.ahead_between], 0, rfl, rfl⟩
  have hreports := run_matchers_parallel hhand u.length v.length .self limit _ _ hstart s
  rcases hreports with ⟨_, _, ⟨⟩⟩ | ⟨hevents, houtcome, hstore⟩
  refine ⟨hevents, hstore, ?_⟩
  generalize report.outcome = o, report'.outcome = o' at houtcome
  cases houtcome with
  | matched hrest =>
    obtain ⟨k, hk, hk'⟩ := hrest.pos
    exact Or.inl ⟨_, _, _, k, rfl, rfl, hk, hk'⟩
  | mismatch => exact Or.inr (Or.inl ⟨rfl, rfl⟩)
  | fault hfault =>
    refine Or.inr (Or.inr ?_)
    cases hfault with
    | @unbound room name c c' h =>
      obtain ⟨k, hk, hk'⟩ := h.pos
      rcases Parser.unboundFault_cases room name c with ⟨d, hd, hc⟩ | ⟨f, hf, hc, hplaceless⟩
      · rcases Parser.unboundFault_cases room name c' with ⟨d', hd', hc'⟩ | ⟨f, hf, -⟩
        · exact Or.inl ⟨name, room, _, _, d, d', k, hd, hd', by rw [hc], by rw [hc'], hk, hk'⟩
        · cases hd.symm.trans (Diagnostic.unboundReference_eq_error hf)
      · have hc' : Parser.unboundFault room name c' = f := by
          rw [Parser.unboundFault, Diagnostic.unboundReference_eq_error hf]
          rfl
        refine Or.inr ⟨f, by rw [hc], by rw [hc'], Or.inl ?_⟩
        rintro name notice rfl
        rcases hplaceless with h | h
        · cases h
        · cases h
    | placeless h => exact Or.inr ⟨_, rfl, rfl, Or.inl h⟩
    | raised h => exact Or.inr ⟨_, rfl, rfl, Or.inr h⟩

/-- A stop, perhaps after some dashes. -/
def stopRule : Parser :=
  .alternation
    [.literal "." .identity,
      .sequence [.repetition (.literal "-" .unwrap) 1 .identity, .reference 0 (.text "stop")]
        .identity] .identity

/-- A stop, perhaps after some blanks. -/
def spacedStop : Parser :=
  .sequence
    [.repetition (.optional (.literal " " .identity) .unwrap) 0 .identity,
      .reference 0 (.text "stop")] .matchedText

/-- The workspace with the rule for stops. -/
def stopWorkspace : Workspace := .ofRule "stop" stopRule

/-- The repetition of blanks ends with an option that consumes nothing, which is recorded at
different positions. -/
theorem run_looks_ahead_stop :
    let report := spacedStop.run stopWorkspace.scope 20 (.between "two\nlines" " -.") {}
    let report' := spacedStop.run stopWorkspace.scope 20 (.between "" " -.") {}
    (report.events = [.log (.zeroWidth 10 2)] ∧ report'.events = [.log (.zeroWidth 1 2)]) ∧
    List.Forall₂ (Event.Parallel 9 0) report.events report'.events ∧
    report.store = report'.store ∧
    ∃ value rest rest' k, report.outcome = .matched value rest ∧
      report'.outcome = .matched value rest' ∧ rest.pos = 9 + k ∧ rest'.pos = 0 + k := by
  intro report report'
  have hspaced : ∀ q ∈ spacedStop.subtrees, q.handWritten? = none := by
    simp [spacedStop, Parser.subtrees, Parser.subtreesIn, Parser.handWritten?]
  have hstop : ∀ q ∈ stopRule.subtrees, q.handWritten? = none := by
    simp [stopRule, Parser.subtrees, Parser.subtreesIn, Parser.handWritten?]
  have hhand : stopWorkspace.scope.Everywhere (·.handWritten? = none) spacedStop :=
    Workspace.everywhere_ofRule hspaced hstop
  obtain ⟨hevents, hstore, houtcome⟩ := run_looks_ahead hhand 20 "two\nlines" "" " -." {}
  refine ⟨⟨rfl, rfl⟩, hevents, hstore, ?_⟩
  rcases houtcome with hmatched | ⟨hmiss, -⟩ | ⟨_, _, _, _, _, _, _, _, _, hfault, -⟩ |
    ⟨_, hfault, -⟩
  · exact hmatched
  · cases hmiss
  · cases hfault
  · cases hfault

end GrammarKit
