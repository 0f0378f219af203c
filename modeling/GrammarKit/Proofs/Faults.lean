import GrammarKit.Proofs.Reformatting
import GrammarKit.Proofs.Termination

/-!
# The causes of faults

Combinators pass on the faults of their children and have none of their own. What a plain parser
fails with, the recursion limit apart, therefore comes from a formatter or from a reference that it
reaches, and a reference fails no further back than where the application began.

* `Parser.FailsAt` — a parser fails at a cursor, and not because of a part of it;
* `Task.Within` — a task that comes up while a parser is applied;
* `Derives.exists_failsAt` — every derived fault is that of some parser that was reached;
* `run_fault_cause` — what an application can fail with if no formatter fails.
-/

namespace GrammarKit

variable {scope : Scope} {root : Parser}

/-- With some room left, the parser fails at a cursor, and not because of a part of it: its
formatter, which does what `use` says, fails; it is a reference whose name is not bound or cannot be
looked up; or it is no combinator at all. -/
inductive Parser.FailsAt (use : Formatter → (room : Nat) → Formatting) (scope : Scope)
    (room : Nat) : Parser → Cursor → Fault → Prop
  | format {q : Parser} {format tag payload s d f} (hformat : q.format? = some format)
      (h : (use format room (.tagged tag payload) s).result = .error f) :
      FailsAt use scope room q d f
  | unbound {registry d} {name : Value} (hkey : name.keyObstacle? = none)
      (hbound : scope registry name = none) :
      FailsAt use scope room (.reference registry name) d (unboundFault room name d)
  | notKey {registry typeName d} {name : Value} (hkey : name.keyObstacle? = some typeName) :
      FailsAt use scope room (.reference registry name) d (.notKey typeName)
  | leaf {l : Leaf} {d s f} (h : (l.matcher d s).outcome = .fault f) :
      FailsAt use scope room (.leaf l) d f
  | custom {matcher : Matcher} {d s f} (h : (matcher d s).outcome = .fault f) :
      FailsAt use scope room (.custom matcher) d f
  | inert {value d} : FailsAt use scope room (.inert value) d (.notApplicable value)

/-- The formatter of some parser that `root` reaches. -/
def Scope.ReachesFormat (scope : Scope) (root : Parser) (format : Formatter) : Prop :=
  ∃ q, scope.Reaches root q ∧ q.format? = some format

/-- The task can come up while `root` is applied. -/
def Task.Within (scope : Scope) (root : Parser) : Task → Prop
  | apply p => scope.Reaches root p
  | row children format _ | choice children format =>
    scope.ReachesFormat root format ∧ ∀ p ∈ children, scope.Reaches root p
  | loop child _ format _ => scope.ReachesFormat root format ∧ scope.Reaches root child

/-- A fault that a formatter ends with is one of the parser that the formatter belongs to. -/
theorem Shapes.exists_failsAt {format : Formatter} {tag : Tag} {payload : Value}
    {c d rest : Cursor} {s s' : Store} {f : Fault} (hformat : scope.ReachesFormat root format)
    (hcd : c.Before d) (h : Shapes format tag payload rest s (.fault f) s') :
    ∃ q d room, scope.Reaches root q ∧ c.Before d ∧ q.FailsAt Formatter.within scope room d f := by
  obtain ⟨q, hq, hformat⟩ := hformat
  obtain ⟨room, hroom⟩ := h.exists
  cases hroom with
  | raise hraise => exact ⟨q, d, room, hq, hcd, .format hformat hraise⟩

/-- **Every derived fault is that of some parser that was reached,** at a cursor that is not behind
the one where the task began. -/
theorem Derives.exists_failsAt {t : Task} {c : Cursor} {s s' : Store} {o : Outcome Value}
    {f : Fault} (h : Derives scope t c s o s') (ht : t.Within scope root) (ho : o = .fault f) :
    ∃ q d room, scope.Reaches root q ∧ c.Before d ∧ q.FailsAt Formatter.within scope room d f := by
  induction h with
  | literal _ hshape =>
    subst ho
    exact hshape.exists_failsAt ⟨_, ht, rfl⟩ (.refl _)
  | charClass _ _ hshape =>
    subst ho
    exact hshape.exists_failsAt ⟨_, ht, rfl⟩ (.refl _)
  | sequence _ ih => exact ih ⟨⟨_, ht, rfl⟩, fun _ hp => ht.part hp⟩ ho
  | rowEnd hshape =>
    subst ho
    exact hshape.exists_failsAt ht.1 (.refl _)
  | rowNext h _ _ ihnext =>
    obtain ⟨q, d, room, hq, hd, hfail⟩ := ihnext ⟨ht.1, (List.forall_mem_cons.1 ht.2).2⟩ ho
    exact ⟨q, d, room, hq, (h.before rfl).trans hd, hfail⟩
  | rowRaise _ ih => exact ih (List.forall_mem_cons.1 ht.2).1 ho
  | alternation _ ih => exact ih ⟨⟨_, ht, rfl⟩, fun _ hp => ht.part hp⟩ ho
  | choiceMatch _ hshape =>
    subst ho
    exact hshape.exists_failsAt ht.1 (.refl _)
  | choiceNext _ _ _ ihnext => exact ihnext ⟨ht.1, (List.forall_mem_cons.1 ht.2).2⟩ ho
  | choiceRaise _ ih => exact ih (List.forall_mem_cons.1 ht.2).1 ho
  | optionalMatch _ hshape =>
    subst ho
    exact hshape.exists_failsAt ⟨_, ht, rfl⟩ (.refl _)
  | optionalMiss _ hshape =>
    subst ho
    exact hshape.exists_failsAt ⟨_, ht, rfl⟩ (.refl _)
  | optionalRaise _ ih => exact ih (ht.part (List.mem_singleton_self _)) ho
  | repetition _ ih => exact ih ⟨⟨_, ht, rfl⟩, ht.part (List.mem_singleton_self _)⟩ ho
  | loopEnd _ _ hshape =>
    subst ho
    exact hshape.exists_failsAt ht.1 (.refl _)
  | loopZero _ _ hshape =>
    subst ho
    exact hshape.exists_failsAt ht.1 (.refl _)
  | loopNext h _ _ _ ihnext =>
    obtain ⟨q, d, room, hq, hd, hfail⟩ := ihnext ht ho
    exact ⟨q, d, room, hq, (h.before rfl).trans hd, hfail⟩
  | loopRaise _ ih => exact ih ht.2 ho
  | reference _ hbound _ ih => exact ih (ht.rule hbound) ho
  | referenceMissing hkey hbound hfault =>
    cases ho
    obtain ⟨room, rfl⟩ := hfault.exists
    exact ⟨_, _, room, ht, .refl _, .unbound hkey hbound⟩
  | referenceKey hkey =>
    cases ho
    exact ⟨_, _, 0, ht, .refl _, .notKey hkey⟩
  | literalMiss | charClassMiss | rowMiss | choiceEnd | loopShort => cases ho

/-- The source and the position of a cursor make the cursor again. -/
theorem Cursor.make_self (c : Cursor) : Cursor.make c.source c.pos = .ok c := by
  have := c.pos_le
  rw [make, dif_pos (by omega)]
  rfl

/-- **The causes of faults.** Let a parser reach plain parsers only, and let no formatter fail in
its application at a cursor. If the application ends with a fault, it is the recursion limit, or
that of a reference that the parser reaches. Either the name of the reference is not bound: the
fault says so with the name and with the empty span of a place between the cursor and the end of the
source, unless an integer in the name is too long for this message to be written, which is the fault
then. Or the name cannot be looked up in a registry at all. -/
theorem run_fault_cause {p : Parser} (hplain : scope.Everywhere (·.isPlain = true) p) {limit : Nat}
    {c : Cursor} {s : Store} {f : Fault} (hclean : p.FormatsCleanly scope limit c s)
    (h : (p.run scope limit c s).outcome = .fault f) :
    f = .recursionLimit ∨
    ∃ registry name, scope.Reaches p (.reference registry name) ∧
      ((name.keyObstacle? = none ∧ scope registry name = none ∧
        ∃ (pos : Nat) (d : Cursor) (span : Span) (room : Nat), c.pos ≤ pos ∧ pos ≤ c.source.size ∧
          Cursor.make c.source pos = .ok d ∧
          Span.make pos pos d.place.line d.place.column = .ok span ∧
          ((∃ diagnostic, Diagnostic.unboundReference room name (some span) = .ok diagnostic ∧
              f = .misuse (.unbound name) (.diagnosed diagnostic)) ∨
            (Diagnostic.unboundReference room name (some span) = .error f ∧
              f = .integerTooLong Text.numeralLimit))) ∨
      ∃ typeName, name.keyObstacle? = some typeName ∧ f = .notKey typeName) := by
  by_cases hlimit : f = .recursionLimit
  · exact Or.inl hlimit
  refine Or.inr ?_
  -- Without formatters, the application ends with the same fault.
  have hlook := hclean.look_eq_unformatted (fun q hq => Parser.isBlind_of_isPlain (hplain q hq)) s
  have hfault := (Report.fault_iff_of_look_eq hlook f).1 h
  have hplain' : scope.unformatted.Everywhere (·.isPlain = true) p.unformatted := by
    intro r hr
    obtain ⟨q, hq, rfl⟩ := Scope.reaches_mapFormat_iff.1 hr
    rw [Parser.isPlain_mapFormat]
    exact hplain q hq
  have hderives := Derives.of_run hplain' ⟨hfault, rfl⟩ fun heq =>
    hlimit (Outcome.fault.inj heq)
  have hwithin : Task.Within scope.unformatted p.unformatted (.apply p.unformatted) := .self
  obtain ⟨r, d, room, hr, hd, hfail⟩ := hderives.exists_failsAt hwithin rfl
  have hr' := hplain' r hr
  obtain ⟨q, hq, rfl⟩ := Scope.reaches_mapFormat_iff.1 hr
  generalize hq' : q.mapFormat (fun _ => Formatter.identity) = r at hfail hr'
  cases hfail with
  | format hformat hraise =>
    rw [← hq', Parser.format?_mapFormat] at hformat
    obtain ⟨_, -, rfl⟩ := Option.map_eq_some_iff.1 hformat
    cases hraise
  | @unbound registry _ name hkey hbound =>
    obtain rfl := (Parser.mapFormat_eq_reference _).1 hq'
    refine ⟨registry, name, hq, Or.inl ⟨hkey, Option.map_eq_none_iff.1 hbound, d.pos, d, d.span,
      room, hd.2, ?_⟩⟩
    rw [← hd.1]
    refine ⟨d.pos_le, d.make_self, d.span.make_self, ?_⟩
    rcases Parser.unboundFault_cases room name d with ⟨g, hg, heq⟩ | ⟨g, hg, heq, hcause⟩
    · exact Or.inl ⟨g, hg, heq⟩
    · rw [heq] at hlimit ⊢
      exact Or.inr ⟨hg, hcause.resolve_left hlimit⟩
  | notKey hkey =>
    obtain rfl := (Parser.mapFormat_eq_reference _).1 hq'
    exact ⟨_, _, hq, Or.inr ⟨_, hkey, rfl⟩⟩
  | leaf | custom | inert => cases hr'

/-- A line and what may follow it, which is a rule that nobody has bound. -/
def lineRule : Parser :=
  .sequence
    [.literal "a" .unwrap, .literal "\n" .identity,
      .optional (.reference 0 (.text "others")) .identity] .matchedText

/-- A workspace with the rule for lines only. -/
def lineWorkspace : Workspace where
  registries := #[.grammar { rules := [("line", ⟨0, lineRule⟩)] }]
  names := []

/-- Lines in a row. -/
def lineRow : Parser := .repetition (.reference 0 (.text "line")) 1 .identity

/-- The fault after the first line. -/
def lineFault : Fault :=
  Parser.unboundFault 0 (.text "others") ((Cursor.start "a\nb").forward 2)

theorem run_fault_cause_line :
    (lineRow.run lineWorkspace.scope 9 (.start "a\nb") {}).outcome = .fault lineFault ∧
    (lineFault = .recursionLimit ∨
      ∃ registry name, lineWorkspace.scope.Reaches lineRow (.reference registry name) ∧
        ((name.keyObstacle? = none ∧ lineWorkspace.scope registry name = none ∧
          ∃ (pos : Nat) (d : Cursor) (span : Span) (room : Nat),
            (Cursor.start "a\nb").pos ≤ pos ∧ pos ≤ (Cursor.start "a\nb").source.size ∧
            Cursor.make (Cursor.start "a\nb").source pos = .ok d ∧
            Span.make pos pos d.place.line d.place.column = .ok span ∧
            ((∃ diagnostic, Diagnostic.unboundReference room name (some span) = .ok diagnostic ∧
                lineFault = .misuse (.unbound name) (.diagnosed diagnostic)) ∨
              (Diagnostic.unboundReference room name (some span) = .error lineFault ∧
                lineFault = .integerTooLong Text.numeralLimit))) ∨
        ∃ typeName, name.keyObstacle? = some typeName ∧ lineFault = .notKey typeName)) := by
  have hplain : lineWorkspace.scope.Everywhere (·.isPlain = true) lineRow := by
    refine Scope.everywhere_of_subtrees (by decide) fun _ _ r hr => ?_
    have hline : r = lineRule := by
      simpa [lineWorkspace, Registry.entries] using (Workspace.scope_eq_some hr).2
    subst hline
    decide
  have hclean : lineRow.FormatsCleanly lineWorkspace.scope 9 (.start "a\nb") {} :=
    Eq.trans (b := ([], .fault lineFault)) rfl rfl
  have hfault : (lineRow.run lineWorkspace.scope 9 (.start "a\nb") {}).outcome =
      .fault lineFault := rfl
  exact ⟨hfault, run_fault_cause hplain hclean hfault⟩

/-- An integer can be a name, and be too long for the message. -/
theorem Parser.unboundFault_of_unprintable {n : Int} (h : Store.unprintable ≤ n.natAbs)
    (room : Nat) (c : Cursor) :
    unboundFault (room + 1) (.int n) c = .integerTooLong Text.numeralLimit := by
  rw [unboundFault, Diagnostic.unboundReference, Value.displayed_of_unprintable h]
  rfl

/-- A reference is made by any value. A list cannot be looked up, and an integer of 4301 digits
cannot be written in the message that it is not bound. Either is found out only when the reference
is applied, and the fault is neither the recursion limit nor an unbound name. -/
theorem run_fault_strangeNames :
    let scope := (Workspace.initial (fun _ => none) "grammar" "table").scope
    let p := Parser.reference 1 (.list [.int 1])
    let q := Parser.reference 1 (.int Store.unprintable)
    (scope.Everywhere (·.isPlain = true) p ∧ p.FormatsCleanly scope recursionLimit (.start "x") {} ∧
      ∃ f, (p.run scope recursionLimit (.start "x") {}).outcome = .fault f ∧
        f.kind = .wrongType ∧ f ≠ .recursionLimit ∧
        ∀ name notice, f ≠ .misuse (.unbound name) notice) ∧
    scope.Everywhere (·.isPlain = true) q ∧ q.FormatsCleanly scope recursionLimit (.start "x") {} ∧
      ∃ f, (q.run scope recursionLimit (.start "x") {}).outcome = .fault f ∧
        f.kind = .wrongValue ∧ f ≠ .recursionLimit ∧
        ∀ name notice, f ≠ .misuse (.unbound name) notice := by
  intro scope p q
  have hplain (name : Value) : scope.Everywhere (·.isPlain = true) (.reference 1 name) := by
    refine Scope.everywhere_of_subtrees ?_ fun _ _ r hr => ?_
    · simp [Parser.subtrees, Parser.isPlain]
    · have hmem := (Workspace.scope_eq_some hr).2
      simp [Workspace.initial, Registry.entries] at hmem
  have hlong : Parser.unboundFault 999 (.int Store.unprintable) (.start "x") =
      .integerTooLong Text.numeralLimit :=
    Parser.unboundFault_of_unprintable (Int.natAbs_natCast _).ge 998 _
  have hrun (n : Int) : (Parser.reference 1 (.int n)).run scope recursionLimit (.start "x") {} =
      ⟨[], .fault (Parser.unboundFault 999 (.int n) (.start "x")), {}⟩ := rfl
  have hclean (n : Int) :
      (Parser.reference 1 (.int n)).FormatsCleanly scope recursionLimit (.start "x") {} := rfl
  have hcleanList : p.FormatsCleanly scope recursionLimit (.start "x") {} :=
    Eq.trans (b := ([], .fault (.notKey "list"))) rfl rfl
  refine ⟨⟨hplain _, hcleanList, .notKey "list", rfl, rfl, ?_, ?_⟩, hplain _, hclean _,
    .integerTooLong Text.numeralLimit, ?_, rfl, ?_, ?_⟩
  · rintro ⟨⟩
  · rintro name notice ⟨⟩
  · rw [hrun, hlong]
  · rintro ⟨⟩
  · rintro name notice ⟨⟩

end GrammarKit
