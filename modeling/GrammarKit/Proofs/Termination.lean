import GrammarKit.Proofs.Adequacy
import GrammarKit.Proofs.LeftCalls
import GrammarKit.Proofs.Limits
import GrammarKit.Proofs.Reformatting

/-!
# Termination

A parser whose grammar is not left-recursive ends at every cursor. Whatever it applies is applied
where less of the source is left, or is one step further in a chain of applications at one cursor,
and such chains come to an end.

* `Scope.Raises`, `Scope.CanRaise` — a formatter that the parser reaches ends with a fault, with all
  room or with some;
* `Settles` — a task has an outcome from every store, and only a formatter makes it a fault;
* `settles_apply` — the parsers of a grammar without left recursion settle;
* `Scope.Grounded.mapFormat` — left recursion has nothing to do with formatters;
* `exists_limit_of_formatsCleanly` — so a run in which no formatter fails matches or mismatches;
* `Workspace.scope_hasFinitelyManyRules` — registries bind finitely many rules;
* `run_terminates` — under large recursion limits the runs of such a parser end alike.
-/

namespace GrammarKit

variable {scope : Scope} {root : Parser}

/-- A formatter that `p` reaches ends with the fault `f` on some tagged value, however much room it
has. -/
def Scope.Raises (scope : Scope) (p : Parser) (f : Fault) : Prop :=
  ∃ q format tag payload s, scope.Reaches p q ∧ q.format? = some format ∧
    ∀ᶠ room in Filter.atTop, (format.within room (.tagged tag payload) s).result = .error f

/-- A formatter that `p` reaches can end with the fault `f` on a tagged value, with some room. -/
def Scope.CanRaise (scope : Scope) (p : Parser) (f : Fault) : Prop :=
  ∃ q format room tag payload s, scope.Reaches p q ∧ q.format? = some format ∧
    (format.within room (.tagged tag payload) s).result = .error f

/-- A fault that has nothing to do with the room is raised with more room, too. -/
theorem Scope.CanRaise.raises {p : Parser} {f : Fault} (h : scope.CanRaise p f)
    (hf : f ≠ .recursionLimit) : scope.Raises p f := by
  obtain ⟨q, format, room, tag, payload, s, hq, hformat, hraise⟩ := h
  refine ⟨q, format, tag, payload, s, hq, hformat, ?_⟩
  filter_upwards [Filter.eventually_ge_atTop room] with room' hle
  rcases format.stable hle (.tagged tag payload) s with hexhausted | hsame
  · cases hexhausted.symm.trans hraise
    exact absurd rfl hf
  · exact hsame ▸ hraise

/-- A reference finds a rule, by a name that can be looked up. -/
def Parser.IsBound (scope : Scope) (q : Parser) : Prop :=
  ∀ registry name, q = .reference registry name →
    name.keyObstacle? = none ∧ ∃ target, scope registry name = some target

/-- From every store the task has an outcome, and only a formatter that `root` reaches makes it a
fault. -/
def Settles (scope : Scope) (root : Parser) (t : Task) (c : Cursor) : Prop :=
  ∀ s, ∃ o s', Derives scope t c s o s' ∧ ∀ f, o = .fault f → scope.Raises root f

theorem settled_of_mismatch {t : Task} {c : Cursor} {s s' : Store}
    (h : Derives scope t c s .mismatch s') :
    ∃ o s', Derives scope t c s o s' ∧ ∀ f, o = .fault f → scope.Raises root f := by
  refine ⟨_, _, h, ?_⟩
  rintro f ⟨⟩

/-- With room enough a formatter has an outcome. -/
theorem exists_shapes {q : Parser} {format : Formatter} (hq : scope.Reaches root q)
    (hformat : q.format? = some format) (tag : Tag) (payload : Value) (rest : Cursor) (s : Store) :
    ∃ o s', Shapes format tag payload rest s o s' ∧ ∀ f, o = .fault f → scope.Raises root f := by
  obtain ⟨enough, henough⟩ := format.settles (.tagged tag payload) s
  have hsettled : ∀ᶠ room in Filter.atTop, format.within room (.tagged tag payload) s =
      format.within enough (.tagged tag payload) s := Filter.eventually_atTop.2 ⟨enough, henough⟩
  cases h : (format.within enough (.tagged tag payload) s).result with
  | ok v =>
    exact ⟨_, _, hsettled.mono fun _ => (Formatting.Shapes.value h).congr, nofun⟩
  | error f =>
    refine ⟨_, _, hsettled.mono fun _ => (Formatting.Shapes.raise h).congr, ?_⟩
    rintro _ ⟨rfl⟩
    exact ⟨q, format, tag, payload, s, hq, hformat, hsettled.mono fun room hroom => hroom ▸ h⟩

/-- A row settles if each child settles wherever it can be applied: at the cursor itself only after
children that may match nothing, and where less of the source is left. -/
theorem settles_row {q : Parser} {children : List Parser} {format : Formatter}
    {values : List Value} {c : Cursor} (hq : scope.Reaches root q)
    (hformat : q.format? = some format)
    (hhere : ∀ before r after, children = before ++ r :: after →
      (∀ p ∈ before, Nullable scope p) → Settles scope root (.apply r) c)
    (hlater : ∀ r ∈ children, ∀ d : Cursor, d.remaining < c.remaining →
      Settles scope root (.apply r) d) :
    Settles scope root (.row children format values) c := by
  induction children generalizing values c with
  | nil =>
    intro s
    obtain ⟨o, s', hshape, hfault⟩ := exists_shapes hq hformat .sequence (.list values) c s
    exact ⟨o, s', .rowEnd hshape, hfault⟩
  | cons r children ih =>
    intro s
    obtain ⟨o, s₁, h, hfault⟩ := hhere [] r children rfl (fun _ hp => absurd hp List.not_mem_nil) s
    cases o with
    | matched v rest =>
      have hothers : Settles scope root (.row children format (values ++ [v])) rest := by
        by_cases hpos : rest.pos = c.pos
        · obtain rfl := (h.before rfl).eq_of_pos hpos
          have hnull : Nullable scope r := h.nullable rfl rfl
          refine ih (fun before p after heq hbefore => ?_)
            fun p hp => hlater p (List.mem_cons_of_mem _ hp)
          exact hhere (r :: before) p after (congrArg (r :: ·) heq)
            (List.forall_mem_cons.2 ⟨hnull, hbefore⟩)
        · have hless := (h.before rfl).remaining_lt hpos
          refine ih (fun before p after heq _ => ?_)
            fun p hp d hd => hlater p (List.mem_cons_of_mem _ hp) d (hd.trans hless)
          have hp : p ∈ children := heq ▸ List.mem_append_right _ (List.mem_cons_self ..)
          exact hlater p (List.mem_cons_of_mem _ hp) rest hless
      obtain ⟨o, s', hnext, hfault⟩ := hothers s₁
      exact ⟨o, s', .rowNext h hnext, hfault⟩
    | mismatch => exact settled_of_mismatch (.rowMiss h)
    | fault f => exact ⟨_, _, .rowRaise h, hfault⟩

theorem settles_choice {q : Parser} {children : List Parser} {format : Formatter} {c : Cursor}
    (hq : scope.Reaches root q) (hformat : q.format? = some format)
    (hhere : ∀ r ∈ children, Settles scope root (.apply r) c) :
    Settles scope root (.choice children format) c := by
  induction children with
  | nil => exact fun s => settled_of_mismatch .choiceEnd
  | cons r children ih =>
    intro s
    obtain ⟨o, s₁, h, hfault⟩ := hhere r (List.mem_cons_self ..) s
    cases o with
    | matched v rest =>
      obtain ⟨o, s', hshape, hfault⟩ := exists_shapes hq hformat .alternation v rest s₁
      exact ⟨o, s', .choiceMatch h hshape, hfault⟩
    | mismatch =>
      obtain ⟨o, s', hnext, hfault⟩ := ih (fun p hp => hhere p (List.mem_cons_of_mem _ hp)) s₁
      exact ⟨o, s', .choiceNext h hnext, hfault⟩
    | fault f => exact ⟨_, _, .choiceRaise h, hfault⟩

/-- A repetition settles if its child settles at the cursor and where less is left: it goes on only
after a match that has moved. -/
theorem settles_loop {q child : Parser} {minimum : Nat} {format : Formatter} {values : List Value}
    {c : Cursor} (hq : scope.Reaches root q) (hformat : q.format? = some format)
    (hchild : ∀ d : Cursor, d = c ∨ d.remaining < c.remaining →
      Settles scope root (.apply child) d) :
    Settles scope root (.loop child minimum format values) c := by
  induction hn : c.remaining using Nat.strong_induction_on generalizing c values with
  | _ n ih =>
    intro s
    obtain ⟨o, s₁, h, hfault⟩ := hchild c (Or.inl rfl) s
    cases o with
    | matched v rest =>
      by_cases hpos : rest.pos = c.pos
      · obtain ⟨o, s', hshape, hfault⟩ :=
          exists_shapes hq hformat .repetition (.list (values ++ [v])) c s₁
        exact ⟨o, s', .loopZero h hpos hshape, hfault⟩
      · have hless := (h.before rfl).remaining_lt hpos
        have hothers : Settles scope root (.loop child minimum format (values ++ [v])) rest := by
          refine ih rest.remaining (hn ▸ hless) (fun d hd => hchild d (Or.inr ?_)) rfl
          rcases hd with rfl | hd
          · exact hless
          · exact hd.trans hless
        obtain ⟨o, s', hnext, hfault⟩ := hothers s₁
        exact ⟨o, s', .loopNext h hpos hnext, hfault⟩
    | mismatch =>
      by_cases hmin : minimum ≤ values.length
      · obtain ⟨o, s', hshape, hfault⟩ :=
          exists_shapes hq hformat .repetition (.list values) c s₁
        exact ⟨o, s', .loopEnd h hmin hshape, hfault⟩
      · exact settled_of_mismatch (.loopShort h (Nat.lt_of_not_le hmin))
    | fault f => exact ⟨_, _, .loopRaise h, hfault⟩

/-- A parser settles where its parts and the rule that it refers to do: those that it may apply at
the cursor there, and all of them where less of the source is left. -/
theorem settles_of_enters {q : Parser} {c : Cursor} (hq : scope.Reaches root q)
    (hplain : q.isPlain = true) (hbound : q.IsBound scope)
    (hhere : ∀ r, scope.Enters q r → Settles scope root (.apply r) c)
    (hlater : ∀ r ∈ q.parts, ∀ d : Cursor, d.remaining < c.remaining →
      Settles scope root (.apply r) d) : Settles scope root (.apply q) c := by
  cases q with
  | literal text format =>
    intro s
    by_cases hahead : c.peek text.size = text.chars.toList
    · obtain ⟨o, s', hshape, hfault⟩ :=
        exists_shapes hq rfl .literal (.text text.text) (c.forward text.size) s
      exact ⟨o, s', .literal hahead hshape, hfault⟩
    · exact settled_of_mismatch (.literalMiss hahead)
  | charClass cls format =>
    intro s
    by_cases hin : ∃ char, c.next? = some char ∧ cls.contains char = true
    · obtain ⟨char, hnext, hin⟩ := hin
      obtain ⟨o, s', hshape, hfault⟩ :=
        exists_shapes hq rfl .charClass (.text (String.singleton char)) (c.forward 1) s
      exact ⟨o, s', .charClass hnext hin hshape, hfault⟩
    · refine settled_of_mismatch (.charClassMiss fun char hnext => ?_)
      exact Bool.eq_false_iff.2 fun h => hin ⟨char, hnext, h⟩
  | sequence children format =>
    intro s
    have hrow : Settles scope root (.row children format []) c := by
      refine settles_row hq rfl (fun before r after heq hbefore => ?_) hlater
      subst heq
      exact hhere r (.part (.sequence hbefore))
    obtain ⟨o, s', h, hfault⟩ := hrow s
    exact ⟨o, s', .sequence h, hfault⟩
  | alternation children format =>
    intro s
    obtain ⟨o, s', h, hfault⟩ :=
      settles_choice hq rfl (fun r hr => hhere r (.part (.alternation hr))) s
    exact ⟨o, s', .alternation h, hfault⟩
  | optional child format =>
    intro s
    obtain ⟨o, s₁, h, hfault⟩ := hhere child (.part .optional) s
    cases o with
    | matched v rest =>
      obtain ⟨o, s', hshape, hfault⟩ := exists_shapes hq rfl .optional v rest s₁
      exact ⟨o, s', .optionalMatch h hshape, hfault⟩
    | mismatch =>
      obtain ⟨o, s', hshape, hfault⟩ := exists_shapes hq rfl .optional .absent c s₁
      exact ⟨o, s', .optionalMiss h hshape, hfault⟩
    | fault f => exact ⟨_, _, .optionalRaise h, hfault⟩
  | repetition child minimum format =>
    intro s
    have hloop : Settles scope root (.loop child minimum format []) c := by
      refine settles_loop hq rfl fun d hd => ?_
      rcases hd with rfl | hd
      · exact hhere child (.part .repetition)
      · exact hlater child (List.mem_singleton_self _) d hd
    obtain ⟨o, s', h, hfault⟩ := hloop s
    exact ⟨o, s', .repetition h, hfault⟩
  | reference registry name =>
    intro s
    obtain ⟨hkey, target, htarget⟩ := hbound registry name rfl
    obtain ⟨o, s', h, hfault⟩ := hhere target (.rule htarget) s
    exact ⟨o, s', .reference hkey htarget h, hfault⟩
  | leaf _ => cases hplain
  | custom _ => cases hplain
  | probe _ _ => cases hplain
  | inert _ => cases hplain

/-- The induction goes over what is left of the source, and at one cursor over the applications
there. -/
theorem settles_apply
    (hparser : scope.Everywhere (fun q => q.isPlain = true ∧ q.IsBound scope) root)
    (hgrounded : scope.Everywhere scope.Grounded root) {q : Parser} (hq : scope.Reaches root q)
    (c : Cursor) : Settles scope root (.apply q) c := by
  induction hn : c.remaining using Nat.strong_induction_on generalizing c q with
  | _ n ihless =>
    have hless : ∀ r, scope.Reaches root r → ∀ d : Cursor, d.remaining < c.remaining →
        Settles scope root (.apply r) d :=
      fun r hr d hd => ihless d.remaining (hn ▸ hd) hr d rfl
    induction hgrounded q hq with
    | intro q _ ih =>
      obtain ⟨hplain, hbound⟩ := hparser q hq
      refine settles_of_enters hq hplain hbound (fun r hr => ih r hr ?_)
        fun r hr => hless r (hq.part hr)
      cases hr with
      | part hpart => exact hq.part hpart.mem_parts
      | rule hrule => exact hq.rule hrule

/-! ### Runs in which no formatter fails -/

section Formatters

variable {f : Formatter → Formatter} {p r : Parser}

/-- Whether a parser may match nothing has nothing to do with formatters. -/
theorem Nullable.of_mapFormat (h : Nullable (scope.mapFormat f) (p.mapFormat f)) :
    Nullable scope p := by
  generalize hr : p.mapFormat f = r at h
  induction h generalizing p with
  | literal htext =>
    cases p <;> cases hr
    exact .literal htext
  | sequence _ ih =>
    cases p <;> cases hr
    rw [Parser.mapFormatIn_eq] at ih
    exact .sequence fun child hchild => ih _ (List.mem_map_of_mem hchild) rfl
  | alternation hmem _ ih =>
    cases p <;> cases hr
    rw [Parser.mapFormatIn_eq] at hmem
    obtain ⟨child, hchild, hmap⟩ := List.mem_map.1 hmem
    exact .alternation hchild (ih hmap)
  | optional =>
    cases p <;> cases hr
    exact .optional
  | repetitionZero =>
    cases p <;> cases hr
    exact .repetitionZero
  | repetition _ ih =>
    cases p <;> cases hr
    exact .repetition (ih rfl)
  | reference hbound _ ih =>
    obtain rfl := (Parser.mapFormat_eq_reference f).1 hr
    obtain ⟨target, htarget, rfl⟩ := Option.map_eq_some_iff.1 hbound
    exact .reference htarget (ih rfl)

theorem Parser.eq_sequence_of_mapFormat {children : List Parser} {format : Formatter}
    (h : p.mapFormat f = .sequence children format) :
    ∃ children' format', p = .sequence children' format' ∧
      children'.map (Parser.mapFormat f) = children := by
  cases p <;> cases h
  exact ⟨_, _, rfl, (Parser.mapFormatIn_eq ..).symm⟩

/-- What is applied at the same cursor with other formatters is a parser with other formatters. -/
theorem Scope.Enters.exists_of_mapFormat (h : (scope.mapFormat f).Enters (p.mapFormat f) r) :
    ∃ q, scope.Enters p q ∧ q.mapFormat f = r := by
  generalize hp : p.mapFormat f = p' at h
  cases h with
  | part hpart =>
    cases hpart with
    | @sequence before after _ _ hbefore =>
      obtain ⟨children, _, rfl, hmap⟩ := Parser.eq_sequence_of_mapFormat hp
      obtain ⟨first, others, rfl, rfl, hothers⟩ := List.map_eq_append_iff.1 hmap
      obtain ⟨q, last, rfl, rfl, -⟩ := List.map_eq_cons_iff.1 hothers
      refine ⟨q, .part (.sequence fun r hr => ?_), rfl⟩
      exact (hbefore _ (List.mem_map_of_mem hr)).of_mapFormat
    | alternation hmem =>
      cases p <;> cases hp
      rw [Parser.mapFormatIn_eq] at hmem
      obtain ⟨q, hq, rfl⟩ := List.mem_map.1 hmem
      exact ⟨q, .part (.alternation hq), rfl⟩
    | optional =>
      cases p <;> cases hp
      exact ⟨_, .part .optional, rfl⟩
    | repetition =>
      cases p <;> cases hp
      exact ⟨_, .part .repetition, rfl⟩
  | rule hrule =>
    obtain rfl := (Parser.mapFormat_eq_reference f).1 hp
    obtain ⟨target, htarget, rfl⟩ := Option.map_eq_some_iff.1 hrule
    exact ⟨target, .rule htarget, rfl⟩

theorem Scope.Grounded.mapFormat (h : scope.Grounded p) :
    (scope.mapFormat f).Grounded (p.mapFormat f) := by
  induction h with
  | intro p _ ih =>
    refine .intro _ fun r hr => ?_
    obtain ⟨q, hq, rfl⟩ := hr.exists_of_mapFormat
    exact ih q hq

/-- Whether references find rules has nothing to do with formatters. -/
theorem Parser.IsBound.mapFormat (h : p.IsBound scope) :
    (p.mapFormat f).IsBound (scope.mapFormat f) := by
  intro registry name hname
  obtain rfl := (Parser.mapFormat_eq_reference f).1 hname
  obtain ⟨hkey, target, htarget⟩ := h registry name rfl
  exact ⟨hkey, target.mapFormat f, Option.map_eq_some_iff.2 ⟨target, htarget, rfl⟩⟩

end Formatters

theorem Parser.isBlind_of_isPlain {p : Parser} (h : p.isPlain = true) : p.IsBlind := by
  rintro matcher rfl
  cases h

/-- Without formatters, none fails. -/
theorem Scope.not_raises_unformatted {f : Fault} :
    ¬ scope.unformatted.Raises root.unformatted f := by
  rintro ⟨r, format, tag, payload, s, hr, hformat, hraise⟩
  obtain ⟨q, -, rfl⟩ := reaches_mapFormat_iff.1 hr
  rw [Parser.format?_mapFormat] at hformat
  obtain ⟨_, -, rfl⟩ := Option.map_eq_some_iff.1 hformat
  obtain ⟨room, hroom⟩ := hraise.exists
  cases hroom

/-- An application in which no formatter fails looks like one without formatters, and that ends with
a match or a mismatch once the recursion limit is large enough. -/
theorem exists_limit_of_formatsCleanly
    (hparser : scope.Everywhere (fun q => q.isPlain = true ∧ q.IsBound scope) root)
    (hgrounded : scope.Everywhere scope.Grounded root) (c : Cursor) (s : Store) :
    ∃ L, ∀ limit, L ≤ limit → root.FormatsCleanly scope limit c s →
      ∀ f, (root.run scope limit c s).outcome ≠ .fault f := by
  have hparser' : scope.unformatted.Everywhere
      (fun q => q.isPlain = true ∧ q.IsBound scope.unformatted) root.unformatted := by
    intro r hr
    obtain ⟨q, hq, rfl⟩ := Scope.reaches_mapFormat_iff.1 hr
    rw [Parser.isPlain_mapFormat]
    exact ⟨(hparser q hq).1, (hparser q hq).2.mapFormat⟩
  have hgrounded' : scope.unformatted.Everywhere scope.unformatted.Grounded root.unformatted := by
    intro r hr
    obtain ⟨q, hq, rfl⟩ := Scope.reaches_mapFormat_iff.1 hr
    exact (hgrounded q hq).mapFormat
  obtain ⟨o, s', h, hfault⟩ := settles_apply hparser' hgrounded' .self c s
  obtain ⟨L, hL⟩ := Filter.eventually_atTop.1 h.eventually_ends
  refine ⟨L, fun limit hle hclean f hf => ?_⟩
  have hlook := hclean.look_eq_unformatted
    (fun q hq => Parser.isBlind_of_isPlain (hparser q hq).1) s
  have hsame := (Report.fault_iff_of_look_eq hlook f).1 hf
  exact Scope.not_raises_unformatted (hfault f ((hL limit hle).1.symm.trans hsame))

/-! ### The rules of registries -/

theorem Workspace.scope_hasFinitelyManyRules (w : Workspace) : w.scope.HasFinitelyManyRules :=
  ⟨_, fun _ _ _ h => (scope_eq_some h).2⟩

/-- **Termination.** Let a parser reach plain parsers only, let all references that it reaches be
bound, and let no rule that it reaches left-call itself. Then at every cursor there is a recursion
limit from which on all runs end in the same way: a match, a mismatch, or the fault of a formatter.
The last is impossible if no formatter that is reached ever raises one, and also if no formatter
fails in one of these runs. -/
theorem run_terminates {w : Workspace} {p : Parser}
    (hplain : w.scope.Everywhere (·.isPlain = true) p)
    (hbound : ∀ registry name, w.scope.Reaches p (.reference registry name) →
      ∃ target, w.scope registry name = some target)
    (hleft : w.scope.NotLeftRecursive p) (c : Cursor) (s : Store) :
    ∃ L o s', (∀ limit, L ≤ limit → (p.run w.scope limit c).Ends s o s') ∧
      (∀ f, o = .fault f → w.scope.Raises p f) ∧
      ((∀ f, ¬ w.scope.Raises p f) → (∃ v rest, o = .matched v rest) ∨ o = .mismatch) ∧
      ((∃ limit, L ≤ limit ∧ p.FormatsCleanly w.scope limit c s) →
        (∃ v rest, o = .matched v rest) ∨ o = .mismatch) := by
  have hparser : w.scope.Everywhere (fun q => q.isPlain = true ∧ q.IsBound w.scope) p := by
    refine fun q hq => ⟨hplain q hq, ?_⟩
    rintro registry name rfl
    obtain ⟨target, htarget⟩ := hbound registry name hq
    exact ⟨(Workspace.scope_eq_some htarget).1, target, htarget⟩
  have hgrounded := hleft.grounded w.scope_hasFinitelyManyRules
  obtain ⟨o, s', h, hfault⟩ := settles_apply hparser hgrounded .self c s
  obtain ⟨L, hL⟩ := Filter.eventually_atTop.1 h.eventually_ends
  obtain ⟨L', hclean⟩ := exists_limit_of_formatsCleanly hparser hgrounded c s
  have hends : ∀ limit, max L L' ≤ limit → (p.run w.scope limit c).Ends s o s' :=
    fun limit hle => hL limit (Nat.max_le.1 hle).1
  have hno : (∀ f, o ≠ .fault f) → (∃ v rest, o = .matched v rest) ∨ o = .mismatch := by
    intro hno
    cases o with
    | matched v rest => exact Or.inl ⟨v, rest, rfl⟩
    | mismatch => exact Or.inr rfl
    | fault f => exact absurd rfl (hno f)
  refine ⟨max L L', o, s', hends, hfault, fun hnever => hno ?_, ?_⟩
  · exact fun f hf => hnever f (hfault f hf)
  · rintro ⟨limit, hle, hformats⟩
    refine hno fun f hf => hclean limit (Nat.max_le.1 hle).2 hformats f ?_
    exact (hends limit hle).1.trans hf

/-- If no formatter fails in an application that comes to an end, none does under a greater limit.
-/
theorem Parser.FormatsCleanly.of_le {p : Parser} {limit limit' : Nat} {c : Cursor} {s : Store}
    (h : p.FormatsCleanly scope limit c s) (hblind : scope.Everywhere Parser.IsBlind p)
    (hfinished : (p.run scope limit c s).outcome ≠ .fault .recursionLimit)
    (hle : limit ≤ limit') : p.FormatsCleanly scope limit' c s := by
  have hlook := h.look_eq_unformatted hblind s
  have hfinished' := (Report.fault_iff_of_look_eq hlook .recursionLimit).not.1 hfinished
  calc (p.run scope limit' c s).look
      = (p.run scope limit c s).look := by rw [run_extends scope p hle c s hfinished]
    _ = (p.unformatted.run scope.unformatted limit c s).look := hlook
    _ = (p.unformatted.run scope.unformatted limit' c s).look := by
      rw [run_extends scope.unformatted p.unformatted hle c s hfinished']
    _ = (p.runBy Formatter.forgiving scope limit' c s).look :=
      (runBy_forgiving_alike hblind limit' c s s).symm

/-- Brackets around brackets, around a digit or nothing. -/
def brackets : Parser :=
  .alternation
    [.sequence
      [.literal "(" .identity, .reference 0 (.text "brackets"), .literal ")" .identity]
        .matchedText,
      .optional (.charClass ⟨false, [.range 0x30 0x39]⟩ .unwrap) .identity] .unwrap

/-- A workspace with brackets as its only rule. -/
def bracketWorkspace : Workspace where
  registries := #[.grammar { rules := [("brackets", ⟨0, brackets⟩)] }]
  names := []

theorem scope_bracketWorkspace {registry : RegistryId} {name : Value} {target : Parser}
    (h : bracketWorkspace.scope registry name = some target) : target = brackets := by
  simpa [bracketWorkspace, Registry.entries] using (Workspace.scope_eq_some h).2

/-- The bracket that opens a body keeps it from calling itself at once. -/
theorem not_leftCalls_brackets (A B : RegistryId × Value) :
    ¬ bracketWorkspace.scope.LeftCalls A B := by
  rintro ⟨body, hbody, hpath⟩
  obtain rfl := scope_bracketWorkspace hbody
  -- What the body applies first is a subtree of it with a formatter, which a reference has not.
  have hfirst : ∀ q, Relation.ReflTransGen (LeftPart bracketWorkspace.scope) brackets q →
      q ∈ brackets.subtrees ∧ q.format?.isSome = true := by
    intro q hq
    induction hq with
    | refl => exact ⟨brackets.self_mem_subtrees, rfl⟩
    | @tail q r _ hpart ih =>
      refine ⟨Parser.mem_subtrees_of_mem_parts ih.1 hpart.mem_parts, ?_⟩
      have hmem := ih.1
      simp only [brackets, Parser.subtrees, Parser.subtreesIn, List.cons_append, List.nil_append,
        List.append_nil, List.mem_cons, List.not_mem_nil, or_false] at hmem
      cases hpart with
      | @sequence before after _ _ hbefore =>
        simp only [reduceCtorEq, false_or, or_false, Parser.sequence.injEq] at hmem
        cases before with
        | nil =>
          obtain rfl := (List.cons.inj hmem.1).1
          rfl
        | cons first before =>
          have hopen := hbefore first (List.mem_cons_self ..)
          obtain rfl := (List.cons.inj hmem.1).1
          cases hopen with
          | literal hempty => exact absurd hempty (by decide)
      | alternation hr =>
        simp only [reduceCtorEq, or_false, Parser.alternation.injEq] at hmem
        rw [hmem.1, List.mem_cons, List.mem_singleton] at hr
        rcases hr with rfl | rfl
        · rfl
        · rfl
      | optional =>
        simp only [reduceCtorEq, false_or, or_false, Parser.optional.injEq] at hmem
        obtain rfl := hmem.1
        rfl
      | repetition => simp only [reduceCtorEq, or_false] at hmem
  cases (hfirst _ hpath).2

/-- Brackets in a row, and the text of them all. -/
def bracketTexts : Parser := .repetition (.reference 0 (.text "brackets")) 2 .matchedText

theorem run_terminates_brackets :
    ∃ L o s', (∀ limit, L ≤ limit →
        (bracketTexts.run bracketWorkspace.scope limit (.start "((7))()")).Ends {} o s') ∧
      ((∃ v rest, o = .matched v rest) ∨ o = .mismatch) := by
  let P (q : Parser) : Prop := q.isPlain = true ∧
    (∀ registry name, q = .reference registry name → registry = 0 ∧ name = .text "brackets")
  have hbody : ∀ q ∈ brackets.subtrees, P q := by
    simp [brackets, Parser.subtrees, Parser.subtreesIn, P, Parser.isPlain]
  have hall : bracketWorkspace.scope.Everywhere P bracketTexts := by
    refine Scope.everywhere_of_subtrees ?_ fun _ _ r hr => scope_bracketWorkspace hr ▸ hbody
    simp [bracketTexts, Parser.subtrees, P, Parser.isPlain]
  have hbound : ∀ registry name,
      bracketWorkspace.scope.Reaches bracketTexts (.reference registry name) →
      ∃ target, bracketWorkspace.scope registry name = some target := by
    intro registry name hreach
    obtain ⟨rfl, rfl⟩ := (hall _ hreach).2 registry name rfl
    exact ⟨brackets, rfl⟩
  have hleft : bracketWorkspace.scope.NotLeftRecursive bracketTexts := by
    intro A _ hcycle
    obtain ⟨B, hcall, -⟩ := Relation.TransGen.head'_iff.1 hcycle
    exact not_leftCalls_brackets A B hcall
  obtain ⟨L, o, s', hends, -, -, hmatch⟩ :=
    run_terminates (fun q hq => (hall q hq).1) hbound hleft (.start "((7))()") {}
  refine ⟨L, o, s', hends, hmatch ⟨max 30 L, Nat.le_max_right .., ?_⟩⟩
  -- A matched text can fail on other values, but under a limit of 30 none fails here.
  have hclean : bracketTexts.FormatsCleanly bracketWorkspace.scope 30 (.start "((7))()") {} :=
    Eq.trans (b := ([.zeroWidth 7 3], .matched () ((Cursor.start "((7))()").forward 7))) rfl rfl
  have hfinished : (bracketTexts.run bracketWorkspace.scope 30 (.start "((7))()") {}).outcome ≠
      .fault .recursionLimit := by
    obtain ⟨v, rest, hrun⟩ : ∃ v rest,
        (bracketTexts.run bracketWorkspace.scope 30 (.start "((7))()") {}).outcome =
          .matched v rest := ⟨_, _, rfl⟩
    rw [hrun]
    rintro ⟨⟩
  exact hclean.of_le (fun q hq => Parser.isBlind_of_isPlain (hall q hq).1) hfinished
    (Nat.le_max_left ..)

end GrammarKit
