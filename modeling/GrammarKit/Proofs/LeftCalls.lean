import GrammarKit.Proofs.Chains
import GrammarKit.Proofs.Derivation

/-!
# Left calls

A parser that is applied may apply others before anything is consumed, and these others again. A
grammar in which no rule can come back to itself in this way is not left-recursive.

* `Nullable` — the parsers that may match nothing, judged by their form;
* `Derives.nullable` — only they match without moving;
* `LeftPart` — a part that may be applied where the parser is;
* `Scope.LeftCalls` — a rule that may be applied where another is;
* `Scope.NotLeftRecursive` — no rule that can be reached left-calls itself, however indirectly;
* `Scope.Grounded` — no endless chain of applications at one cursor begins with the parser;
* `Scope.NotLeftRecursive.grounded` — with finitely many rules, there is no such chain.
-/

namespace GrammarKit

variable {scope : Scope}

/-! ### Matches of nothing -/

/-- The parser may match nothing, judged by its form. -/
inductive Nullable (scope : Scope) : Parser → Prop
  | literal {text format} (h : text.text = "") : Nullable scope (.literal text format)
  | sequence {children format} (h : ∀ child ∈ children, Nullable scope child) :
      Nullable scope (.sequence children format)
  | alternation {child children format} (hmem : child ∈ children) (h : Nullable scope child) :
      Nullable scope (.alternation children format)
  | optional {child format} : Nullable scope (.optional child format)
  | repetitionZero {child format} : Nullable scope (.repetition child 0 format)
  | repetition {child minimum format} (h : Nullable scope child) :
      Nullable scope (.repetition child minimum format)
  | reference {registry name target} (hbound : scope registry name = some target)
      (h : Nullable scope target) : Nullable scope (.reference registry name)

/-- What a task needs for a match that does not move. A repetition needs enough values, or a child
that gives them without moving. -/
def Task.Nullable (scope : Scope) : Task → Prop
  | apply p => GrammarKit.Nullable scope p
  | row children _ _ => ∀ child ∈ children, GrammarKit.Nullable scope child
  | choice children _ => ∃ child ∈ children, GrammarKit.Nullable scope child
  | loop child minimum _ values => minimum ≤ values.length ∨ GrammarKit.Nullable scope child

/-- A text that is ahead and does not move the cursor is empty. -/
theorem IndexedText.eq_empty_of_peek {text : IndexedText} {c : Cursor}
    (hahead : c.peek text.size = text.chars.toList) (hpos : (c.forward text.size).pos = c.pos) :
    text.text = "" := by
  have hsize := congrArg List.length hahead
  have hle := c.pos_le
  rw [Cursor.peek_eq_take, List.length_take, List.length_drop, Array.length_toList,
    Array.length_toList, text.size_chars, c.source.size_chars] at hsize
  rw [Cursor.forward_pos] at hpos
  have hzero : text.text.length = 0 := by
    change text.size = 0
    omega
  exact String.length_eq_zero_iff.1 hzero

/-- **A match that does not move is one of a parser that may match nothing.** -/
theorem Derives.nullable {t : Task} {c rest : Cursor} {s s' : Store} {o : Outcome Value} {v : Value}
    (h : Derives scope t c s o s') (ho : o = .matched v rest) (hpos : rest.pos = c.pos) :
    t.Nullable scope := by
  induction h generalizing v rest with
  | literal hahead hshape =>
    subst ho
    obtain rfl := hshape.rest_eq
    exact .literal (IndexedText.eq_empty_of_peek hahead hpos)
  | @charClass cls format c s o s' char hnext _ hshape =>
    subst ho
    obtain rfl := hshape.rest_eq
    obtain ⟨hlt, -⟩ := Array.getElem?_eq_some_iff.1 hnext
    rw [c.source.size_chars] at hlt
    rw [Cursor.forward_pos] at hpos
    omega
  | sequence _ ih => exact .sequence (ih ho hpos)
  | rowEnd => exact fun _ hmem => absurd hmem List.not_mem_nil
  | rowNext h hnext ih ihnext =>
    -- Neither the first child nor the others can have moved.
    have hfirst := h.before rfl
    have hothers := hnext.before ho
    have hstay := Nat.le_antisymm (hpos ▸ hothers.2) hfirst.2
    exact List.forall_mem_cons.2 ⟨ih rfl hstay, ihnext ho (hpos.trans hstay.symm)⟩
  | alternation _ ih =>
    obtain ⟨child, hmem, hchild⟩ := ih ho hpos
    exact .alternation hmem hchild
  | choiceMatch _ hshape ih =>
    subst ho
    obtain rfl := hshape.rest_eq
    exact ⟨_, List.mem_cons_self .., ih rfl hpos⟩
  | choiceNext _ _ _ ihnext =>
    obtain ⟨child, hmem, hchild⟩ := ihnext ho hpos
    exact ⟨child, List.mem_cons_of_mem _ hmem, hchild⟩
  | optionalMatch | optionalMiss => exact .optional
  | @repetition _ minimum _ _ _ _ _ _ ih =>
    rcases ih ho hpos with hmin | hchild
    · obtain rfl := Nat.le_zero.1 hmin
      exact .repetitionZero
    · exact .repetition hchild
  | loopEnd _ hmin => exact Or.inl hmin
  | loopZero _ hzero _ ih => exact Or.inr (ih rfl hzero)
  | loopNext h hmove hnext =>
    have hfirst := h.before rfl
    have hothers := hnext.before ho
    exact absurd (Nat.le_antisymm (hpos ▸ hothers.2) hfirst.2) hmove
  | reference _ hbound _ ih => exact .reference hbound (ih ho hpos)
  | literalMiss | charClassMiss | rowMiss | choiceEnd | loopShort => cases ho
  | rowRaise | choiceRaise | optionalRaise | loopRaise | referenceMissing | referenceKey => cases ho

/-! ### Applications at one cursor -/

/-- The part `q` of a parser may be applied where the parser is. In a sequence, everything before it
may match nothing. -/
inductive LeftPart (scope : Scope) : Parser → Parser → Prop
  | sequence {before after : List Parser} {q format} (h : ∀ p ∈ before, Nullable scope p) :
      LeftPart scope (.sequence (before ++ q :: after) format) q
  | alternation {children : List Parser} {q format} (h : q ∈ children) :
      LeftPart scope (.alternation children format) q
  | optional {q format} : LeftPart scope (.optional q format) q
  | repetition {q minimum format} : LeftPart scope (.repetition q minimum format) q

theorem LeftPart.mem_parts {p q : Parser} (h : LeftPart scope p q) : q ∈ p.parts := by
  cases h with
  | sequence => exact List.mem_append_right _ (List.mem_cons_self ..)
  | alternation hmem => exact hmem
  | optional | repetition => exact List.mem_singleton_self _

namespace Scope

/-- The rule `A` left-calls the rule `B`: a reference to `B` may be applied where the body of `A`
is. A rule is given by its registry and its name. -/
def LeftCalls (scope : Scope) (A B : RegistryId × Value) : Prop :=
  ∃ body, scope A.1 A.2 = some body ∧
    Relation.ReflTransGen (LeftPart scope) body (.reference B.1 B.2)

/-- No rule that `p` reaches left-calls itself, be it through others. -/
def NotLeftRecursive (scope : Scope) (p : Parser) : Prop :=
  ∀ A : RegistryId × Value, scope.Reaches p (.reference A.1 A.2) →
    ¬ Relation.TransGen scope.LeftCalls A A

/-- Applying `p` may lead to an application of `q` at the same cursor. -/
inductive Enters (scope : Scope) : Parser → Parser → Prop
  | part {p q} (h : LeftPart scope p q) : Enters scope p q
  | rule {registry name q} (h : scope registry name = some q) :
      Enters scope (.reference registry name) q

/-- No endless chain of applications at one cursor begins with the parser. -/
def Grounded (scope : Scope) (p : Parser) : Prop :=
  Acc (fun q p => scope.Enters p q) p

theorem Enters.leads {p q : Parser} (h : scope.Enters p q) :
    scope.Leads (LeftPart scope) p q := by
  cases h with
  | part hpart => exact .part hpart
  | rule hrule => exact .rule hrule

/-- **Without left recursion, applications at one cursor come to an end.** -/
theorem NotLeftRecursive.grounded {p : Parser} (h : scope.NotLeftRecursive p)
    (hrules : scope.HasFinitelyManyRules) : scope.Everywhere scope.Grounded p := by
  have hacyclic : scope.Acyclic (LeftPart scope) p := h
  intro q hq
  refine Subrelation.accessible (fun henters => henters.leads) ?_
  exact hacyclic.acc_leads (fun _ _ hpart => hpart.mem_parts) hrules q hq

end Scope

end GrammarKit
