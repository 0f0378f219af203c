import GrammarKit.Proofs.Reach
import Mathlib.Data.Fintype.Card
import Mathlib.Data.Set.Finite.List
import Mathlib.Logic.Relation

/-!
# Chains of applications

Applying a parser leads to applications of its parts, or of some of them, and applying a reference
leads to one of the rule that it finds. Parts get smaller all the way down, so an endless chain goes
from rule to rule for ever; if there are finitely many rules, one of them comes back to itself.

* `Scope.HasFinitelyManyRules` — there are finitely many rules;
* `Scope.Leads` — an application leads to another;
* `Scope.Calls` — the body of a rule leads to a reference to another rule;
* `Scope.Acyclic` — no rule that can be reached calls itself, however indirectly;
* `Scope.Acyclic.acc_leads` — with finitely many rules, every chain comes to an end.
-/

namespace GrammarKit.Scope

variable {scope : Scope} {part : Parser → Parser → Prop} {p : Parser}

/-- There are finitely many rules. -/
def HasFinitelyManyRules (scope : Scope) : Prop :=
  ∃ rules : List Parser, ∀ registry name r, scope registry name = some r → r ∈ rules

/-- What is reached are subtrees of the parser and of the rules, so it is finite. -/
theorem HasFinitelyManyRules.finite_reaches (hrules : scope.HasFinitelyManyRules) (p : Parser) :
    {q | scope.Reaches p q}.Finite := by
  obtain ⟨rules, hrules⟩ := hrules
  refine ((p :: rules).flatMap Parser.subtrees).finite_toSet.subset fun q hq => ?_
  simp only [Set.mem_ofPred_eq, List.mem_flatMap]
  induction hq with
  | self => exact ⟨p, List.mem_cons_self .., p.self_mem_subtrees⟩
  | part _ hr ih =>
    obtain ⟨rule, hmem, hq⟩ := ih
    exact ⟨rule, hmem, Parser.mem_subtrees_of_mem_parts hq hr⟩
  | @rule _ _ r _ hr => exact ⟨r, List.mem_cons_of_mem _ (hrules _ _ _ hr), r.self_mem_subtrees⟩

/-- The rules that can be reached, by registry and name. -/
abbrev ReachedRule (scope : Scope) (p : Parser) :=
  {A : RegistryId × Value // scope.Reaches p (.reference A.1 A.2)}

/-- An application of a parser leads to those of its parts of the given kind, and that of a
reference leads to that of the rule which it finds. -/
inductive Leads (scope : Scope) (part : Parser → Parser → Prop) : Parser → Parser → Prop
  | part {p q} (h : part p q) : Leads scope part p q
  | rule {registry name q} (h : scope registry name = some q) :
      Leads scope part (.reference registry name) q

/-- The rule `A` calls the rule `B`: from part to part of the given kind, the body of `A` leads to a
reference to `B`. A rule is given by its registry and its name. -/
def Calls (scope : Scope) (part : Parser → Parser → Prop) (A B : RegistryId × Value) : Prop :=
  ∃ body, scope A.1 A.2 = some body ∧ Relation.ReflTransGen part body (.reference B.1 B.2)

/-- No rule that `p` reaches calls itself, be it through others. -/
def Acyclic (scope : Scope) (part : Parser → Parser → Prop) (p : Parser) : Prop :=
  ∀ A : RegistryId × Value, scope.Reaches p (.reference A.1 A.2) →
    ¬ Relation.TransGen (scope.Calls part) A A

/-- A rule calls only what its references reach. -/
theorem Calls.reaches (hparts : ∀ q r, part q r → r ∈ q.parts) {A B : RegistryId × Value}
    (h : scope.Calls part A B) :
    scope.Reaches (.reference A.1 A.2) (.reference B.1 B.2) := by
  obtain ⟨body, hbody, hpath⟩ := h
  refine (Reaches.rule .self hbody).trans ?_
  generalize Parser.reference B.1 B.2 = target at hpath
  induction hpath with
  | refl => exact .self
  | tail _ hpart ih => exact ih.part (hparts _ _ hpart)

namespace Acyclic

/-- Without a cycle among finitely many rules, calls come to an end. -/
theorem wellFounded (h : scope.Acyclic part p) (hrules : scope.HasFinitelyManyRules) :
    WellFounded fun B A : scope.ReachedRule p => scope.Calls part A.1 B.1 := by
  let calls (B A : scope.ReachedRule p) : Prop := scope.Calls part A.1 B.1
  have hfinite : Finite {q // scope.Reaches p q} := hrules.finite_reaches p
  have : Finite (scope.ReachedRule p) := by
    refine Finite.of_injective (β := {q // scope.Reaches p q}) (fun A => ⟨_, A.2⟩) ?_
    rintro ⟨⟨_, _⟩, _⟩ ⟨⟨_, _⟩, _⟩ heq
    cases heq
    rfl
  have hirrefl : Std.Irrefl (Relation.TransGen calls) := by
    refine ⟨fun A hcycle => h A.1 A.2 ?_⟩
    exact Relation.transGen_swap.1 (hcycle.lift Subtype.val fun _ _ hcall => hcall)
  have hwell := Finite.wellFounded_of_trans_of_irrefl (Relation.TransGen calls)
  have hsub : Subrelation calls (Relation.TransGen calls) := fun hcall => .single hcall
  exact hsub.wf hwell

/-- Chains from a reference come to an end, because the calls of the rules that it reaches do. -/
theorem acc_leads_reference (hparts : ∀ q r, part q r → r ∈ q.parts) (h : scope.Acyclic part p)
    (hrules : scope.HasFinitelyManyRules) (A : scope.ReachedRule p) :
    Acc (fun r q => scope.Leads part q r) (.reference A.1.1 A.1.2) := by
  induction A using (h.wellFounded hrules).induction with
  | _ A ih =>
    refine Acc.intro _ fun body hbody => ?_
    rcases hbody with hpart | hbody
    · cases hparts _ _ hpart
    -- Inside the body of `A` the parts get smaller, until a call leads to another rule.
    have hinside : ∀ q, Relation.ReflTransGen part body q →
        Acc (fun r q => scope.Leads part q r) q := by
      intro q
      induction q using Parser.parts_induction with
      | step q ihq =>
        intro hpath
        refine Acc.intro _ fun r hr => ?_
        cases hr with
        | part hpart => exact ihq r (hparts _ _ hpart) (hpath.tail hpart)
        | @rule registry name _ hr =>
          have hcall : scope.Calls part A.1 (registry, name) := ⟨body, hbody, hpath⟩
          exact (ih ⟨(registry, name), A.2.trans (hcall.reaches hparts)⟩ hcall).inv (.rule hr)
    exact hinside body .refl

/-- **Without cycles, chains of applications come to an end.** -/
theorem acc_leads (hparts : ∀ q r, part q r → r ∈ q.parts) (h : scope.Acyclic part p)
    (hrules : scope.HasFinitelyManyRules) :
    scope.Everywhere (Acc fun r q => scope.Leads part q r) p := by
  intro q hq
  induction q using Parser.parts_induction with
  | step q ih =>
    refine Acc.intro _ fun r hr => ?_
    cases hr with
    | part hpart => exact ih r (hparts _ _ hpart) (hq.part (hparts _ _ hpart))
    | @rule registry name _ hr =>
      exact (h.acc_leads_reference hparts hrules ⟨(registry, name), hq⟩).inv (.rule hr)

end Acyclic

end GrammarKit.Scope
