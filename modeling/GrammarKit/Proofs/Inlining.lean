import GrammarKit.Proofs.Limits
import GrammarKit.Proofs.Memory

/-!
# Inlining

A reference stands for the rule that it finds. It may be replaced by this rule wherever it occurs,
inside another parser or inside a rule, even inside the very rule that it refers to: the value of a
match gets no tag, and one application less is nested. So whatever is matched without exhausting the
recursion limit is matched in the same way afterwards.

* `Scope.Inlines` — a parser with one of its references replaced by the rule;
* `Scope.InlinesRules` — rules with at most one reference replaced in each of them;
* `run_extends_of_inlines` — what has a reference replaced extends what has not, also where the
  rules have references replaced;
* `run_eq_of_inlines` — inlining in a parser, and in a rule that is bound again.
-/

namespace GrammarKit

/-- The second parser is the first one with one of its references replaced by the rule that the
reference finds. -/
inductive Scope.Inlines (scope : Scope) : Parser → Parser → Prop
  | reference {registry name rule} (h : scope registry name = some rule) :
      Inlines scope (.reference registry name) rule
  | sequence {before after p q format} (h : Inlines scope p q) :
      Inlines scope (.sequence (before ++ p :: after) format)
        (.sequence (before ++ q :: after) format)
  | alternation {before after p q format} (h : Inlines scope p q) :
      Inlines scope (.alternation (before ++ p :: after) format)
        (.alternation (before ++ q :: after) format)
  | optional {p q format} (h : Inlines scope p q) :
      Inlines scope (.optional p format) (.optional q format)
  | repetition {p q minimum format} (h : Inlines scope p q) :
      Inlines scope (.repetition p minimum format) (.repetition q minimum format)
  | probe {label p q} (h : Inlines scope p q) : Inlines scope (.probe label p) (.probe label q)

/-- The rules are the same, but for at most one reference in each of them, which is replaced by the
rule that it finds in the first scope. -/
def Scope.InlinesRules (scope scope' : Scope) : Prop :=
  ∀ registry name,
    Option.Rel (Relation.ReflGen scope.Inlines) (scope registry name) (scope' registry name)

theorem Matcher.Extends.trans {m₁ m₂ m₃ : Matcher} (h₁ : m₁.Extends m₂) (h₂ : m₂.Extends m₃) :
    m₁.Extends m₃ := by
  intro c s hlimit
  have heq := h₁ c s hlimit
  rw [h₂ c s (heq ▸ hlimit), heq]

/-- Of two rows that differ in one place, the runs agree if they do there. -/
theorem Comparison.forall₂_middle {K : Comparison} {apply apply' : Parser → Matcher}
    (hsame : ∀ r, K.Matchers (apply r) (apply' r)) {p q : Parser}
    (h : K.Matchers (apply p) (apply' q)) (before after : List Parser) :
    List.Forall₂ (fun r r' => K.Matchers (apply r) (apply' r')) (before ++ p :: after)
      (before ++ q :: after) :=
  List.rel_append (List.forall₂_same.2 fun r _ => hsame r)
    (.cons h (List.forall₂_same.2 fun r _ => hsame r))

variable {w w' : Workspace} {p q : Parser}

/-- **Inlining extends a matcher.** The induction is on the limit and goes over both scopes at once.
At the reference that is replaced, the rule is applied where one level less is used up. -/
theorem run_extends_of_inlines (hrules : w.scope.InlinesRules w'.scope)
    (h : Relation.ReflGen w.scope.Inlines p q) (limit : Nat) :
    (p.run w.scope limit).Extends (q.run w'.scope limit) := by
  rw [← Comparison.unlessExhausted_matchers_iff]
  induction limit generalizing p q with
  | zero => exact fun _ _ _ _ => Or.inl ⟨.recursionLimit, rfl, rfl⟩
  | succ limit ih =>
    have hsame (r : Parser) : Comparison.unlessExhausted.Matchers (r.run w.scope limit)
        (r.run w'.scope limit) := ih .refl
    have hformats (format : Formatter) : Comparison.unlessExhausted.Formats
        (format.within limit) (format.within limit) :=
      Comparison.same_formats_within (Or.inl rfl) format
    cases h with
    | refl =>
      rw [Parser.run_succ, Parser.run_succ]
      refine Comparison.same_matchers_layer (Or.inl rfl)
        (fun _ _ _ _ _ _ _ _ => trivial) (fun r _ => hsame r) fun registry name _ => ?_
      have hrule := hrules registry name
      generalize w.scope registry name = found, w'.scope registry name = found' at hrule
      cases hrule with
      | none => exact .none
      | some hrule => exact .some (ih hrule)
    | single h =>
      cases h with
      | reference hbound =>
        rw [Parser.run_reference_of_bound _ _ (Workspace.scope_eq_some hbound).1 hbound,
          Comparison.unlessExhausted_matchers_iff]
        exact (Comparison.unlessExhausted_matchers_iff.1 (hsame q)).trans
          (run_extends _ _ (Nat.le_succ limit))
      | sequence h =>
        exact Comparison.matchers_row (hformats _)
          (Comparison.forall₂_middle hsame (ih (.single h)) _ _) []
      | alternation h =>
        exact Comparison.matchers_alternation (hformats _)
          (Comparison.forall₂_middle hsame (ih (.single h)) _ _)
      | optional h => exact Comparison.matchers_optional (hformats _) (ih (.single h))
      | repetition h =>
        exact Comparison.matchers_repetition (hformats _) (ih (.single h))
          (Or.inl Comparison.same_keepsSize) _
      | probe h => exact Comparison.matchers_probe _ (ih (.single h))

/-- What is inlined, and into what, is more than a placeholder. -/
theorem Scope.Inlines.ne_null (h : w.scope.Inlines p q) : p ≠ .inert .null ∧ q ≠ .inert .null := by
  cases h with
  | reference hbound =>
    obtain ⟨_, _, _, _, _, hnull⟩ := Workspace.scope_eq_some_iff.1 hbound
    exact ⟨nofun, hnull⟩
  | sequence | alternation | optional | repetition | probe => exact ⟨nofun, nofun⟩

theorem Scope.rel_found (scope : Scope) (found : Option Parser) :
    Option.Rel (Relation.ReflGen scope.Inlines) found found := by
  cases found with
  | none => exact .none
  | some rule => exact .some .refl

theorem Scope.InlinesRules.refl (scope : Scope) : scope.InlinesRules scope :=
  fun registry name => scope.rel_found (scope registry name)

theorem Registry.binding?_congr {registry registry' : Registry} {name : Value}
    (h : registry'.get? name = registry.get? name) :
    registry'.binding? name = registry.binding? name := by
  rw [binding?, binding?, h]

/-- When a rule is bound again with one of its references replaced, no other rule changes. -/
theorem Workspace.inlinesRules_bind {id : RegistryId} {registry : Registry} {key : Value}
    {rule new : Rule} (hid : w.registries[id]? = some registry)
    (hrule : registry.get? key = .ok (some rule)) (h : w.scope.Inlines rule.parser new.parser) :
    w.scope.InlinesRules (w.setRegistry id (registry.apply (.bind key new)).state).scope := by
  intro id' name
  show Option.Rel _ (w.registries[id']?.bind _)
    ((w.setRegistry id _).registries[id']?.bind fun registry => registry.binding? name)
  rw [setRegistry_getElem? hid]
  by_cases heq : id = id'
  · subst heq
    rw [if_pos rfl, hid, Option.bind_some, Option.bind_some]
    rcases Registry.get?_apply_bind hrule new name with hsame | ⟨hold, hnew⟩
    · rw [Registry.binding?_congr hsame]
      exact w.scope.rel_found _
    · have hfinds : registry.binding? name = some rule.parser :=
        Registry.binding?_eq_some_iff.2 ⟨rule, hold, rfl, h.ne_null.1⟩
      have hfinds' : (registry.apply (.bind key new)).state.binding? name = some new.parser :=
        Registry.binding?_eq_some_iff.2 ⟨new, hnew, rfl, h.ne_null.2⟩
      rw [hfinds, hfinds']
      exact .some (.single h)
  · rw [if_neg heq]
    exact w.scope.rel_found _

/-- **References are transparent.** Let an application of `p` not exhaust the recursion limit. It
gives the same report, events, outcome and shared lists, when one of the references in `p` is
replaced by the rule that it finds. So it does when `p` is left as it is, and a rule of some
registry is bound again with one of its references replaced; this may be a reference to the rule
itself. -/
theorem run_eq_of_inlines (w : Workspace) (p : Parser) {limit : Nat} {c : Cursor} {s : Store}
    (hlimit : (p.run w.scope limit c s).outcome ≠ .fault .recursionLimit) :
    (∀ q, w.scope.Inlines p q → q.run w.scope limit c s = p.run w.scope limit c s) ∧
    ∀ id registry key rule new, w.registries[id]? = some registry →
      registry.get? key = .ok (some rule) → w.scope.Inlines rule.parser new.parser →
      p.run (w.setRegistry id (registry.apply (.bind key new)).state).scope limit c s =
        p.run w.scope limit c s := by
  constructor
  · intro q h
    exact run_extends_of_inlines (.refl w.scope) (.single h) limit c s hlimit
  · intro id registry key rule new hid hrule h
    exact run_extends_of_inlines (Workspace.inlinesRules_bind hid hrule h) .refl limit c s hlimit

/-- Lists of lists, the inner ones written out once. -/
def unrolledList : Parser :=
  .sequence
    [.literal "[" .identity,
      .repetition
        (.alternation [nestedList, .optional (.literal "," .identity) .unwrap] .identity) 0
        .identity,
      .literal "]" .identity] .matchedText

theorem inlines_unrolledList : listWorkspace.scope.Inlines nestedList unrolledList := by
  have hrule : listWorkspace.scope 0 (.text "list") = some nestedList := rfl
  have hchoice := @Scope.Inlines.alternation _ [] [.optional (.literal "," .identity) .unwrap] _ _
    .identity (.reference hrule)
  exact @Scope.Inlines.sequence _ [.literal "[" .identity] [.literal "]" .identity] _ _ _
    (.repetition hchoice)

/-- The rule for lists is bound again, and refers to itself from one level further down. -/
theorem run_eq_of_inlines_lists :
    let w := listWorkspace
    let registry := Registry.grammar { rules := [("list", ⟨0, nestedList⟩)] }
    let w' := w.setRegistry 0 (registry.apply (.bind (.text "list") ⟨1, unrolledList⟩)).state
    (nestedList.run w.scope 20 (.start "[[],]") {}).outcome ≠ .fault .recursionLimit ∧
    unrolledList.run w.scope 20 (.start "[[],]") {} =
      nestedList.run w.scope 20 (.start "[[],]") {} ∧
    nestedList.run w'.scope 20 (.start "[[],]") {} =
      nestedList.run w.scope 20 (.start "[[],]") {} := by
  intro w registry w'
  obtain ⟨v, rest, hrun⟩ : ∃ v rest, (nestedList.run w.scope 20 (.start "[[],]") {}).outcome =
      .matched v rest := ⟨_, _, rfl⟩
  have hlimit : (nestedList.run w.scope 20 (.start "[[],]") {}).outcome ≠
      .fault .recursionLimit := by
    rw [hrun]
    nofun
  obtain ⟨hparser, hregistry⟩ := run_eq_of_inlines w nestedList hlimit
  exact ⟨hlimit, hparser unrolledList inlines_unrolledList,
    hregistry 0 registry (.text "list") ⟨0, nestedList⟩ ⟨1, unrolledList⟩ rfl rfl
      inlines_unrolledList⟩

end GrammarKit
