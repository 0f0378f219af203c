import GrammarKit.Proofs.Reach
import GrammarKit.Workspace.Basic

/-!
# What references find

A reference looks for its name in its registry. What it finds there is the parser of a rule, unless
that is a null placeholder, which counts as nothing.

* `Registry.get?_eq_some` — rules are found by names that can be looked up, among the entries;
* `Registry.Finds`, `Workspace.Finds` — what is found, if it is more than a placeholder;
* `Workspace.scope_eq_some_iff` — a reference finds just that;
* `Workspace.ofRule` — a workspace in which there is only one rule to be found.
-/

namespace GrammarKit

theorem Entries.mem_of_get? {κ α : Type} [BEq κ] {entries : List (κ × α)} {key : κ} {value : α}
    (h : Entries.get? entries key = some value) : value ∈ entries.map (·.2) := by
  obtain ⟨entry, hentry, rfl⟩ := Option.map_eq_some_iff.1 h
  exact List.mem_map_of_mem (List.mem_of_find?_eq_some hentry)

namespace Registry

variable {registry : Registry} {name : Value}

/-- A rule is found by a name that can be looked up, among the entries. -/
theorem get?_eq_some {rule : Rule} (h : registry.get? name = .ok (some rule)) :
    name.keyObstacle? = none ∧ rule ∈ registry.entries.map (·.2) := by
  cases hkey : name.keyObstacle? with
  | some typeName =>
    cases registry with
    | grammar g => simp [Registry.get?, Grammar.get?, hkey] at h
    | table t =>
      rw [Registry.get?, Table.get?, Table.checkKey, hkey] at h
      cases h
  | none =>
    refine ⟨rfl, ?_⟩
    cases registry with
    | grammar g =>
      cases name with
      | text name =>
        simp only [Registry.get?, Grammar.get?, Value.keyObstacle?, Except.ok.injEq] at h
        simpa [Registry.entries] using Entries.mem_of_get? h
      | _ => simp [Registry.get?, Grammar.get?, hkey] at h
    | table t =>
      rw [Registry.get?, Table.get?, Table.checkKey, hkey] at h
      exact Entries.mem_of_get? (Except.ok.inj h)

/-- A rule is found under the name, and its parser is not a null placeholder. -/
def Finds (registry : Registry) (name : Value) (target : Parser) : Prop :=
  ∃ rule, registry.get? name = .ok (some rule) ∧ rule.parser = target ∧ target ≠ .inert .null

theorem binding?_eq_some_iff {target : Parser} :
    registry.binding? name = some target ↔ registry.Finds name target := by
  unfold binding? Finds
  constructor
  · intro h
    split at h
    · cases h
    · next rule hplaceholder hrule =>
      cases h
      exact ⟨rule, hrule, rfl, fun hnull => hplaceholder rule.id (hnull ▸ rfl)⟩
    · cases h
  · rintro ⟨rule, hrule, rfl, hnull⟩
    rw [hrule]
    split
    · next heq =>
      cases heq
      exact absurd rfl hnull
    · next heq =>
      cases heq
      rfl
    · next hnone => exact absurd rfl (hnone rule)

end Registry

namespace Workspace

variable {w : Workspace} {id : RegistryId} {name : Value} {target : Parser}

/-- The registry with the handle exists, and there the parser is found under the name. -/
def Finds (w : Workspace) (id : RegistryId) (name : Value) (target : Parser) : Prop :=
  ∃ registry, w.registries[id]? = some registry ∧ registry.Finds name target

theorem scope_eq_some_iff : w.scope id name = some target ↔ w.Finds id name target := by
  show (w.registries[id]?.bind fun registry => registry.binding? name) = some target ↔ _
  simp only [Option.bind_eq_some_iff, Registry.binding?_eq_some_iff, Finds]

/-- What a reference finds is the parser of an entry. -/
theorem scope_eq_some (h : w.scope id name = some target) :
    name.keyObstacle? = none ∧
      target ∈ w.registries.toList.flatMap fun registry => registry.entries.map (·.2.parser) := by
  obtain ⟨registry, hregistry, rule, hrule, rfl, -⟩ := scope_eq_some_iff.1 h
  obtain ⟨hkey, hmem⟩ := Registry.get?_eq_some hrule
  obtain ⟨entry, hentry, rfl⟩ := List.mem_map.1 hmem
  refine ⟨hkey, List.mem_flatMap.2 ⟨registry, ?_, List.mem_map_of_mem hentry⟩⟩
  exact Array.mem_toList_iff.2 (Array.mem_of_getElem? hregistry)

/-! ### Workspaces with one rule -/

/-- A workspace of which the only registry is a grammar with one rule. -/
def ofRule (name : String) (body : Parser) : Workspace where
  registries := #[.grammar { rules := [(name, ⟨0, body⟩)] }]
  names := []

variable {label : String} {body p : Parser}

theorem eq_of_scope_ofRule (h : (ofRule label body).scope id name = some target) :
    target = body := by
  simpa [ofRule, Registry.entries] using (scope_eq_some h).2

/-- A condition holds everywhere if it holds at all subtrees of the parser and of the rule. -/
theorem everywhere_ofRule {P : Parser → Prop} (hp : ∀ q ∈ p.subtrees, P q)
    (hbody : ∀ q ∈ body.subtrees, P q) : (ofRule label body).scope.Everywhere P p :=
  Scope.everywhere_of_subtrees hp fun _ _ _ hr => eq_of_scope_ofRule hr ▸ hbody

end Workspace

end GrammarKit
