import GrammarKit.Proofs.Evolution
import GrammarKit.Proofs.Steady

/-!
# What a workspace remembers

A workspace is sound if each reference in its variables and registries is to a name that its grammar
remembers. Computations in a workspace are looked at for whether they keep it sound and make it
forget nothing, which has to hold of those that fail as well.

* `Workspace.Remembers` — a grammar of the workspace remembers a name;
* `Workspace.Covers` — all references in a parser are remembered;
* `Workspace.Sound` — so are those of all variables and registries, and grammars hold parsers only;
* `Work.Secures` — a computation keeps a workspace sound and forgets nothing, and its result
  satisfies a condition;
* `Work.Keeps` — the same in all workspaces, whatever the result is;
* `Work.Steady.keeps` — nothing is forgotten by what leaves registries and variables alone;
* `Work.secures_perform` — operations on registries forget nothing.
-/

namespace GrammarKit

namespace Workspace

variable {w w' : Workspace}

/-- The name is one that the grammar with the handle was asked to refer to. -/
def Remembers (w : Workspace) (id : RegistryId) (name : Value) : Prop :=
  ∃ g n, w.registries[id]? = some (.grammar g) ∧ name = .text n ∧ n ∈ g.referenced

/-- Whatever `w` remembers, `w'` remembers too. -/
def KeptIn (w w' : Workspace) : Prop :=
  ∀ id name, w.Remembers id name → w'.Remembers id name

/-- All references in the parser are remembered. -/
def Covers (w : Workspace) (p : Parser) : Prop :=
  ∀ id name, .reference id name ∈ p.subtrees → w.Remembers id name

/-- All references in variables and registries are remembered, and grammars hold parsers only. -/
structure Sound (w : Workspace) : Prop where
  locals : ∀ entry ∈ w.locals, w.Covers entry.2.parser
  entries : ∀ registry ∈ w.registries, ∀ entry ∈ registry.entries, w.Covers entry.2.parser
  parsers : ∀ g, .grammar g ∈ w.registries → ∀ entry ∈ g.rules, entry.2.parser.inert? = none

theorem KeptIn.refl (w : Workspace) : w.KeptIn w := fun _ _ h => h

theorem KeptIn.trans {w₁ w₂ w₃ : Workspace} (h₁ : w₁.KeptIn w₂) (h₂ : w₂.KeptIn w₃) :
    w₁.KeptIn w₃ := fun id name h => h₂ id name (h₁ id name h)

theorem KeptIn.of_registries (h : w'.registries = w.registries) : w.KeptIn w' := by
  intro id name hname
  unfold Remembers
  rw [h]
  exact hname

theorem Covers.kept {p : Parser} (h : w.Covers p) (hw : w.KeptIn w') : w'.Covers p :=
  fun id name hmem => hw id name (h id name hmem)

/-- The references in a combinator are those in its parts. -/
theorem covers_of_parts {p : Parser} (hparts : ∀ q ∈ p.parts, w.Covers q)
    (hself : ∀ id name, p ≠ .reference id name) : w.Covers p := by
  intro id name hmem
  rw [Parser.subtrees_eq, List.mem_cons, List.mem_flatMap] at hmem
  rcases hmem with heq | ⟨q, hq, hmem⟩
  · exact absurd heq.symm (hself id name)
  · exact hparts q hq id name hmem

theorem covers_of_part {p child : Parser} (hp : p.parts = [child]) (h : w.Covers child) :
    w.Covers p := by
  refine covers_of_parts ?_ ?_
  · rw [hp]
    exact List.forall_mem_singleton.2 h
  · rintro id name rfl
    cases hp

theorem covers_reference {id : RegistryId} {name : Value} (h : w.Remembers id name) :
    w.Covers (.reference id name) := by
  intro id' name' hmem
  cases List.mem_singleton.1 hmem
  exact h

/-- Only variables and registries matter. -/
theorem Sound.congr (h : w.Sound) (hregistries : w'.registries = w.registries)
    (hlocals : w'.locals = w.locals) : w'.Sound := by
  have hkept : w.KeptIn w' := .of_registries hregistries
  refine ⟨?_, ?_, ?_⟩
  · rw [hlocals]
    exact fun entry hentry => (h.locals entry hentry).kept hkept
  · rw [hregistries]
    exact fun registry hmem entry hentry => (h.entries registry hmem entry hentry).kept hkept
  · rw [hregistries]
    exact h.parsers

/-- A variable may be set to a parser whose references are remembered. -/
theorem Sound.setLocal (h : w.Sound) {name : String} {rule : Rule} (hrule : w.Covers rule.parser) :
    Sound { w with locals := Entries.insert w.locals name rule } where
  locals entry hentry := by
    rcases Entries.mem_insert hentry with hentry | heq
    · exact h.locals entry hentry
    · exact heq ▸ hrule
  entries := h.entries
  parsers := h.parsers

/-- The references in a rule that a registry gives are remembered. -/
theorem Sound.covers_of_get (h : w.Sound) {name : String} {registry : Registry} {key : Value}
    {rule : Rule} (hregistry : w.registryNamed? name = some registry)
    (hrule : registry.get key = .ok rule) : w.Covers rule.parser := by
  obtain ⟨id, -, hid⟩ := Option.bind_eq_some_iff.1 hregistry
  have hmem := (Registry.get?_eq_some (Registry.get?_of_get hrule)).2
  obtain ⟨entry, hentry, rfl⟩ := List.mem_map.1 hmem
  exact h.entries registry (Array.mem_of_getElem? hid) entry hentry

theorem KeptIn.addRegistry (w : Workspace) (name : String) (registry : Registry) :
    w.KeptIn (w.addRegistry name registry) := by
  rintro id key ⟨g, n, hg, hn⟩
  have hid : id < w.registries.size := (Array.getElem?_eq_some_iff.1 hg).1
  refine ⟨g, n, ?_, hn⟩
  simp only [Workspace.addRegistry, Array.getElem?_push_lt hid]
  rw [← hg, Array.getElem?_eq_getElem hid]

/-- A registry may be added if the references in it are remembered and a grammar holds parsers. -/
theorem Sound.addRegistry (h : w.Sound) (name : String) {registry : Registry}
    (hentries : ∀ entry ∈ registry.entries, w.Covers entry.2.parser)
    (hparsers : ∀ g, registry = .grammar g → ∀ entry ∈ g.rules, entry.2.parser.inert? = none) :
    (w.addRegistry name registry).Sound := by
  have hkept := KeptIn.addRegistry w name registry
  refine ⟨fun entry hentry => (h.locals entry hentry).kept hkept, ?_, ?_⟩
  · intro other hother entry hentry
    rcases Array.mem_push.1 hother with hother | rfl
    · exact (h.entries other hother entry hentry).kept hkept
    · exact (hentries entry hentry).kept hkept
  · intro g hg
    rcases Array.mem_push.1 hg with hg | heq
    · exact h.parsers g hg
    · exact hparsers g heq.symm

/-- The workspace with another registry under a handle. -/
def setRegistry (w : Workspace) (id : RegistryId) (registry : Registry) : Workspace :=
  { w with registries := w.registries.setIfInBounds id registry }

section SetRegistry

variable {id : RegistryId} {registry : Registry} {operation : Operation}

theorem setRegistry_getElem? (hid : w.registries[id]? = some registry) (other : Registry)
    (id' : RegistryId) :
    (w.setRegistry id other).registries[id']? =
      if id = id' then some other else w.registries[id']? := by
  have hlt : id < w.registries.size := (Array.getElem?_eq_some_iff.1 hid).1
  simp [setRegistry, Array.getElem?_setIfInBounds, hlt]

theorem KeptIn.setRegistry_apply (hid : w.registries[id]? = some registry) :
    w.KeptIn (w.setRegistry id (registry.apply operation).state) := by
  rintro id' name ⟨g, n, hg, hname, hn⟩
  by_cases heq : id = id'
  · subst heq
    cases hid.symm.trans hg
    refine ⟨(g.apply operation).state, n, ?_, hname, (g.evolves_apply operation).referenced hn⟩
    rw [setRegistry_getElem? hid, if_pos rfl]
    rfl
  · refine ⟨g, n, ?_, hname, hn⟩
    rw [setRegistry_getElem? hid, if_neg heq, hg]

/-- Operations keep a workspace sound, given rules whose references are remembered. -/
theorem Sound.setRegistry_apply (h : w.Sound) (hid : w.registries[id]? = some registry)
    (hrules : ∀ rule ∈ operation.rules, w.Covers rule.parser) :
    (w.setRegistry id (registry.apply operation).state).Sound := by
  have hkept : w.KeptIn (w.setRegistry id (registry.apply operation).state) :=
    .setRegistry_apply hid
  have hmem := Array.mem_of_getElem? hid
  refine ⟨fun entry hentry => (h.locals entry hentry).kept hkept, ?_, ?_⟩
  · intro other hother entry hentry
    rcases Array.mem_or_eq_of_mem_setIfInBounds hother with hother | rfl
    · exact (h.entries other hother entry hentry).kept hkept
    · rcases Registry.mem_entries_apply hentry with hentry | hentry
      · exact (h.entries registry hmem entry hentry).kept hkept
      · exact (hrules _ hentry).kept hkept
  · intro g hg entry hentry
    rcases Array.mem_or_eq_of_mem_setIfInBounds hg with hg | heq
    · exact h.parsers g hg entry hentry
    · cases registry with
      | table t => cases heq
      | grammar old =>
        cases heq
        rcases (old.evolves_apply operation).rules entry hentry with hentry | hentry
        · exact h.parsers old hmem entry hentry
        · exact hentry.2

/-- A name that a registry was asked to refer to with success is remembered. -/
theorem remembers_refer (hid : w.registries[id]? = some registry) {name : Value} {yield : Yield}
    (h : (registry.apply (.refer name)).result = .ok yield) :
    (w.setRegistry id (registry.apply (.refer name)).state).Remembers id name := by
  cases registry with
  | table t => cases h
  | grammar g =>
    obtain ⟨n, hname, hn⟩ := Grammar.mem_referenced_refer h
    refine ⟨_, n, ?_, hname, hn⟩
    rw [setRegistry_getElem? hid, if_pos rfl]
    rfl

end SetRegistry

end Workspace

/-! ### Computations that forget nothing -/

namespace Work

variable {α β : Type} {w : Workspace} {m : Work α} {k : α → Work β} {Q : α → Workspace → Prop}

/-- From `w`, if it is sound, the computation comes to a sound workspace that remembers no less,
also if it fails; and if it does not fail, its result and that workspace satisfy `Q`. -/
def Secures (m : Work α) (w : Workspace) (Q : α → Workspace → Prop) : Prop :=
  w.Sound → (m.run.run w).2.Sound ∧ w.KeptIn (m.run.run w).2 ∧
    ∀ a, (m.run.run w).1 = .ok a → Q a (m.run.run w).2

/-- The computation keeps every workspace sound and makes it forget nothing. -/
def Keeps (m : Work α) : Prop :=
  ∀ w, m.Secures w fun _ _ => True

namespace Secures

theorem of_sound (h : w.Sound → m.Secures w Q) : m.Secures w Q := fun hw => h hw hw

theorem bind {R : β → Workspace → Prop} (h : m.Secures w Q)
    (hk : ∀ a w', w.KeptIn w' → Q a w' → (k a).Secures w' R) : (m >>= k).Secures w R := by
  intro hw
  obtain ⟨hsound, hkept, hQ⟩ := h hw
  rcases hrun : m.run.run w with ⟨result, w'⟩
  rw [hrun] at hsound hkept hQ
  cases result with
  | error f =>
    rw [run_bind_of_error hrun]
    refine ⟨hsound, hkept, ?_⟩
    rintro a ⟨⟩
  | ok a =>
    rw [run_bind_of_ok hrun]
    obtain ⟨hsound', hkept', hR⟩ := hk a w' hkept (hQ a rfl) hsound
    exact ⟨hsound', hkept.trans hkept', hR⟩

/-- What follows need not know how the computation ended. -/
theorem andThen (h : m.Secures w Q) (hk : ∀ a, (k a).Keeps) :
    (m >>= k).Secures w fun _ _ => True :=
  h.bind fun a w' _ _ => hk a w'

end Secures

/-- Nothing is forgotten if neither variables nor registries change. -/
theorem Steady.secures (h : m.Steady)
    (hQ : ∀ a w', w.KeptIn w' → m.run.run w = (.ok a, w') → Q a w') : m.Secures w Q := by
  intro hw
  have hkept : w.KeptIn (m.run.run w).2 := .of_registries (h w).registries
  exact ⟨hw.congr (h w).registries (h w).locals, hkept, fun a ha => hQ a _ hkept (Prod.ext ha rfl)⟩

theorem Steady.keeps (h : m.Steady) : m.Keeps := fun _ => h.secures fun _ _ _ _ => trivial

theorem secures_pure {a : α} (h : Q a w) : (pure a : Work α).Secures w Q := by
  intro hw
  refine ⟨hw, .refl w, ?_⟩
  rintro _ ⟨⟩
  exact h

theorem secures_throw {f : Fault} : (throw f : Work α).Secures w Q := by
  intro hw
  refine ⟨hw, .refl w, ?_⟩
  rintro _ ⟨⟩

theorem secures_ofExcept {e : Except Fault α} (h : ∀ a, e = .ok a → Q a w) :
    (ofExcept e : Work α).Secures w Q := by
  cases e with
  | ok a => exact secures_pure (h a rfl)
  | error f => exact secures_throw

theorem secures_get : (get : Work Workspace).Secures w fun a w' => a = w ∧ w' = w := by
  intro hw
  refine ⟨hw, .refl w, ?_⟩
  rintro _ ⟨⟩
  exact ⟨rfl, rfl⟩

theorem secures_modify {f : Workspace → Workspace} (hsound : w.Sound → (f w).Sound)
    (hkept : w.KeptIn (f w)) : (modify f : Work Unit).Secures w fun _ w' => w' = f w :=
  fun hw => ⟨hsound hw, hkept, fun _ _ => rfl⟩

theorem secures_settle {σ : Type} {change : Change σ α}
    (h : ∀ a w', w.KeptIn w' → change.result = .ok a → Q a w') :
    (settle change).Secures w Q :=
  ((steady_record _).keeps w).bind fun _ _ hkept _ => secures_ofExcept fun a ha => h a _ hkept ha

theorem secures_registryId (name : String) :
    (registryId name).Secures w fun id w' => w' = w ∧ Entries.get? w.names name = some id := by
  refine secures_get.bind ?_
  rintro _ _ - ⟨rfl, rfl⟩
  split
  · exact secures_pure ⟨rfl, ‹_›⟩
  · exact secures_throw

theorem secures_registry (name : String) :
    (registry name).Secures w fun found w' => w' = w ∧ w.registryNamed? name = some found := by
  refine secures_get.bind ?_
  rintro _ _ - ⟨rfl, rfl⟩
  split
  · exact secures_pure ⟨rfl, ‹_›⟩
  · exact secures_throw

/-- An operation forgets nothing, and a name that it refers to is remembered from then on. -/
theorem secures_perform (name : String) {operation : Operation}
    (hrules : ∀ rule ∈ operation.rules, w.Covers rule.parser) :
    (perform name operation).Secures w fun _ w' => ∀ id key, operation = .refer key →
      Entries.get? w.names name = some id → w'.Remembers id key := by
  refine (secures_registryId name).bind ?_
  rintro id _ - ⟨rfl, hid⟩
  refine (secures_registry name).bind ?_
  rintro registry w - ⟨rfl, hregistry⟩
  have hat : w.registries[id]? = some registry := by
    simpa [Workspace.registryNamed?, hid] using hregistry
  have hmodify := secures_modify (w := w)
    (f := fun w => w.setRegistry id (registry.apply operation).state)
    (fun hw => hw.setRegistry_apply hat hrules) (.setRegistry_apply hat)
  refine hmodify.bind ?_
  rintro _ _ - rfl
  refine secures_settle fun yield w' hkept hresult id' key hkey hid' => ?_
  subst hkey
  cases hid.symm.trans hid'
  exact hkept _ _ (Workspace.remembers_refer hat hresult)

theorem secures_fresh {p : Parser} (h : w.Covers p) :
    (fresh p).Secures w fun rule w' => w'.Covers rule.parser := by
  refine (steady_fresh p).secures ?_
  rintro _ _ hkept ⟨⟩
  exact h.kept hkept

/-- A combinator is made of its formatter after everything else that it needs. -/
theorem secures_formatted {make : Formatter → Parser} (h : ∀ format, w.Covers (make format))
    (recipe : Recipe) :
    (do fresh (make (← formatter recipe))).Secures w fun rule w' => w'.Covers rule.parser :=
  ((steady_formatter recipe).keeps w).bind fun format _ hkept _ =>
    secures_fresh ((h format).kept hkept)

theorem secures_variableRule (name : String) :
    (variableRule name).Secures w fun rule w' => w'.Covers rule.parser := by
  refine .of_sound fun hw => secures_get.bind ?_
  rintro _ _ - ⟨rfl, rfl⟩
  split
  · rename_i rule hrule
    obtain ⟨entry, hentry, rfl⟩ := List.mem_map.1 (Entries.mem_of_get? hrule)
    exact secures_pure (hw.locals entry hentry)
  · exact secures_throw

end Work

end GrammarKit
