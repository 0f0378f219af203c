import GrammarKit.Proofs.Termination
import GrammarKit.Registry.Basic

/-!
# What an operation does to a registry

Said once for all operations: which rules a registry can have after one, and that a grammar forgets
none of the names that it was asked to refer to.

* `Operation.rules` — the rules that an operation may set;
* `Value.IsName`, `Rule.Binds`, `Rule.BindFault` — whether a rule can be bound to a key, and why
  not;
* `Grammar.bind_cases` — a rule is bound, or refused without a trace;
* `Grammar.Evolves`, `Grammar.evolves_apply` — what an operation can make of a grammar;
* `Grammar.mem_referenced_refer` — a name that was referred to is remembered;
* `Registry.mem_entries_apply` — where the entries of a registry come from;
* `Registry.get?_apply_bind` — what is found after a rule was bound again.
-/

namespace GrammarKit

/-- The rules that an operation may set. -/
def Operation.rules : Operation → List Rule
  | bind _ rule | setDefault _ rule => [rule]
  | update pairs => pairs.map (·.2)
  | erase _ | pop _ _ | popItem | clear | refer _ => []

/-- The value is a name for a rule: a text that is not empty. -/
def Value.IsName (key : Value) : Prop := ∃ n, key = .text n ∧ n ≠ ""

/-- The rule may be bound to the key: it is a parser, and the key is a name. -/
def Rule.Binds (pair : Value × Rule) : Prop := pair.1.IsName ∧ pair.2.parser.inert? = none

/-- Why a rule cannot be bound to a key. -/
inductive Rule.BindFault (key : Value) (rule : Rule) : Fault → Prop
  /-- The key is no name, whatever the rule is. -/
  | notName (hkey : ¬ key.IsName) : BindFault key rule (invalidName key)
  /-- The key is a name, but the rule is no parser. -/
  | notParser {n : String} {value : Value} (hkey : key = .text n) (hn : n ≠ "")
    (hrule : rule.parser.inert? = some value) : BindFault key rule (.ruleNotParser n value)

theorem Rule.BindFault.not_binds {key : Value} {rule : Rule} {f : Fault}
    (h : rule.BindFault key f) : ¬ Rule.Binds (key, rule) := by
  rintro ⟨hkey, hrule⟩
  cases h with
  | notName hnot => exact hnot hkey
  | notParser _ _ hvalue => cases hrule.symm.trans hvalue

theorem Rule.exists_bindFault {key : Value} {rule : Rule} (h : ¬ Rule.Binds (key, rule)) :
    ∃ f, rule.BindFault key f := by
  by_cases hkey : key.IsName
  · cases hrule : rule.parser.inert? with
    | none => exact absurd ⟨hkey, hrule⟩ h
    | some value =>
      obtain ⟨n, rfl, hn⟩ := hkey
      exact ⟨_, .notParser rfl hn hrule⟩
  · exact ⟨_, .notName hkey⟩

namespace Change

variable {σ α β : Type}

@[simp] theorem state_done (state : σ) (value : α) : (done state value).state = state := rfl

@[simp] theorem state_map (f : α → β) (change : Change σ α) : (change.map f).state = change.state :=
  rfl

end Change

theorem Entries.mem_insert {κ α : Type} [BEq κ] {entries : List (κ × α)} {key : κ} {value : α}
    {entry : κ × α} (h : entry ∈ Entries.insert entries key value) :
    entry ∈ entries ∨ entry.2 = value := by
  induction entries with
  | nil =>
    obtain rfl := List.mem_singleton.1 h
    exact Or.inr rfl
  | cons first entries ih =>
    rw [Entries.insert] at h
    split at h
    · rcases List.mem_cons.1 h with rfl | h
      · exact Or.inr rfl
      · exact Or.inl (List.mem_cons_of_mem _ h)
    · rcases List.mem_cons.1 h with rfl | h
      · exact Or.inl (List.mem_cons_self ..)
      · exact (ih h).imp_left (List.mem_cons_of_mem _)

namespace Table

variable {t : Table} {operation : Operation} {entry : Value × Rule}

theorem mem_update {pairs : List (Value × Rule)} (h : entry ∈ t.update pairs) :
    entry ∈ t ∨ entry.2 ∈ pairs.map (·.2) := by
  induction pairs generalizing t with
  | nil => exact Or.inl h
  | cons pair pairs ih =>
    rcases ih h with h | h
    · refine (Entries.mem_insert h).imp_right fun heq => ?_
      exact heq ▸ List.mem_cons_self ..
    · exact Or.inr (List.mem_cons_of_mem _ h)

/-- An entry of a table after an operation was there before or has a rule of the operation. -/
theorem mem_apply (h : entry ∈ (t.apply operation).state) :
    entry ∈ t ∨ entry.2 ∈ operation.rules := by
  cases operation with
  | bind key rule =>
    simp only [apply, Change.state_map, bind] at h
    split at h
    · simpa [Operation.rules] using Entries.mem_insert h
    · exact Or.inl h
  | erase key =>
    simp only [apply, Change.state_map, erase] at h
    split at h
    · exact Or.inl h
    · exact Or.inl (List.mem_of_mem_filter h)
    · exact Or.inl h
  | pop key default =>
    simp only [apply, Change.state_map, pop] at h
    split at h
    · exact Or.inl h
    · exact Or.inl (List.mem_of_mem_filter h)
    · exact Or.inl h
    · exact Or.inl h
  | popItem =>
    simp only [apply, Change.state_map, popLast] at h
    split at h
    · exact Or.inl (List.mem_of_mem_dropLast h)
    · exact Or.inl h
  | setDefault key rule =>
    simp only [apply, Change.state_map, setDefault] at h
    split at h
    · exact Or.inl h
    · exact Or.inl h
    · simpa [Operation.rules] using Entries.mem_insert h
  | update pairs => exact mem_update h
  | clear => cases h
  | refer name => exact Or.inl h

end Table

namespace Grammar

theorem get?_text (g : Grammar) (name : String) : g.get? (.text name) = .ok (g.rule? name) := rfl

/-- A key that is no text is the key of no rule, whatever the grammar is. -/
theorem get?_of_not_text (g : Grammar) {key : Value} (h : ∀ name, key ≠ .text name) :
    g.get? key = match key.keyObstacle? with
      | some typeName => .error (.notKey typeName)
      | none => .ok none := by
  unfold get?
  cases hkey : key.keyObstacle? with
  | some typeName => rfl
  | none => simp only

/-- Only texts are found in a grammar. -/
theorem get?_eq_some {g : Grammar} {key : Value} {rule : Rule} (h : g.get? key = .ok (some rule)) :
    ∃ name, key = .text name ∧ g.rule? name = some rule := by
  unfold get? at h
  split at h
  · cases h
  · exact ⟨_, rfl, Except.ok.inj h⟩
  · cases Except.ok.inj h

theorem ruleName_eq_ok_iff {key : Value} {name : String} :
    ruleName key = .ok name ↔ key = .text name ∧ name ≠ "" := by
  cases key with
  | text s =>
    by_cases hs : s = ""
    · simp only [ruleName, hs, if_true, reduceCtorEq, Value.text.injEq, false_iff]
      rintro ⟨rfl, hname⟩
      exact hname rfl
    · simp only [ruleName, hs, if_false, Except.ok.injEq, Value.text.injEq]
      exact ⟨fun h => ⟨h, h ▸ hs⟩, And.left⟩
  | _ => simp [ruleName]

theorem ruleName_of_ne {n : String} (hn : n ≠ "") : ruleName (.text n) = .ok n :=
  ruleName_eq_ok_iff.2 ⟨rfl, hn⟩

theorem ruleName_of_not_isName {key : Value} (h : ¬ key.IsName) :
    ruleName key = .error (invalidName key) := by
  cases key with
  | text s =>
    have hs : s = "" := Decidable.byContradiction fun hne => h ⟨s, rfl, hne⟩
    rw [ruleName, if_pos hs]
  | _ => rfl

theorem bind_of_bindFault (g : Grammar) {key : Value} {rule : Rule} {f : Fault}
    (h : rule.BindFault key f) : g.bind key rule = .refused g f := by
  cases h with
  | notName hkey => simp only [bind, ruleName_of_not_isName hkey]
  | notParser hkey hn hrule => simp only [bind, hkey, ruleName_of_ne hn, hrule]

/-- A rule is bound if the key is a name and the rule is a parser, and refused otherwise. All that
is said of bindings comes down to this distinction. -/
theorem bind_cases (g : Grammar) (key : Value) (rule : Rule) :
    (∃ n, key = .text n ∧ n ≠ "" ∧ rule.parser.inert? = none ∧
      g.bind key rule = ⟨g.insert n rule, [g.bindRecord n], .ok ()⟩) ∨
    ∃ f, rule.BindFault key f ∧ g.bind key rule = .refused g f := by
  by_cases hbinds : Rule.Binds (key, rule)
  · obtain ⟨⟨n, rfl, hn⟩, hrule⟩ := hbinds
    exact Or.inl ⟨n, rfl, hn, hrule, by simp only [bind, ruleName_of_ne hn, hrule]⟩
  · obtain ⟨f, hfault⟩ := Rule.exists_bindFault hbinds
    exact Or.inr ⟨f, hfault, g.bind_of_bindFault hfault⟩

/-- What `g` may become by an operation with the given rules: it gets no others, and these only if
they are parsers, and it forgets no name. -/
structure Evolves (g : Grammar) (rules : List Rule) (g' : Grammar) : Prop where
  rules : ∀ entry ∈ g'.rules,
    entry ∈ g.rules ∨ entry.2 ∈ rules ∧ entry.2.parser.inert? = none
  referenced : g.referenced ⊆ g'.referenced

namespace Evolves

variable {g g₁ g₂ : Grammar} {rules rules₁ rules₂ : List Rule}

theorem refl (g : Grammar) (rules : List Rule) : g.Evolves rules g :=
  ⟨fun _ => Or.inl, List.Subset.refl _⟩

theorem trans (h₁ : g.Evolves rules g₁) (h₂ : g₁.Evolves rules g₂) : g.Evolves rules g₂ where
  rules entry hentry := by
    rcases h₂.rules entry hentry with hentry | hnew
    · exact h₁.rules entry hentry
    · exact Or.inr hnew
  referenced := List.Subset.trans h₁.referenced h₂.referenced

theorem mono (h : g.Evolves rules₁ g₁) (hrules : rules₁ ⊆ rules₂) : g.Evolves rules₂ g₁ where
  rules entry hentry := (h.rules entry hentry).imp_right fun hnew => ⟨hrules hnew.1, hnew.2⟩
  referenced := h.referenced

end Evolves

variable (g : Grammar)

theorem evolves_bind (key : Value) (rule : Rule) : g.Evolves [rule] (g.bind key rule).state := by
  rcases g.bind_cases key rule with ⟨n, -, -, hinert, hbind⟩ | ⟨f, -, hbind⟩
  · rw [hbind]
    refine ⟨fun entry hentry => (Entries.mem_insert hentry).imp_right ?_, List.Subset.refl _⟩
    rintro rfl
    exact ⟨List.mem_singleton_self _, hinert⟩
  · rw [hbind]
    exact .refl g _

theorem evolves_remove (key : Value) (rules : List Rule) : g.Evolves rules (g.remove key) := by
  unfold remove
  split
  · exact ⟨fun _ hentry => Or.inl (List.mem_of_mem_filter hentry), List.Subset.refl _⟩
  · exact .refl g _

theorem evolves_update (pairs : List (Value × Rule)) :
    g.Evolves (pairs.map (·.2)) (g.update pairs).state := by
  induction pairs generalizing g with
  | nil => exact .refl g _
  | cons pair pairs ih =>
    have hfirst : g.Evolves ((pair :: pairs).map (·.2)) (g.bind pair.1 pair.2).state :=
      (g.evolves_bind pair.1 pair.2).mono (by simp)
    simp only [update]
    split
    · exact hfirst
    · exact hfirst.trans ((ih _).mono (by simp))

/-- An operation sets no rules but its own, only parsers among them, and no name is forgotten. -/
theorem evolves_apply (operation : Operation) :
    g.Evolves operation.rules (g.apply operation).state := by
  cases operation with
  | bind key rule => exact g.evolves_bind key rule
  | erase key =>
    simp only [apply, Change.state_map, erase]
    split
    · exact g.evolves_remove key _
    · exact .refl g _
  | pop key default =>
    simp only [apply, Change.state_map, pop]
    split
    · exact .refl g _
    · exact g.evolves_remove key _
    · exact .refl g _
    · exact .refl g _
  | popItem =>
    simp only [apply, Change.state_map, popFirst]
    split
    · exact .refl g _
    · rename_i hrules
      refine ⟨fun _ hentry => Or.inl ?_, List.Subset.refl _⟩
      exact hrules ▸ List.mem_cons_of_mem _ hentry
  | setDefault key rule =>
    simp only [apply, Change.state_map, setDefault]
    split
    · exact .refl g _
    · exact .refl g _
    · exact g.evolves_bind key rule
  | update pairs => exact g.evolves_update pairs
  | clear =>
    refine ⟨fun _ hentry => ?_, List.Subset.refl _⟩
    cases hentry
  | refer name =>
    simp only [apply, Change.state_map, refer]
    split
    · exact .refl g _
    · exact ⟨fun _ => Or.inl, fun _ hname => List.mem_insert_of_mem hname⟩

/-- A name that was referred to with success is remembered. -/
theorem mem_referenced_refer {g : Grammar} {name : Value} {yield : Yield}
    (h : (g.apply (.refer name)).result = .ok yield) :
    ∃ n, name = .text n ∧ n ∈ (g.apply (.refer name)).state.referenced := by
  cases hname : ruleName name with
  | error f => simp [apply, refer, hname, Change.map, Change.refused, Except.map] at h
  | ok n => exact ⟨n, (ruleName_eq_ok_iff.1 hname).1, by simp [apply, refer, hname]⟩

end Grammar

namespace Registry

/-- An entry of a registry after an operation was there before or has a rule of the operation. -/
theorem mem_entries_apply {registry : Registry} {operation : Operation}
    {entry : Value × Rule} (h : entry ∈ (registry.apply operation).state.entries) :
    entry ∈ registry.entries ∨ entry.2 ∈ operation.rules := by
  cases registry with
  | grammar g =>
    obtain ⟨entry, hentry, rfl⟩ := List.mem_map.1 h
    rcases (g.evolves_apply operation).rules entry hentry with hentry | hentry
    · exact Or.inl (List.mem_map_of_mem hentry)
    · exact Or.inr hentry.1
  | table t => exact Table.mem_apply h

/-- When a present key is bound to another rule, a look-up finds what it found before, unless that
was the rule under this key. -/
theorem get?_apply_bind {registry : Registry} {key : Value} {rule : Rule}
    (h : registry.get? key = .ok (some rule)) (new : Rule) (name : Value) :
    let registry' := (registry.apply (.bind key new)).state
    registry'.get? name = registry.get? name ∨
      (registry.get? name = .ok (some rule) ∧ registry'.get? name = .ok (some new)) := by
  intro registry'
  cases registry with
  | grammar g =>
    obtain ⟨key, rfl, hrule⟩ := Grammar.get?_eq_some h
    show (g.bind (.text key) new).state.get? name = g.get? name ∨
      g.get? name = .ok (some rule) ∧ (g.bind (.text key) new).state.get? name = .ok (some new)
    rcases g.bind_cases (.text key) new with ⟨_, ⟨⟩, -, -, hbind⟩ | ⟨_, -, hbind⟩
    · rw [hbind]
      by_cases htext : ∃ n, name = .text n
      · obtain ⟨n, rfl⟩ := htext
        rw [Grammar.get?_text, Grammar.get?_text]
        rcases Entries.get?_insert_of_get? hrule new n with heq | ⟨hold, hnew⟩
        · exact Or.inl (congrArg Except.ok heq)
        · exact Or.inr ⟨congrArg Except.ok hold, congrArg Except.ok hnew⟩
      · have hname := not_exists.1 htext
        exact Or.inl ((Grammar.get?_of_not_text _ hname).trans (g.get?_of_not_text hname).symm)
    · rw [hbind]
      exact Or.inl rfl
  | table t =>
    have hkey : Table.checkKey key = .ok () := by
      rw [Table.checkKey, (get?_eq_some h).1]
    have hrule : Entries.get? t key = some rule := by
      rw [get?, Table.get?, hkey] at h
      exact Except.ok.inj h
    show ((t.bind key new).state.get? name) = t.get? name ∨
        t.get? name = .ok (some rule) ∧ (t.bind key new).state.get? name = .ok (some new)
    rw [Table.bind, hkey]
    unfold Table.get?
    cases Table.checkKey name with
    | error f => exact Or.inl rfl
    | ok _ =>
      rcases Entries.get?_insert_of_get? hrule new name with heq | ⟨hold, hnew⟩
      · exact Or.inl (congrArg Except.ok heq)
      · exact Or.inr ⟨congrArg Except.ok hold, congrArg Except.ok hnew⟩

/-- A rule that is given was found. -/
theorem get?_of_get {registry : Registry} {key : Value} {rule : Rule}
    (h : registry.get key = .ok rule) : registry.get? key = .ok (some rule) := by
  cases hget : registry.get? key with
  | error f => simp [get, hget, bind, Except.bind] at h
  | ok found =>
    cases found with
    | none => simp [get, hget, bind, Except.bind] at h
    | some found => simpa [get, hget, bind, Except.bind] using h

end Registry

end GrammarKit
