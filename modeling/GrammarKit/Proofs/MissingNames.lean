import GrammarKit.Proofs.SessionHistory
import Mathlib.Data.List.Sort
import Mathlib.Data.String.Basic

/-!
# Missing names

The names that a grammar misses are those that it was asked for and that have no rule now, in the
order of their characters. How often and in which order it was asked makes no difference. A name
leaves the list when it is bound, and comes back when its rule is taken away, in whatever way.

* `Operation.keys`, `Grammar.removed` — the names that get a rule and those that lose theirs;
* `Grammar.WasReferred` — a name was referred to with success;
* `Grammar.eq_unbound_iff` — there is one list of missing names;
* `Grammar.apply_referringTo`, `Grammar.rules_applyAll_filter` — the rules have nothing to do with
  what was referred to;
* `Grammar.mem_referenced_applyAll` — what a grammar remembers;
* `Grammar.Follows.mem_names_apply` — the names with a rule after an operation;
* `Grammar.unbound_exact` — missing names over all histories and sessions.
-/

namespace GrammarKit

namespace Operation

/-- Whether a name is referred to. -/
def isRefer : Operation → Bool
  | refer _ => true
  | bind .. | erase _ | pop .. | popItem | setDefault .. | update _ | clear => false

/-- The keys that have a rule after the operation, if it succeeds. -/
def keys : Operation → List Value
  | bind key _ | setDefault key _ => [key]
  | update pairs => pairs.map (·.1)
  | erase _ | pop .. | popItem | clear | refer _ => []

end Operation

theorem History.mem_names_after_remove {h : History} {removed : List String} {n : String} :
    n ∈ names (h.after (removed.map .remove)) ↔ n ∈ h.names ∧ n ∉ removed := by
  induction removed generalizing h with
  | nil => simp [after]
  | cons m removed ih =>
    rw [List.map_cons, after, ih, names, (nodup_names h).mem_erase_iff, List.mem_cons, not_or]
    tauto

namespace Grammar

variable {g : Grammar} {n : String}

/-! ### The list of missing names -/

theorem mem_names_iff : n ∈ g.names ↔ (g.rule? n).isSome := by
  unfold names rule? Entries.keys
  induction g.rules with
  | nil => simp [Entries.get?]
  | cons entry rules ih =>
    rw [Entries.get?_cons, List.map_cons, List.mem_cons, ih]
    by_cases h : entry.1 = n
    · simp [h]
    · simp [h, Ne.symm h]

theorem mem_unbound_iff : n ∈ g.unbound ↔ n ∈ g.referenced ∧ n ∉ g.names := by
  simp [unbound, mem_names_iff]

/-- Missing names are listed in order, each once. -/
theorem pairwise_unbound (h : g.referenced.Nodup) : g.unbound.Pairwise (· < ·) := by
  have hnodup : g.unbound.Nodup := (List.mergeSort_perm ..).nodup_iff.2 (h.filter _)
  have hsorted : g.unbound.Pairwise (· ≤ ·) := List.pairwise_mergeSort' ..
  exact (hsorted.and hnodup).imp fun hlt => lt_of_le_of_ne hlt.1 hlt.2

/-- There is one such list. -/
theorem eq_unbound_iff (h : g.referenced.Nodup) {list : List String} :
    list = g.unbound ↔
      list.Pairwise (· < ·) ∧ ∀ n, n ∈ list ↔ n ∈ g.referenced ∧ n ∉ g.names := by
  refine ⟨?_, fun ⟨hsorted, hmem⟩ => ?_⟩
  · rintro rfl
    exact ⟨pairwise_unbound h, fun n => mem_unbound_iff⟩
  · exact hsorted.eq_of_mem_iff (pairwise_unbound h) fun n => (hmem n).trans mem_unbound_iff.symm

/-! ### What was referred to -/

/-- The grammar with other names that were referred to. -/
def referringTo (g : Grammar) (referenced : List String) : Grammar :=
  { g with referenced := referenced }

section ReferringTo

variable (g : Grammar) (referenced : List String)

theorem bind_referringTo (key : Value) (rule : Rule) :
    (g.referringTo referenced).bind key rule =
      (g.bind key rule).lift (·.referringTo referenced) := by
  unfold bind
  cases ruleName key with
  | error f => rfl
  | ok name => cases rule.parser.inert? <;> rfl

theorem remove_referringTo (key : Value) :
    (g.referringTo referenced).remove key = (g.remove key).referringTo referenced := by
  cases key <;> rfl

theorem update_referringTo (pairs : List (Value × Rule)) :
    (g.referringTo referenced).update pairs = (g.update pairs).lift (·.referringTo referenced) := by
  induction pairs generalizing g with
  | nil => rfl
  | cons pair pairs ih =>
    simp only [update, bind_referringTo]
    rcases g.bind pair.1 pair.2 with ⟨state, records, f | ⟨⟩⟩
    · rfl
    · simp only [Change.lift, ih]

/-- Operations take no notice of what was referred to. -/
theorem apply_referringTo {operation : Operation} (h : operation.isRefer = false) :
    (g.referringTo referenced).apply operation =
      (g.apply operation).lift (·.referringTo referenced) := by
  have hget (key : Value) : (g.referringTo referenced).get? key = g.get? key := rfl
  cases operation with
  | bind key rule =>
    simp only [apply, bind_referringTo]
    rfl
  | erase key =>
    simp only [apply, erase, get, hget, remove_referringTo]
    rcases g.get? key with f | _ | rule <;> rfl
  | pop key default =>
    simp only [apply, pop, hget, remove_referringTo]
    rcases g.get? key with f | _ | rule <;> cases default <;> rfl
  | popItem =>
    obtain ⟨label, rules, names⟩ := g
    cases rules <;> rfl
  | setDefault key rule =>
    simp only [apply, setDefault, hget, bind_referringTo]
    rcases g.get? key with f | _ | found <;> rfl
  | update pairs =>
    simp only [apply, update_referringTo]
    rfl
  | clear => rfl
  | refer name => cases h

end ReferringTo

/-- The name was referred to by one of the operations on `g`, with success. -/
def WasReferred (g : Grammar) (operations : List Operation) (n : String) : Prop :=
  ∃ earlier later, operations = earlier ++ .refer (.text n) :: later ∧
    ((g.applyAll earlier).1.apply (.refer (.text n))).result = .ok .nothing

section References

variable (g : Grammar) {operation : Operation} {operations : List Operation}

theorem apply_refer {n : String} (hn : n ≠ "") :
    g.apply (.refer (.text n)) = .done (g.referringTo (g.referenced.insert n)) .nothing := by
  simp only [apply, refer, ruleName_of_ne hn]
  rfl

/-- Whether a name is referred to with success has nothing to do with the grammar. -/
theorem wasReferred_iff : g.WasReferred operations n ↔ n ≠ "" ∧ .refer (.text n) ∈ operations := by
  constructor
  · rintro ⟨earlier, later, rfl, hresult⟩
    refine ⟨fun hn => ?_, List.mem_append_right _ (List.mem_cons_self ..)⟩
    rw [hn, (Refuses.refer ?_).apply_eq] at hresult
    · cases hresult
    · rintro ⟨n, ⟨⟩, hne⟩
      exact hne rfl
  · rintro ⟨hn, hmem⟩
    obtain ⟨earlier, later, rfl⟩ := List.append_of_mem hmem
    exact ⟨earlier, later, rfl, by rw [apply_refer _ hn]; rfl⟩

/-- Referring to a name changes nothing else. -/
theorem state_apply_refer (name : Value) :
    (g.apply (.refer name)).state = g.referringTo (g.apply (.refer name)).state.referenced := by
  simp only [apply, refer]
  cases ruleName name <;> rfl

theorem referenced_apply_of_not_refer (h : operation.isRefer = false) :
    (g.apply operation).state.referenced = g.referenced :=
  congrArg (·.state.referenced) (g.apply_referringTo g.referenced h)

/-- Only by referring to a name does an operation change what was referred to. -/
theorem referenced_apply (operation : Operation) :
    (∃ n, n ≠ "" ∧ operation = .refer (.text n) ∧
      (g.apply operation).state.referenced = g.referenced.insert n) ∨
    ((∀ n, n ≠ "" → operation ≠ .refer (.text n)) ∧
      (g.apply operation).state.referenced = g.referenced) := by
  cases hrefer : operation.isRefer with
  | false =>
    refine Or.inr ⟨?_, g.referenced_apply_of_not_refer hrefer⟩
    rintro n - rfl
    cases hrefer
  | true =>
    cases operation with
    | refer name =>
      by_cases hname : name.IsName
      · obtain ⟨n, rfl, hn⟩ := hname
        exact Or.inl ⟨n, hn, rfl, by rw [apply_refer g hn]; rfl⟩
      · refine Or.inr ⟨?_, by rw [(Refuses.refer hname).apply_eq]; rfl⟩
        rintro n hn ⟨⟩
        exact hname ⟨n, rfl, hn⟩
    | _ => cases hrefer

theorem mem_referenced_apply :
    n ∈ (g.apply operation).state.referenced ↔
      n ∈ g.referenced ∨ n ≠ "" ∧ .refer (.text n) = operation := by
  rcases g.referenced_apply operation with ⟨m, hm, rfl, heq⟩ | ⟨hnot, heq⟩
  · rw [heq, List.mem_insert_iff, or_comm]
    refine or_congr_right ⟨?_, ?_⟩
    · rintro rfl
      exact ⟨hm, rfl⟩
    · rintro ⟨-, ⟨⟩⟩
      rfl
  · rw [heq, or_iff_left]
    rintro ⟨hn, rfl⟩
    exact hnot n hn rfl

theorem mem_referenced_applyAll :
    n ∈ (g.applyAll operations).1.referenced ↔ n ∈ g.referenced ∨ g.WasReferred operations n := by
  rw [wasReferred_iff]
  induction operations generalizing g with
  | nil => simp [Grammar.applyAll]
  | cons operation operations ih =>
    refine (ih _).trans ?_
    rw [mem_referenced_apply, List.mem_cons, or_assoc, ← and_or_left]

theorem nodup_referenced_applyAll (h : g.referenced.Nodup) :
    (g.applyAll operations).1.referenced.Nodup := by
  induction operations generalizing g with
  | nil => exact h
  | cons operation operations ih =>
    refine ih _ ?_
    rcases g.referenced_apply operation with ⟨n, -, -, heq⟩ | ⟨-, heq⟩
    · exact heq ▸ h.insert
    · exact heq ▸ h

/-- What was referred to has no influence on the rules. -/
theorem rules_applyAll_filter (referenced : List String) :
    ((g.referringTo referenced).applyAll (operations.filter fun operation =>
      !operation.isRefer)).1.rules = (g.applyAll operations).1.rules := by
  induction operations generalizing g referenced with
  | nil => rfl
  | cons operation operations ih =>
    cases hrefer : operation.isRefer with
    | false =>
      rw [List.filter_cons_of_pos (by rw [hrefer]; rfl), Grammar.applyAll,
        g.apply_referringTo referenced hrefer]
      exact ih _ referenced
    | true =>
      cases operation with
      | refer name =>
        rw [List.filter_cons_of_neg (Bool.false_ne_true ·), Grammar.applyAll, g.state_apply_refer]
        exact ih (g.referringTo (g.apply (.refer name)).state.referenced) referenced
      | _ => cases hrefer

end References

/-! ### Names with a rule -/

/-- The name that has a rule under the key, if there is one. -/
def namesUnder (g : Grammar) : Value → List String
  | .text n => if n ∈ g.names then [n] else []
  | _ => []

/-- The names that lose their rule by the operation. -/
def removed (g : Grammar) : Operation → List String
  | .erase key | .pop key _ => g.namesUnder key
  | .popItem => g.names.take 1
  | .clear => g.names
  | .bind .. | .setDefault .. | .update _ | .refer _ => []

theorem mem_names_insert {m : String} {rule : Rule} :
    m ∈ (g.insert n rule).names ↔ m ∈ g.names ∨ m = n := by
  have hkeys : (g.insert n rule).names = if n ∈ g.names then g.names else g.names ++ [n] :=
    Entries.keys_insert ..
  rw [hkeys]
  split
  · next hn =>
    refine (or_iff_left_of_imp ?_).symm
    rintro rfl
    exact hn
  · rw [List.mem_append, List.mem_singleton]

theorem mem_names_bind {key : Value} {rule : Rule} (h : (g.bind key rule).result = .ok ()) :
    n ∈ (g.bind key rule).state.names ↔ n ∈ g.names ∨ .text n ∈ [key] := by
  rcases g.bind_cases key rule with ⟨m, rfl, -, -, hbind⟩ | ⟨f, -, hbind⟩
  · rw [hbind, mem_names_insert, List.mem_singleton, Value.text.injEq]
  · rw [hbind] at h
    cases h

theorem mem_names_update {pairs : List (Value × Rule)} (h : (g.update pairs).result = .ok ()) :
    n ∈ (g.update pairs).state.names ↔ n ∈ g.names ∨ .text n ∈ pairs.map (·.1) := by
  induction pairs generalizing g with
  | nil => simp [update, Change.done]
  | cons pair pairs ih =>
    rcases hbind : (g.bind pair.1 pair.2).result with f | ⟨⟩
    · simp only [update, hbind] at h
      cases h
    · simp only [update, hbind] at h ⊢
      rw [ih h, mem_names_bind hbind, or_assoc, ← List.mem_append]
      rfl

theorem mem_names_setDefault {key : Value} {rule found : Rule}
    (h : (g.setDefault key rule).result = .ok found) :
    n ∈ (g.setDefault key rule).state.names ↔ n ∈ g.names ∨ .text n ∈ [key] := by
  rcases hget : g.get? key with f | _ | old
  · simp only [setDefault, hget] at h
    cases h
  · simp only [setDefault, hget] at h ⊢
    obtain ⟨⟨⟩, hbind⟩ := Change.result_of_map h
    exact mem_names_bind hbind
  · simp only [setDefault, hget]
    obtain ⟨m, rfl, hrule⟩ := get?_eq_some hget
    refine (or_iff_left_of_imp fun hmem => ?_).symm
    cases List.mem_singleton.1 hmem
    exact mem_names_iff.2 (hrule ▸ rfl)

namespace Follows

variable {label : String} {h : History} (hg : g.Follows label h)

include hg

theorem removal_eq (key : Value) : h.removal key = (g.namesUnder key).map .remove := by
  cases key with
  | text n =>
    rw [History.removal, namesUnder, hg.names]
    simp only [History.mem_names_iff]
    split <;> rfl
  | _ => rfl

/-- After an operation that succeeds, those names have a rule that have kept theirs, and the keys of
the operation. -/
theorem mem_names_apply {operation : Operation} {yield : Yield}
    (hresult : (g.apply operation).result = .ok yield) :
    n ∈ (g.apply operation).state.names ↔
      n ∈ g.names ∧ n ∉ g.removed operation ∨ .text n ∈ operation.keys := by
  -- A removal is told from its acts, anything else from its rules.
  have hremoval (hacts : h.acts operation = (g.removed operation).map .remove)
      (hkeys : operation.keys = []) : n ∈ (g.apply operation).state.names ↔
        n ∈ g.names ∧ n ∉ g.removed operation ∨ .text n ∈ operation.keys := by
    rw [(hg.enacts_apply operation).follows.names, hacts, History.mem_names_after_remove, hg.names,
      hkeys, or_iff_left List.not_mem_nil]
  cases operation with
  | bind key rule =>
    obtain ⟨⟨⟩, hbind⟩ := Change.result_of_map hresult
    rw [removed, and_iff_left List.not_mem_nil]
    exact mem_names_bind hbind
  | setDefault key rule =>
    obtain ⟨found, hset⟩ := Change.result_of_map hresult
    rw [removed, and_iff_left List.not_mem_nil]
    exact mem_names_setDefault hset
  | update pairs =>
    obtain ⟨⟨⟩, hupdate⟩ := Change.result_of_map hresult
    rw [removed, and_iff_left List.not_mem_nil]
    exact mem_names_update hupdate
  | erase key | pop key default => exact hremoval (hg.removal_eq key) rfl
  | popItem => exact hremoval (by rw [History.acts, removed, hg.names]) rfl
  | clear => exact hremoval (by rw [History.acts, removed, hg.names]) rfl
  | refer name =>
    have hnames : (g.apply (.refer name)).state.names = g.names := by
      rw [g.state_apply_refer]
      rfl
    rw [hnames, removed, and_iff_left List.not_mem_nil, Operation.keys,
      or_iff_left List.not_mem_nil]

end Follows

/-! ### Histories -/

/-- **Missing names are exact over every history.** Take a new grammar and any operations on it,
whether or not they fail. The names that it misses are listed in the order of their characters, each
once, and they are those that were referred to with success and have no rule now. So the list is the
same after other operations that differ in their references only, if the same names were referred to
with success. Another operation that succeeds, and is no reference, takes the names off the list
that it binds, and puts those back that lose their rule by it and were referred to.

A session comes down to such operations for each grammar in it. Among them are the references that a
command makes while it builds parsers, also if this or the command fails later. A grammar that a
session makes has been updated with its initial rules. -/
theorem unbound_exact :
    (∀ label operations,
      let start : Grammar := { name := label }
      let g := (start.applyAll operations).1
      (∀ list, list = g.unbound ↔ list.Pairwise (· < ·) ∧
        ∀ n, n ∈ list ↔ start.WasReferred operations n ∧ n ∉ g.names) ∧
      (∀ others, others.filter (!·.isRefer) = operations.filter (!·.isRefer) →
        (∀ n, start.WasReferred others n ↔ start.WasReferred operations n) →
        (start.applyAll others).1.unbound = g.unbound) ∧
      (∀ operation yield, operation.isRefer = false → (g.apply operation).result = .ok yield →
        ∀ n, n ∈ (g.apply operation).state.unbound ↔
          (n ∈ g.unbound ∨ n ∈ g.removed operation ∧ start.WasReferred operations n) ∧
            .text n ∉ operation.keys)) ∧
    (∀ (w : Workspace) (id : RegistryId) label before,
      let start : Grammar := { name := label }
      w.registries[id]? = some (.grammar (start.applyAll before).1) →
      ∀ steps, (w.after steps).registries[id]? =
        some (.grammar (start.applyAll (before ++ w.operationsIn id steps)).1)) ∧
    (∀ (w : Workspace) name label rules reply,
      (w.step name (.newGrammar label rules)).1.result = .ok reply →
      ∃ pairs w', (Blueprint.buildPairs [] rules).run.run { w with journal := #[] } =
          (.ok pairs, w') ∧
        (w.step name (.newGrammar label rules)).2.registryNamed? name =
          some (.grammar (({ name := label } : Grammar).applyAll [.update pairs]).1)) := by
  refine ⟨?_, ?_, fun w name label rules reply => Workspace.registryNamed?_newGrammar⟩
  · intro label operations start g
    have hg : g.Follows label (History.through [] operations) :=
      ((follows_nil label).applyAll operations).1
    have hnodup (all : List Operation) : (start.applyAll all).1.referenced.Nodup :=
      start.nodup_referenced_applyAll List.nodup_nil
    have hreferred (all : List Operation) (n : String) :
        n ∈ (start.applyAll all).1.referenced ↔ start.WasReferred all n :=
      start.mem_referenced_applyAll.trans (or_iff_right List.not_mem_nil)
    refine ⟨fun list => ?_, fun others hfilter hothers => ?_, fun operation yield hop hok n => ?_⟩
    · simp only [g, eq_unbound_iff (hnodup _), hreferred]
    · have hrules : (start.applyAll others).1.rules = g.rules := by
        rw [← start.rules_applyAll_filter [], hfilter]
        exact start.rules_applyAll_filter []
      have hnames : (start.applyAll others).1.names = g.names := congrArg Entries.keys hrules
      refine (eq_unbound_iff (hnodup _)).2 ⟨pairwise_unbound (hnodup _), fun n => ?_⟩
      rw [mem_unbound_iff, hnames, hreferred, hreferred, hothers]
    · rw [mem_unbound_iff, mem_unbound_iff, referenced_apply_of_not_refer g hop,
        hg.mem_names_apply hok, hreferred]
      tauto
  · intro w id label before start hid steps
    rw [applyAll_append]
    exact Workspace.grammar_after hid steps

end Grammar

end GrammarKit
