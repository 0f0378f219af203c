import GrammarKit.Proofs.Evolution
import GrammarKit.Proofs.History

/-!
# Grammars and their histories

A grammar is at any time what its history says, and it has logged what its history says, whatever
operations were done to it and whether or not they failed. Each operation comes down to acts, each
act keeps grammar and history in step, and so does any row of operations.

* `Grammar.Follows` — a grammar is as its history says;
* `Grammar.Follows.bind`, `Grammar.Follows.remove`, `Grammar.Follows.refer` — it goes on being so by
  every act;
* `Change.Enacts`, `Grammar.Follows.enacts_apply` — every operation comes down to its acts;
* `Grammar.applyAll`, `Grammar.Follows.applyAll` — many operations do;
* `Grammar.keeps_history` — what this means for a grammar from its construction on.
-/

namespace GrammarKit

theorem Entries.keys_erase {κ α : Type} [BEq κ] [LawfulBEq κ] {entries : List (κ × α)}
    (hkeys : (keys entries).Nodup) (key : κ) :
    keys (erase entries key) = (keys entries).erase key := by
  rw [hkeys.erase_eq_filter, keys, keys, erase, List.filter_map]
  rfl

/-- The first entry is taken away with its key. -/
theorem Entries.erase_cons_self {κ α : Type} [BEq κ] [LawfulBEq κ] {entry : κ × α}
    {entries : List (κ × α)} (hkeys : (keys (entry :: entries)).Nodup) :
    erase (entry :: entries) entry.1 = entries := by
  have hnot : entry.1 ∉ keys entries := (List.nodup_cons.1 hkeys).1
  rw [erase, List.filter_cons_of_neg (by simp), List.filter_eq_self]
  intro other hother
  have hne : other.1 ≠ entry.1 := fun heq => hnot (heq ▸ List.mem_map_of_mem hother)
  simpa using hne

/-- There is no act of binding a rule that cannot be bound. -/
theorem Act.binding?_eq_none {key : Value} {rule : Rule} {f : Fault} (h : rule.BindFault key f) :
    binding? key rule = none := by
  unfold binding?
  split
  · next n hparser =>
    split
    · rfl
    · next hn => exact absurd ⟨⟨n, rfl, hn⟩, hparser⟩ h.not_binds
  · rfl

namespace Grammar

/-- The grammar is as its history says: it has the rules in the order of their names, and it
remembers what was referred to. -/
structure Follows (label : String) (h : History) (g : Grammar) : Prop where
  legal : History.Legal h
  name : g.name = label
  rules : ∀ n, g.rule? n = History.rule? h n
  names : g.names = History.names h
  referenced : ∀ n, n ∈ g.referenced ↔ .refer n ∈ h

namespace Follows

variable {label : String} {h : History} {g : Grammar} {n : String} {rule : Rule}

theorem nodup_names (hg : g.Follows label h) : g.names.Nodup :=
  hg.names ▸ History.nodup_names h

/-! A grammar that follows its history goes on doing so by every act. -/

theorem bind (hg : g.Follows label h) (hname : n ≠ "") (hparser : rule.parser.inert? = none) :
    (g.insert n rule).Follows label (.bind n rule :: h) where
  legal := ⟨⟨hname, hparser⟩, hg.legal⟩
  name := hg.name
  rules m := by
    rw [History.rule?]
    split
    · next heq =>
      subst heq
      exact Entries.get?_insert_self ..
    · next hne => exact (Entries.get?_insert_of_ne _ _ hne).trans (hg.rules m)
  names := by
    rw [History.names, ← hg.names]
    exact Entries.keys_insert ..
  referenced m := (hg.referenced m).trans (by simp)

theorem remove (hg : g.Follows label h) (hrule : (History.rule? h n).isSome) :
    (g.remove (.text n)).Follows label (.remove n :: h) where
  legal := ⟨hrule, hg.legal⟩
  name := hg.name
  rules m := by
    rw [History.rule?]
    split
    · next heq =>
      subst heq
      exact Entries.get?_erase_self ..
    · next hne => exact (Entries.get?_erase_of_ne _ hne).trans (hg.rules m)
  names := by
    rw [History.names, ← hg.names]
    exact Entries.keys_erase hg.nodup_names n
  referenced m := (hg.referenced m).trans (by simp)

theorem refer (hg : g.Follows label h) (n : String) :
    ({ g with referenced := g.referenced.insert n } : Grammar).Follows label (.refer n :: h) where
  legal := hg.legal
  name := hg.name
  rules := hg.rules
  names := hg.names
  referenced m := by simp [List.mem_insert_iff, hg.referenced m]

theorem bindRecord_eq (hg : g.Follows label h) (n : String) :
    g.bindRecord n =
      if (History.rule? h n).isSome then .rebound label n else .bound label n := by
  rw [bindRecord, hg.rules, hg.name]

/-- A rule is found where the history has one, under a name. -/
theorem get?_cases (hg : g.Follows label h) (key : Value) :
    (∃ n rule, key = .text n ∧ History.rule? h n = some rule ∧ g.get? key = .ok (some rule)) ∨
    (History.find? h key = none ∧ (g.get? key = .ok none ∨ ∃ f, g.get? key = .error f)) := by
  by_cases htext : ∃ n, key = .text n
  · obtain ⟨n, rfl⟩ := htext
    rw [g.get?_text, hg.rules]
    cases hrule : History.rule? h n with
    | some rule => exact Or.inl ⟨n, rule, rfl, hrule, rfl⟩
    | none => exact Or.inr ⟨hrule, Or.inl rfl⟩
  · have hname := not_exists.1 htext
    refine Or.inr ⟨?_, ?_⟩
    · unfold History.find?
      split
      · exact absurd rfl (hname _)
      · rfl
    · rw [g.get?_of_not_text hname]
      cases key.keyObstacle? with
      | some typeName => exact Or.inr ⟨_, rfl⟩
      | none => exact Or.inl rfl

end Follows

/-- A rule is bound if there is an act of doing so, and refused otherwise. -/
theorem bind_cases_act (g : Grammar) (key : Value) (rule : Rule) :
    (∃ n, Act.binding? key rule = some (.bind n rule) ∧ n ≠ "" ∧ rule.parser.inert? = none ∧
      g.bind key rule = ⟨g.insert n rule, [g.bindRecord n], .ok ()⟩) ∨
    (Act.binding? key rule = none ∧ ∃ f, g.bind key rule = .refused g f) := by
  rcases g.bind_cases key rule with ⟨n, rfl, hname, hparser, hbind⟩ | ⟨f, hfault, hbind⟩
  · exact Or.inl ⟨n, by simp [Act.binding?, hparser, hname], hname, hparser, hbind⟩
  · exact Or.inr ⟨Act.binding?_eq_none hfault, f, hbind⟩

/-- A rule is bound with success if this is an act. -/
theorem isOk_bind_iff (g : Grammar) (h : History) (key : Value) (rule : Rule) :
    (g.apply (.bind key rule)).result.isOk ↔ History.acts h (.bind key rule) ≠ [] := by
  rcases g.bind_cases_act key rule with ⟨n, hact, -, -, hbind⟩ | ⟨hact, f, hbind⟩
  · simp [apply, hbind, Change.map, Except.map, Except.isOk, Except.toBool, History.acts, hact]
  · simp [apply, hbind, Change.map, Change.refused, Except.map, Except.isOk, Except.toBool,
      History.acts, hact]

/-- What is left of a grammar without its first rule. -/
theorem remove_first {g : Grammar} {entry : String × Rule} {rules : List (String × Rule)}
    (hrules : g.rules = entry :: rules) (hnames : g.names.Nodup) :
    g.remove (.text entry.1) = { g with rules := rules } := by
  rw [names, hrules] at hnames
  rw [remove, hrules, Entries.erase_cons_self hnames]

end Grammar

/-- From a grammar with the history `h`, the change comes down to the acts: they give the history
afterwards, and they are what is logged. -/
structure Change.Enacts {α : Type} (label : String) (h : History) (acts : List Act)
    (change : Change Grammar α) : Prop where
  follows : change.state.Follows label (History.after h acts)
  records : History.records label (History.after h acts) =
    History.records label h ++ change.records

theorem Change.Enacts.map {α β : Type} {label : String} {h : History} {acts : List Act}
    {change : Change Grammar α} (henacts : change.Enacts label h acts) (f : α → β) :
    (change.map f).Enacts label h acts :=
  ⟨henacts.follows, henacts.records⟩

namespace Grammar.Follows

variable {label : String} {h : History} {g : Grammar} {n : String} {rule : Rule} {α : Type}

/-! ### What the operations come down to -/

theorem enacts_done (hg : g.Follows label h) (value : α) :
    (Change.done g value).Enacts label h [] :=
  ⟨hg, (List.append_nil _).symm⟩

theorem enacts_refused (hg : g.Follows label h) (f : Fault) :
    (Change.refused g f : Change Grammar α).Enacts label h [] :=
  ⟨hg, (List.append_nil _).symm⟩

theorem enacts_remove (hg : g.Follows label h) (hrule : (History.rule? h n).isSome) (value : α) :
    (Change.done (g.remove (.text n)) value).Enacts label h [.remove n] :=
  ⟨hg.remove hrule, (List.append_nil _).symm⟩

theorem enacts_bind (hg : g.Follows label h) (key : Value) (rule : Rule) :
    (g.bind key rule).Enacts label h (Act.binding? key rule).toList := by
  rcases g.bind_cases_act key rule with ⟨n, hact, hname, hparser, hbind⟩ | ⟨hact, f, hbind⟩
  · rw [hact, hbind, hg.bindRecord_eq]
    exact ⟨hg.bind hname hparser, rfl⟩
  · rw [hact, hbind]
    exact hg.enacts_refused f

/-- Several rules are bound one after the other, up to the first that is refused. -/
theorem enacts_update (hg : g.Follows label h) (pairs : List (Value × Rule)) :
    (g.update pairs).Enacts label h (Act.bindings pairs) := by
  induction pairs generalizing g h with
  | nil => exact hg.enacts_done ()
  | cons pair pairs ih =>
    obtain ⟨key, rule⟩ := pair
    rcases g.bind_cases_act key rule with ⟨n, hact, hname, hparser, hbind⟩ | ⟨hact, f, hbind⟩
    · simp only [update, Act.bindings, hact, hbind, hg.bindRecord_eq]
      obtain ⟨hfollows, hrecords⟩ := ih (hg.bind hname hparser)
      refine ⟨hfollows, hrecords.trans ?_⟩
      rw [History.records, List.append_assoc]
    · simp only [update, Act.bindings, hact, hbind]
      exact hg.enacts_refused f

/-- A rule is taken away if there is one under the key. -/
theorem erase_cases (hg : g.Follows label h) (key : Value) :
    (∃ n, key = .text n ∧ (History.rule? h n).isSome ∧
      g.erase key = .done (g.remove (.text n)) ()) ∨
    (History.removal h key = [] ∧ ∃ f, g.erase key = .refused g f) := by
  rcases hg.get?_cases key with ⟨n, rule, rfl, hrule, hget⟩ | ⟨hnone, hget⟩
  · refine Or.inl ⟨n, rfl, hrule ▸ rfl, ?_⟩
    simp only [erase, get, hget, Except.bind, Bind.bind]
  · refine Or.inr ⟨History.removal_eq_nil hnone, ?_⟩
    rcases hget with hget | ⟨f, hget⟩
    · exact ⟨.missingKey key, by simp only [erase, get, hget, Except.bind, Bind.bind]⟩
    · exact ⟨f, by simp only [erase, get, hget, Except.bind, Bind.bind]⟩

theorem enacts_erase (hg : g.Follows label h) (key : Value) :
    (g.erase key).Enacts label h (History.removal h key) := by
  rcases hg.erase_cases key with ⟨n, rfl, hrule, herase⟩ | ⟨hacts, f, herase⟩
  · rw [herase, History.removal, if_pos hrule]
    exact hg.enacts_remove hrule ()
  · rw [herase, hacts]
    exact hg.enacts_refused f

theorem enacts_pop (hg : g.Follows label h) (key : Value) (default : Option Rule) :
    (g.pop key default).Enacts label h (History.removal h key) := by
  rcases hg.get?_cases key with ⟨n, rule, rfl, hrule, hget⟩ | ⟨hnone, hget | ⟨f, hget⟩⟩
  · have hsome : (History.rule? h n).isSome := hrule ▸ rfl
    simp only [pop, hget, History.removal, hsome, if_true]
    exact hg.enacts_remove hsome rule
  · rw [History.removal_eq_nil hnone]
    cases default with
    | some rule =>
      simp only [pop, hget]
      exact hg.enacts_done rule
    | none =>
      simp only [pop, hget]
      exact hg.enacts_refused _
  · simp only [pop, hget, History.removal_eq_nil hnone]
    exact hg.enacts_refused f

/-- A rule that is set as a default is bound only where there is none. -/
theorem enacts_setDefault (hg : g.Follows label h) (key : Value) (rule : Rule) :
    (g.setDefault key rule).Enacts label h (History.acts h (.setDefault key rule)) := by
  rcases hg.get?_cases key with ⟨n, found, rfl, hrule, hget⟩ | ⟨hnone, hget | ⟨f, hget⟩⟩
  · have hsome : (History.find? h (.text n)).isSome := by rw [History.find?, hrule]; rfl
    simp only [setDefault, hget, History.acts, hsome, if_true]
    exact hg.enacts_done found
  · simp only [setDefault, hget, History.acts, hnone, Option.isSome_none]
    exact (hg.enacts_bind key rule).map _
  · have hact : Act.binding? key rule = none := by
      unfold Act.binding?
      split
      · cases (g.get?_text _).symm.trans hget
      · rfl
    simp only [setDefault, hget, History.acts, hnone, hact]
    exact hg.enacts_refused f

/-- What is popped is the first rule, if there is one. -/
theorem popFirst_cases (hg : g.Follows label h) :
    (g.names = [] ∧ g.popFirst = .refused g .noRules) ∨
    ∃ n rule names, g.names = n :: names ∧ History.rule? h n = some rule ∧
      g.popFirst = .done (g.remove (.text n)) (n, rule) := by
  cases hrules : g.rules with
  | nil =>
    refine Or.inl ⟨congrArg Entries.keys hrules, ?_⟩
    simp only [popFirst, hrules]
  | cons entry rules =>
    refine Or.inr ⟨entry.1, entry.2, _, congrArg Entries.keys hrules, ?_, ?_⟩
    · rw [← hg.rules, rule?, hrules, Entries.get?_cons, if_pos (beq_self_eq_true _)]
    · simp only [popFirst, hrules, remove_first hrules hg.nodup_names]

theorem enacts_popFirst (hg : g.Follows label h) :
    g.popFirst.Enacts label h (History.acts h .popItem) := by
  rw [History.acts, ← hg.names]
  rcases hg.popFirst_cases with ⟨hnames, hpop⟩ | ⟨n, rule, names, hnames, hrule, hpop⟩
  · rw [hpop, hnames]
    exact hg.enacts_refused _
  · rw [hpop, hnames]
    exact hg.enacts_remove (hrule ▸ rfl) (n, rule)

/-- All rules are taken away, the first one first. The induction is on the rules. -/
theorem enacts_clear (hg : g.Follows label h) :
    g.clear.Enacts label h (History.acts h .clear) := by
  rw [History.acts, ← hg.names]
  generalize hrules : g.rules = rules
  induction rules generalizing g h with
  | nil =>
    have hclear : g.clear = .done g () := by rw [clear, ← hrules]
    have hnames : g.names = [] := congrArg Entries.keys hrules
    rw [hclear, hnames]
    exact hg.enacts_done ()
  | cons entry rules ih =>
    have hremove : g.remove (.text entry.1) = { g with rules := rules } :=
      remove_first hrules hg.nodup_names
    have hnames : g.names = entry.1 :: Entries.keys rules := congrArg Entries.keys hrules
    have hrule : (History.rule? h entry.1).isSome := by
      rw [← History.mem_names_iff, ← hg.names, hnames]
      exact List.mem_cons_self ..
    have hrest := ih (hg.remove hrule) (by rw [hremove])
    rw [hremove] at hrest
    rw [hnames]
    exact ⟨hrest.follows, hrest.records⟩

theorem enacts_refer (hg : g.Follows label h) (key : Value) :
    (g.refer key).Enacts label h (History.acts h (.refer key)) := by
  cases hname : ruleName key with
  | ok n =>
    obtain ⟨rfl, hne⟩ := ruleName_eq_ok_iff.1 hname
    simp only [Grammar.refer, hname, History.acts, hne, if_false]
    exact ⟨hg.refer n, (List.append_nil _).symm⟩
  | error f =>
    have hacts : History.acts h (.refer key) = [] := by
      cases key with
      | text n =>
        have hempty : n = "" := Decidable.byContradiction fun hne => by
          cases hname.symm.trans (ruleName_eq_ok_iff.2 ⟨rfl, hne⟩)
        rw [History.acts, if_pos hempty]
      | _ => rfl
    simp only [Grammar.refer, hname, hacts]
    exact hg.enacts_refused f

/-- **Every operation comes down to its acts.** -/
theorem enacts_apply (hg : g.Follows label h) (operation : Operation) :
    (g.apply operation).Enacts label h (History.acts h operation) := by
  cases operation with
  | bind key rule => exact (hg.enacts_bind key rule).map _
  | erase key => exact (hg.enacts_erase key).map _
  | pop key default => exact (hg.enacts_pop key default).map _
  | popItem => exact hg.enacts_popFirst.map _
  | setDefault key rule => exact (hg.enacts_setDefault key rule).map _
  | update pairs => exact (hg.enacts_update pairs).map _
  | clear => exact hg.enacts_clear.map _
  | refer key => exact (hg.enacts_refer key).map _

/-- A rule is taken away with success if this is an act. -/
theorem isOk_erase_iff (hg : g.Follows label h) (key : Value) :
    (g.apply (.erase key)).result.isOk ↔ History.acts h (.erase key) ≠ [] := by
  rcases hg.erase_cases key with ⟨n, rfl, hrule, herase⟩ | ⟨hacts, f, herase⟩
  · simp [apply, herase, Change.map, Change.done, Except.map, Except.isOk, Except.toBool,
      History.acts, History.removal, hrule]
  · simp [apply, herase, Change.map, Change.refused, Except.map, Except.isOk, Except.toBool,
      History.acts, hacts]

end Grammar.Follows

/-! ### Many operations -/

/-- The grammar after several operations, and all records that they log. -/
def Grammar.applyAll (g : Grammar) : List Operation → Grammar × List LogRecord
  | [] => (g, [])
  | operation :: operations =>
    let change := g.apply operation
    let (state, records) := change.state.applyAll operations
    (state, change.records ++ records)

namespace Grammar

theorem applyAll_append (g : Grammar) (operations later : List Operation) :
    g.applyAll (operations ++ later) =
      (((g.applyAll operations).1.applyAll later).1,
        (g.applyAll operations).2 ++ ((g.applyAll operations).1.applyAll later).2) := by
  induction operations generalizing g with
  | nil => rfl
  | cons operation operations ih =>
    simp only [List.cons_append, Grammar.applyAll, ih, List.append_assoc]

/-- **Every grammar follows its history.** -/
theorem Follows.applyAll {label : String} {h : History} {g : Grammar} (hg : g.Follows label h)
    (operations : List Operation) :
    (g.applyAll operations).1.Follows label (History.through h operations) ∧
    History.records label (History.through h operations) =
      History.records label h ++ (g.applyAll operations).2 := by
  induction operations generalizing g h with
  | nil => exact ⟨hg, (List.append_nil _).symm⟩
  | cons operation operations ih =>
    obtain ⟨hfollows, hrecords⟩ := hg.enacts_apply operation
    obtain ⟨hfollows', hrecords'⟩ := ih hfollows
    refine ⟨hfollows', hrecords'.trans ?_⟩
    rw [hrecords, List.append_assoc]
    rfl

/-- A new grammar has no history. -/
theorem follows_nil (label : String) : ({ name := label } : Grammar).Follows label [] where
  legal := trivial
  name := rfl
  rules _ := rfl
  names := rfl
  referenced _ := by simp

/-- **A grammar is a map of valid bindings in order of insertion.** Take a new grammar and any
operations on it, with valid arguments or not; if it has initial rules, the first operation is the
update with these. Let `h` be the history of what the operations came down to: a binding for each
pair of a name and a parser that was bound, and a removal for each rule that was taken away. Then

* the keys are distinct names, each bound to a parser;
* the keys are those with a rule in the history, in the order in which they were last bound while
  they had none;
* a look-up finds the rule that was bound last, unless it was taken away since then;
* the next binding or removal succeeds just if it is an act of the history;
* the next item to be popped is the first one;
* a record was logged for each binding, of a name that was bound if it had no rule and of one that
  was rebound if it had; so there are as many names as those less the removals. -/
theorem keeps_history (label : String) (operations : List Operation) :
    let h : History := History.through [] operations
    let g := (({ name := label } : Grammar).applyAll operations).1
    let records := (({ name := label } : Grammar).applyAll operations).2
    (g.names.Nodup ∧ ∀ n ∈ g.names, n ≠ "" ∧
      ∃ rule, g.get? (.text n) = .ok (some rule) ∧ rule.parser.inert? = none) ∧
    ((∀ n, n ∈ g.names ↔ (h.rule? n).isSome) ∧
      g.names.Pairwise fun m n => h.entered m < h.entered n) ∧
    (∀ n, g.get? (.text n) = .ok (h.rule? n)) ∧
    ((∀ key rule, (g.apply (.bind key rule)).result.isOk ↔ h.acts (.bind key rule) ≠ []) ∧
      ∀ key, (g.apply (.erase key)).result.isOk ↔ h.acts (.erase key) ≠ []) ∧
    ((g.names = [] ∧ g.apply .popItem = .refused g .noRules) ∨
      ∃ n rule names, g.names = n :: names ∧ h.rule? n = some rule ∧
        g.apply .popItem = .done (g.remove (.text n)) (.entry (.text n) rule) ∧
        (g.remove (.text n)).names = names) ∧
    records = h.records label ∧
    records.countP LogRecord.isBound = g.names.length + h.removals := by
  intro h g records
  obtain ⟨hg, hrecords⟩ := (follows_nil label).applyAll operations
  have hlookup : ∀ n, g.get? (.text n) = .ok (h.rule? n) := fun n =>
    (g.get?_text n).trans (congrArg Except.ok (hg.rules n))
  have hmem : ∀ n, n ∈ g.names ↔ (h.rule? n).isSome := fun n =>
    hg.names ▸ History.mem_names_iff
  have hlog : records = h.records label := hrecords.symm
  refine ⟨⟨hg.nodup_names, fun n hn => ?_⟩, ⟨hmem, ?_⟩, hlookup,
    ⟨isOk_bind_iff g h, hg.isOk_erase_iff⟩, ?_, hlog, ?_⟩
  · obtain ⟨rule, hrule⟩ := Option.isSome_iff_exists.1 ((hmem n).1 hn)
    obtain ⟨hname, hparser⟩ := History.Legal.rule hg.legal hrule
    exact ⟨hname, rule, hrule ▸ hlookup n, hparser⟩
  · exact hg.names ▸ History.pairwise_names h
  · rcases hg.popFirst_cases with ⟨hnames, hpop⟩ | ⟨n, rule, names, hnames, hrule, hpop⟩
    · exact Or.inl ⟨hnames, congrArg (Change.map _) hpop⟩
    · refine Or.inr ⟨n, rule, names, hnames, hrule, congrArg (Change.map _) hpop, ?_⟩
      rw [(hg.remove (hrule ▸ rfl)).names, History.names, ← hg.names, hnames,
        List.erase_cons_head]
  · rw [hlog, hg.names]
    exact History.countP_records label hg.legal

end Grammar

end GrammarKit
