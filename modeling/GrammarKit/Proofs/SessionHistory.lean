import GrammarKit.Proofs.Refusals
import GrammarKit.Proofs.Sessions

/-!
# What sessions do to a grammar

A command builds some parsers and then performs an operation, and building performs some as well: it
refers to names, one after the other up to the first fault. So after any session a grammar is as the
operations in the session leave it, and what was given up half-way counts as far as it went.

* `Work.ifDone` — what is listed for a computation, if it does not fail;
* `Blueprint.asks`, `Command.asks` — the operations that registries are asked for;
* `Work.Does`, `Work.Asks` — a computation leaves grammars as these operations do;
* `Blueprint.asks_build`, `Command.does_execute` — so do building and commands;
* `Workspace.operationsIn`, `Workspace.grammar_after` — a session as the history of a grammar.
-/

namespace GrammarKit

open Work

/-! ### What registries are asked for -/

/-- What is listed for the result of a computation and the workspace after it; nothing if it
fails. -/
def Work.ifDone {α β : Type} (m : Work α) (w : Workspace) (list : α → Workspace → List β) :
    List β :=
  match m.run.run w with
  | (.ok a, w') => list a w'
  | (.error _, _) => []

namespace Blueprint

mutual

/-- The operations that registries are asked for while the blueprint is built, in order: only
grammars are, and only for names. -/
def asks : Blueprint → Workspace → List (String × Operation)
  | ref registry name, _ => [(registry, .refer name)]
  | sequence children _, w | alternation children _, w => asksAll children w
  | optional child _, w | repetition child _ _, w | probe _ child, w => asks child w
  | inert _, _ | literal _ _, _ | charClass _ _, _ | lookup _ _, _ | rule _ _, _ | stored _, _
  | leaf _, _ => []

/-- The operations that registries are asked for while several blueprints are built. -/
def asksAll : List Blueprint → Workspace → List (String × Operation)
  | [], _ => []
  | child :: children, w => asks child w ++ child.build.ifDone w fun _ => asksAll children

end

/-- The operations that registries are asked for while rules are built. -/
def pairAsks : List (Value × Blueprint) → Workspace → List (String × Operation)
  | [], _ => []
  | (key, blueprint) :: pairs, w =>
    blueprint.asks w ++ blueprint.build.ifDone w fun _ w =>
      (ofExcept (Table.checkKey key) : Work Unit).ifDone w fun _ => pairAsks pairs

/-- The operations that registries are asked for while an optional blueprint is built. -/
def optionAsks : Option Blueprint → Workspace → List (String × Operation)
  | some blueprint, w => blueprint.asks w
  | none, _ => []

end Blueprint

/-- The operations that registries are asked for by a command on the registry with the given name.
-/
def Command.asks (name : String) : Command → Workspace → List (String × Operation)
  | newGrammar _ rules, w | newTable rules, w => Blueprint.pairAsks rules w
  | assign _ parser, w | attempt _ parser _, w => parser.asks w
  | bind key parser, w | bindRule key parser, w =>
    parser.asks w ++ parser.build.ifDone w fun rule _ => [(name, .bind key rule)]
  | erase key, _ => [(name, .erase key)]
  | pop key default, w =>
    Blueprint.optionAsks default w ++
      (buildOption default).ifDone w fun rule _ => [(name, .pop key rule)]
  | popItem, _ => [(name, .popItem)]
  | setDefault key parser, w =>
    Blueprint.optionAsks parser w ++ (buildOption parser).ifDone w fun rule w =>
      (rule.getDM (fresh (.inert .null))).ifDone w fun rule _ => [(name, .setDefault key rule)]
  | update rules, w =>
    Blueprint.pairAsks rules w ++
      (Blueprint.buildPairs [] rules).ifDone w fun pairs _ => [(name, .update pairs)]
  | clear, _ => [(name, .clear)]
  | index _, _ | get _, _ | has _, _ | length, _ | truth, _ | summary, _ | showName, _
  | compare _, _ | engine _, _ => []

namespace Workspace

/-- Those of the operations that the registry with the handle is asked for. -/
def operationsOn (w : Workspace) (id : RegistryId) (asks : List (String × Operation)) :
    List Operation :=
  (asks.filter fun ask => Entries.get? w.names ask.1 == some id).map (·.2)

/-- The operations that the registry with the handle is asked for in a session. -/
def operationsIn (w : Workspace) (id : RegistryId) : List (String × Command) → List Operation
  | [] => []
  | (name, command) :: steps =>
    w.operationsOn id (command.asks name { w with journal := #[] }) ++
      (w.step name command).2.operationsIn id steps

variable {w w' : Workspace} {id : RegistryId} {asks later : List (String × Operation)}

theorem operationsOn_append :
    w.operationsOn id (asks ++ later) = w.operationsOn id asks ++ w.operationsOn id later := by
  simp [operationsOn]

theorem operationsOn_congr (h : w'.names = w.names) :
    w'.operationsOn id asks = w.operationsOn id asks := by
  rw [operationsOn, operationsOn, h]

theorem operationsOn_singleton {name : String} {operation : Operation} :
    w.operationsOn id [(name, operation)] =
      if Entries.get? w.names name = some id then [operation] else [] := by
  by_cases h : Entries.get? w.names name = some id <;> simp [operationsOn, h]

end Workspace

/-! ### Computations and what they ask for -/

namespace Work

variable {α β : Type} {w : Workspace} {m : Work α} {k : α → Work β}
  {asks : List (String × Operation)} {later : α → Workspace → List (String × Operation)}

theorem ifDone_nil {γ : Type} : m.ifDone w (fun _ _ => ([] : List γ)) = [] := by
  unfold ifDone
  split <;> rfl

/-- From `w`, the computation leaves every grammar as the operations do that it is asked for. -/
def Does (m : Work α) (w : Workspace) (asks : List (String × Operation)) : Prop :=
  ∀ (id : RegistryId) (g : Grammar), w.registries[id]? = some (.grammar g) →
    (m.run.run w).2.registries[id]? = some (.grammar (g.applyAll (w.operationsOn id asks)).1)

/-- The computation does no more than this: registries keep their names. -/
structure Asks (m : Work α) (w : Workspace) (asks : List (String × Operation)) : Prop where
  does : m.Does w asks
  names : (m.run.run w).2.names = w.names

/-- What follows on a result asks for its operations after those before. -/
theorem Asks.bind_does (h : m.Asks w asks)
    (hk : ∀ a w', m.run.run w = (.ok a, w') → (k a).Does w' (later a w')) :
    (m >>= k).Does w (asks ++ m.ifDone w later) := by
  intro id g hid
  obtain ⟨hdoes, hnames⟩ := h
  have hdone := hdoes id g hid
  unfold ifDone
  rcases hrun : m.run.run w with ⟨f | a, w'⟩
  · rw [hrun] at hdone
    rw [run_bind_of_error hrun, List.append_nil]
    exact hdone
  · rw [hrun] at hdone hnames
    rw [run_bind_of_ok hrun, hk a w' hrun id _ hdone, Workspace.operationsOn_append,
      Workspace.operationsOn_congr hnames, Grammar.applyAll_append]

theorem Asks.bind (h : m.Asks w asks)
    (hk : ∀ a w', m.run.run w = (.ok a, w') → (k a).Asks w' (later a w')) :
    (m >>= k).Asks w (asks ++ m.ifDone w later) := by
  refine ⟨h.bind_does fun a w' hrun => (hk a w' hrun).does, ?_⟩
  have hnames := h.names
  rcases hrun : m.run.run w with ⟨f | a, w'⟩
  · rw [hrun] at hnames
    rw [run_bind_of_error hrun]
    exact hnames
  · rw [hrun] at hnames
    rw [run_bind_of_ok hrun]
    exact (hk a w' hrun).names.trans hnames

/-- Only what the computation does in this workspace matters. -/
theorem Asks.congr {m' : Work α} (h : m'.Asks w asks) (hrun : m.run.run w = m'.run.run w) :
    m.Asks w asks := by
  obtain ⟨hdoes, hnames⟩ := h
  rw [Does, ← hrun] at hdoes
  exact ⟨hdoes, hrun ▸ hnames⟩

theorem does_nil (h : (m.run.run w).2.registries = w.registries) : m.Does w [] := by
  intro id g hid
  rw [h]
  exact hid

theorem Steady.asks_nil (h : m.Steady) : m.Asks w [] :=
  ⟨does_nil (h w).registries, (h w).names⟩

/-- What follows on a result does nothing to the grammars that are there. -/
theorem Asks.andThen_does (h : m.Asks w asks) (hk : ∀ a w', (k a).Does w' []) :
    (m >>= k).Does w asks := by
  have hall := h.bind_does fun a w' _ => hk a w'
  rwa [ifDone_nil, List.append_nil] at hall

/-- What follows on a result asks for nothing. -/
theorem Asks.andThen (h : m.Asks w asks) (hk : ∀ a, (k a).Steady) : (m >>= k).Asks w asks := by
  have hall := h.bind fun a w' _ => (hk a).asks_nil
  rwa [ifDone_nil, List.append_nil] at hall

/-- Only what follows on a result asks for something. -/
theorem Steady.bind_asks (h : m.Steady)
    (hk : ∀ a w', m.run.run w = (.ok a, w') → (k a).Asks w' (later a w')) :
    (m >>= k).Asks w (m.ifDone w later) :=
  h.asks_nil.bind hk

/-- Where no grammar is, it makes no difference what is asked for. -/
theorem asks_of_no_grammar {name : String} {operation : Operation}
    (hnone : ∀ (id : RegistryId) (g : Grammar), Entries.get? w.names name = some id →
      w.registries[id]? ≠ some (.grammar g))
    (hrun : (m.run.run w).2 = w) : m.Asks w [(name, operation)] := by
  refine ⟨fun id g hid => ?_, congrArg (·.names) hrun⟩
  rw [Workspace.operationsOn_singleton, if_neg fun hname => hnone id g hname hid, hrun]
  exact hid

section Registries

variable {name : String} {operation : Operation}

/-- A registry may be without a name. -/
theorem asks_registryId_bind {k : RegistryId → Work β}
    (hk : ∀ id, Entries.get? w.names name = some id → (k id).Asks w [(name, operation)]) :
    (registryId name >>= k).Asks w [(name, operation)] := by
  cases hname : Entries.get? w.names name with
  | none =>
    have hrun : (registryId name).run.run w = (.error (.missingKey (.text name)), w) := by
      unfold registryId
      rw [run_bind_of_ok (m := get) rfl, hname]
      rfl
    refine asks_of_no_grammar (fun id g h => ?_) (congrArg Prod.snd (run_bind_of_error hrun))
    cases hname.symm.trans h
  | some id =>
    have hrun : (registryId name).run.run w = (.ok id, w) := by
      unfold registryId
      rw [run_bind_of_ok (m := get) rfl, hname]
      rfl
    exact (hk id hname).congr (run_bind_of_ok hrun)

/-- A name may be without a registry. -/
theorem asks_registry_bind {k : Registry → Work β}
    (hk : ∀ id registry, Entries.get? w.names name = some id → w.registries[id]? = some registry →
      (k registry).Asks w [(name, operation)]) :
    (registry name >>= k).Asks w [(name, operation)] := by
  cases hregistry : w.registryNamed? name with
  | none =>
    have hrun : (registry name).run.run w = (.error (.missingKey (.text name)), w) := by
      unfold registry
      rw [run_bind_of_ok (m := get) rfl, hregistry]
      rfl
    refine asks_of_no_grammar (fun id g hname hid => ?_)
      (congrArg Prod.snd (run_bind_of_error hrun))
    simp [Workspace.registryNamed?, hname, hid] at hregistry
  | some found =>
    have hrun : (registry name).run.run w = (.ok found, w) := by
      unfold registry
      rw [run_bind_of_ok (m := get) rfl, hregistry]
      rfl
    obtain ⟨id, hname, hid⟩ := Option.bind_eq_some_iff.1 hregistry
    exact (hk id found hname hid).congr (run_bind_of_ok hrun)

/-- An operation that is performed is asked for. -/
theorem asks_perform (name : String) (operation : Operation) :
    (perform name operation).Asks w [(name, operation)] := by
  refine asks_registryId_bind fun id hname => asks_registry_bind fun _ registry hname' hid => ?_
  cases hname.symm.trans hname'
  -- All that is done after the change to the registry is steady.
  have hsteady := steady_settle (registry.apply operation)
    (w.setRegistry id (registry.apply operation).state)
  refine ⟨fun id' g hid' => ?_, hsteady.names⟩
  refine (congrArg (·[id']?) hsteady.registries).trans ?_
  rw [Workspace.operationsOn_singleton, hname, Workspace.setRegistry_getElem? hid]
  by_cases heq : id = id'
  · subst heq
    cases hid.symm.trans hid'
    rw [if_pos rfl, if_pos rfl]
    rfl
  · rw [if_neg heq, if_neg fun h => heq (Option.some.inj h)]
    exact hid'

end Registries

end Work

/-! ### Building -/

namespace Blueprint

theorem steady_formatted (make : Formatter → Parser) (format : Recipe) :
    (do fresh (make (← formatter format))).Steady :=
  (steady_formatter format).bind fun _ => steady_fresh _

mutual

/-- **Building does what it asks for**, also if it fails. -/
theorem asks_build {w : Workspace} : (b : Blueprint) → b.build.Asks w (b.asks w)
  | inert _ => (steady_fresh _).asks_nil
  | literal _ format =>
    ((steady_ofExcept _).bind fun _ => steady_formatted _ format).asks_nil
  | charClass _ format =>
    (steady_get.bind fun _ => (steady_ofExcept _).bind fun _ =>
      steady_formatted _ format).asks_nil
  | sequence children format => (asks_buildAll children).andThen fun _ => steady_formatted _ format
  | alternation children format =>
    (asks_buildAll children).andThen fun _ => steady_formatted _ format
  | optional child format => (asks_build child).andThen fun _ => steady_formatted _ format
  | repetition child _ format =>
    (asks_build child).andThen fun _ =>
      (steady_ofExcept _).bind fun _ => steady_formatted _ format
  | ref registry name =>
    asks_registryId_bind fun _ _ => (asks_perform registry (.refer name)).andThen fun _ =>
      steady_fresh _
  | lookup registry _ =>
    ((steady_registryId registry).bind fun _ => steady_fresh _).asks_nil
  | rule registry _ => ((steady_registry registry).bind fun _ => steady_ofExcept _).asks_nil
  | stored name => (steady_variableRule name).asks_nil
  | leaf _ => (steady_fresh _).asks_nil
  | probe _ inner => (asks_build inner).andThen fun _ => steady_fresh _

/-- Building several blueprints does what it asks for. -/
theorem asks_buildAll {w : Workspace} : (bs : List Blueprint) → (buildAll bs).Asks w (asksAll bs w)
  | [] => (steady_pure _).asks_nil
  | child :: children =>
    (asks_build child).bind fun _ _ _ => (asks_buildAll children).andThen fun _ => steady_pure _

end

/-- Building rules does what it asks for. -/
theorem asks_buildPairs {w : Workspace} (entries : List (Value × Rule))
    (pairs : List (Value × Blueprint)) : (buildPairs entries pairs).Asks w (pairAsks pairs w) := by
  induction pairs generalizing w entries with
  | nil => exact (steady_pure _).asks_nil
  | cons pair pairs ih =>
    refine (asks_build pair.2).bind fun rule w _ => ?_
    exact (steady_ofExcept _).bind_asks fun _ _ _ => ih _

theorem asks_buildOption {w : Workspace} (b : Option Blueprint) :
    (buildOption b).Asks w (optionAsks b w) := by
  cases b with
  | none => exact (steady_pure _).asks_nil
  | some b => exact (asks_build b).andThen fun _ => steady_pure _

end Blueprint

/-! ### Commands and sessions -/

namespace Command

variable {w : Workspace}

theorem asks_reply (name : String) (operation : Operation) :
    (do replyOf (← perform name operation)).Asks w [(name, operation)] :=
  (asks_perform name operation).andThen steady_replyOf

/-- A registry that comes in does not touch those that are there. -/
theorem does_addRegistry (name : String) (registry : Registry) :
    (do modify (fun w : Workspace => w.addRegistry name registry); return Reply.nothing :
      Work Reply).Does w [] := by
  intro id g hid
  have hlt : id < w.registries.size := (Array.getElem?_eq_some_iff.1 hid).1
  exact (Array.getElem?_push_lt hlt).trans ((Array.getElem?_eq_getElem hlt).symm.trans hid)

/-- A rule is bound in grammars only. -/
theorem asks_bindRule (name : String) (key : Value) (rule : Rule) :
    (do
      match ← registry name with
      | .grammar _ => let _ ← perform name (.bind key rule)
      | .table _ => throw (Table.missing "rule")
      return Reply.truth true : Work Reply).Asks w [(name, .bind key rule)] := by
  refine asks_registry_bind fun id registry hname hid => ?_
  cases registry with
  | grammar g => exact (asks_perform name _).andThen fun _ => steady_pure _
  | table t =>
    refine asks_of_no_grammar (fun id' g hname' hid' => ?_) rfl
    cases hname.symm.trans hname'
    cases hid.symm.trans hid'

/-- **Every command does what it asks for**, also if it fails. -/
theorem does_execute (name : String) (command : Command) :
    (command.execute name).Does w (command.asks name w) := by
  cases command with
  | newGrammar label rules =>
    refine (Blueprint.asks_buildPairs [] rules).andThen_does fun pairs w => ?_
    exact (steady_settle _).asks_nil.andThen_does fun _ w => does_addRegistry name _
  | newTable rules =>
    exact (Blueprint.asks_buildPairs [] rules).andThen_does fun pairs w => does_addRegistry name _
  | assign target parser => exact parser.asks_build.andThen_does fun rule w => does_nil rfl
  | bind key parser => exact (parser.asks_build.bind fun rule _ _ => asks_reply name _).does
  | bindRule key parser =>
    exact (parser.asks_build.bind fun rule _ _ => asks_bindRule name key rule).does
  | erase key => exact (asks_reply name _).does
  | pop key default =>
    exact ((Blueprint.asks_buildOption default).bind fun rule _ _ => asks_reply name _).does
  | popItem => exact (asks_reply name _).does
  | setDefault key parser =>
    refine ((Blueprint.asks_buildOption parser).bind fun rule _ _ => ?_).does
    have hsteady : (rule.getDM (fresh (.inert .null))).Steady := by
      cases rule with
      | some rule => exact steady_pure rule
      | none => exact steady_fresh _
    exact hsteady.bind_asks fun _ _ _ => asks_reply name _
  | update rules =>
    exact ((Blueprint.asks_buildPairs [] rules).bind fun pairs _ _ => asks_reply name _).does
  | clear => exact (asks_reply name _).does
  | attempt trial parser source =>
    exact (parser.asks_build.andThen fun _ => steady_tryParser trial _ source).does
  | index _ | get _ | has _ | length | truth | summary | showName | compare _ | engine _ =>
    exact (steady_execute name rfl).asks_nil.does

end Command

namespace Workspace

variable {id : RegistryId} {g : Grammar}

/-- **One step.** A grammar is then as the operations that the command asks it for leave it. -/
theorem grammar_step {w : Workspace} (hid : w.registries[id]? = some (.grammar g)) (name : String)
    (command : Command) :
    (w.step name command).2.registries[id]? = some (.grammar (g.applyAll
      (w.operationsOn id (command.asks name { w with journal := #[] }))).1) :=
  command.does_execute name id g hid

/-- **A whole session.** A grammar is then as all the operations that it was asked for leave it. -/
theorem grammar_after {w : Workspace} (hid : w.registries[id]? = some (.grammar g))
    (steps : List (String × Command)) :
    (w.after steps).registries[id]? =
      some (.grammar (g.applyAll (w.operationsIn id steps)).1) := by
  induction steps generalizing w g with
  | nil => exact hid
  | cons step steps ih =>
    refine (ih (grammar_step hid step.1 step.2)).trans ?_
    rw [operationsIn, Grammar.applyAll_append]

/-- What comes before a fault was asked for. -/
example : (Workspace.initial (fun _ => none) "g" "t").operationsIn 0
    [("g", .assign "p" (.sequence [.ref "g" (.text "a"), .literal .null (.chain []),
      .ref "g" (.text "b")] (.chain []))), ("g", .erase (.text "a"))] =
    [.refer (.text "a"), .erase (.text "a")] := rfl

/-- A grammar that a session makes has been updated with its initial rules. -/
theorem registryNamed?_newGrammar {w : Workspace} {name label : String}
    {rules : List (Value × Blueprint)} {reply : Reply}
    (h : (w.step name (.newGrammar label rules)).1.result = .ok reply) :
    ∃ pairs w', (Blueprint.buildPairs [] rules).run.run { w with journal := #[] } =
        (.ok pairs, w') ∧
      (w.step name (.newGrammar label rules)).2.registryNamed? name =
        some (.grammar (({ name := label } : Grammar).applyAll [.update pairs]).1) := by
  simp only [step] at h ⊢
  rcases hbuild : (Blueprint.buildPairs [] rules).run.run { w with journal := #[] } with
    ⟨f | pairs, w'⟩
  · rw [Command.execute, run_bind_of_error hbuild] at h
    cases h
  · refine ⟨pairs, w', rfl, ?_⟩
    rw [Command.run_newGrammar name label hbuild] at h ⊢
    rcases hresult : (({ name := label } : Grammar).apply (.update pairs)).result with f | yield
    · simp only [hresult] at h
      cases h
    · simp [addRegistry, registryNamed?, Grammar.applyAll]

end Workspace

end GrammarKit
