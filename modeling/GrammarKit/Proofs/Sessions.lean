import GrammarKit.Proofs.Memory
import GrammarKit.Workspace.Session

/-!
# What sessions remember

A grammar remembers the names that it was asked to refer to. So as long as all references are made
by grammars, every reference in a rule or in a variable is one that its grammar remembers, however
often rules were bound, replaced or taken away, and also if the work that made the reference was
given up half-way.

* `Blueprint.isTracked`, `Command.isTracked` — all references are made by grammars;
* `Blueprint.secures_build` — all references in a parser that was built are remembered;
* `Command.secures_execute` — a command keeps a workspace sound and makes it forget nothing;
* `Workspace.after` — the workspace after the commands of a session;
* `Workspace.Sound.after` — sessions keep workspaces sound and make them forget nothing.
-/

namespace GrammarKit

open Work

variable {w : Workspace}

/-! ### Building -/

namespace Blueprint

open Workspace

mutual

/-- Whether all references in the blueprint are made by grammars. -/
def isTracked : Blueprint → Bool
  | sequence children _ | alternation children _ => areTracked children
  | optional child _ | repetition child _ _ | probe _ child => isTracked child
  | lookup _ _ => false
  | inert _ | literal _ _ | charClass _ _ | ref _ _ | rule _ _ | stored _ | leaf _ => true

/-- Whether all references in several blueprints are made by grammars. -/
def areTracked : List Blueprint → Bool
  | [] => true
  | child :: children => isTracked child && areTracked children

end

mutual

/-- All references in a parser that was built are remembered. -/
theorem secures_build {w : Workspace} : (b : Blueprint) → b.isTracked = true →
    b.build.Secures w fun rule w' => w'.Covers rule.parser
  | inert value, _ => secures_fresh (covers_of_parts nofun nofun)
  | literal text format, _ => by
    refine ((steady_ofExcept (literalText text)).keeps w).bind fun text w _ _ => ?_
    refine secures_formatted (fun _ => ?_) format
    exact covers_of_parts nofun nofun
  | charClass pattern format, _ => by
    refine secures_get.bind ?_
    rintro names w - ⟨rfl, rfl⟩
    refine ((steady_ofExcept (classOf _ pattern)).keeps _).bind fun cls w _ _ => ?_
    refine secures_formatted (fun _ => ?_) format
    exact covers_of_parts nofun nofun
  | sequence children format, h => by
    refine (secures_buildAll children h).bind fun parsers w _ hparsers => ?_
    refine secures_formatted (fun _ => ?_) format
    exact covers_of_parts hparsers nofun
  | alternation children format, h => by
    refine (secures_buildAll children h).bind fun parsers w _ hparsers => ?_
    refine secures_formatted (fun _ => ?_) format
    exact covers_of_parts hparsers nofun
  | optional child format, h => by
    refine (secures_build child h).bind fun rule w _ hrule => ?_
    refine secures_formatted (fun _ => ?_) format
    exact covers_of_part rfl hrule
  | repetition child minimum format, h => by
    refine (secures_build child h).bind fun rule w _ hrule => ?_
    refine ((steady_ofExcept (minimumOf minimum)).keeps w).bind fun minimum w hkept _ => ?_
    refine secures_formatted (fun _ => ?_) format
    exact covers_of_part rfl (hrule.kept hkept)
  | ref registry name, _ => by
    refine (secures_registryId registry).bind ?_
    rintro id w - ⟨rfl, hid⟩
    -- The grammar takes note of the name before there is a reference to it.
    refine (secures_perform registry (List.forall_mem_nil _)).bind fun _ w _ hremembers => ?_
    exact secures_fresh (covers_reference (hremembers id name rfl hid))
  | rule registry key, _ => by
    refine .of_sound fun hw => (secures_registry registry).bind ?_
    rintro found w - ⟨rfl, hfound⟩
    exact secures_ofExcept fun rule hrule => hw.covers_of_get hfound hrule
  | stored name, _ => secures_variableRule name
  | leaf l, _ => secures_fresh (covers_of_parts nofun nofun)
  | probe label inner, h => by
    refine (secures_build inner h).bind fun rule w _ hrule => ?_
    exact secures_fresh (covers_of_part rfl hrule)

/-- All references in parsers that were built are remembered. -/
theorem secures_buildAll {w : Workspace} : (bs : List Blueprint) → areTracked bs = true →
    (buildAll bs).Secures w fun parsers w' => ∀ p ∈ parsers, w'.Covers p
  | [], _ => secures_pure nofun
  | child :: children, h => by
    obtain ⟨hchild, hchildren⟩ := Bool.and_eq_true_iff.1 h
    refine (secures_build child hchild).bind fun rule w _ hrule => ?_
    refine (secures_buildAll children hchildren).bind fun parsers w hkept hparsers => ?_
    exact secures_pure (List.forall_mem_cons.2 ⟨hrule.kept hkept, hparsers⟩)

end

/-- All references in rules that were built under their keys are remembered. -/
theorem secures_buildPairs {entries : List (Value × Rule)} {pairs : List (Value × Blueprint)}
    (hentries : ∀ entry ∈ entries, w.Covers entry.2.parser)
    (hpairs : ∀ pair ∈ pairs, pair.2.isTracked = true) :
    (buildPairs entries pairs).Secures w fun rules w' =>
      ∀ entry ∈ rules, w'.Covers entry.2.parser := by
  induction pairs generalizing w entries with
  | nil => exact secures_pure hentries
  | cons pair pairs ih =>
    obtain ⟨hpair, hpairs⟩ := List.forall_mem_cons.1 hpairs
    refine (secures_build pair.2 hpair).bind fun rule w hkept hrule => ?_
    refine ((steady_ofExcept (Table.checkKey pair.1)).keeps w).bind fun _ w hkept' _ => ?_
    refine ih (fun entry hentry => ?_) hpairs
    rcases Entries.mem_insert hentry with hentry | heq
    · exact (hentries entry hentry).kept (hkept.trans hkept')
    · exact heq ▸ hrule.kept hkept'

end Blueprint

namespace Work

theorem secures_buildOption {b : Option Blueprint} (h : ∀ inner ∈ b, inner.isTracked = true) :
    (buildOption b).Secures w fun rule w' => ∀ r ∈ rule, w'.Covers r.parser := by
  cases b with
  | none => exact secures_pure nofun
  | some b =>
    refine (b.secures_build (h b rfl)).bind fun rule w _ hrule => secures_pure ?_
    rintro _ ⟨⟩
    exact hrule

end Work

/-! ### Commands -/

namespace Command

variable {name : String}

/-- The blueprints that a command builds. -/
def blueprints : Command → List Blueprint
  | newGrammar _ rules | newTable rules | update rules => rules.map (·.2)
  | assign _ parser | bind _ parser | bindRule _ parser | attempt _ parser _ => [parser]
  | pop _ parser | setDefault _ parser => parser.toList
  | erase _ | index _ | get _ | has _ | length | truth | summary | showName | popItem | clear => []
  | compare _ | engine _ => []

/-- Whether all references that a command makes are made by grammars. -/
def isTracked (command : Command) : Bool :=
  command.blueprints.all (·.isTracked)

theorem secures_reply {operation : Operation}
    (h : ∀ rule ∈ operation.rules, w.Covers rule.parser) :
    (do replyOf (← perform name operation)).Secures w fun _ _ => True :=
  (secures_perform name h).andThen fun yield => (steady_replyOf yield).keeps

/-- A new grammar holds the rules that it was given, and these are parsers. -/
theorem secures_newGrammar {label : String} {rules : List (Value × Blueprint)}
    (h : ∀ pair ∈ rules, pair.2.isTracked = true) :
    ((newGrammar label rules).execute name).Secures w fun _ _ => True := by
  refine (Blueprint.secures_buildPairs (List.forall_mem_nil _) h).bind fun rules w _ hrules => ?_
  have hevolves := ({ name := label } : Grammar).evolves_update rules
  have hnew := fun entry hentry => (hevolves.rules entry hentry).resolve_left List.not_mem_nil
  refine (secures_settle (Q := fun _ _ => True) fun _ _ _ _ => trivial).bind fun _ w hkept _ => ?_
  refine (secures_modify (fun hw => hw.addRegistry name ?_ ?_) (.addRegistry w name _)).andThen
    fun _ => (steady_pure _).keeps
  · intro _ hmem
    obtain ⟨entry, hentry, rfl⟩ := List.mem_map.1 hmem
    obtain ⟨pair, hpair, heq⟩ := List.mem_map.1 (hnew entry hentry).1
    exact heq ▸ (hrules pair hpair).kept hkept
  · rintro _ ⟨⟩ entry hentry
    exact (hnew entry hentry).2

theorem secures_newTable {rules : List (Value × Blueprint)}
    (h : ∀ pair ∈ rules, pair.2.isTracked = true) :
    ((newTable rules).execute name).Secures w fun _ _ => True := by
  refine (Blueprint.secures_buildPairs (List.forall_mem_nil _) h).bind fun rules w _ hrules => ?_
  refine (secures_modify (fun hw => hw.addRegistry name ?_ ?_) (.addRegistry w name _)).andThen
    fun _ => (steady_pure _).keeps
  · exact hrules
  · rintro _ ⟨⟩

/-- A default that is missing is a null value, which a grammar refuses and a table takes. -/
theorem secures_setDefault {key : Value} {parser : Option Blueprint}
    (h : ∀ b ∈ parser, b.isTracked = true) :
    ((setDefault key parser).execute name).Secures w fun _ _ => True := by
  refine (secures_buildOption h).bind fun rule w _ hrule => ?_
  cases rule with
  | some rule =>
    refine secures_reply ?_
    exact fun r hr => List.mem_singleton.1 hr ▸ hrule rule rfl
  | none =>
    have hnull : w.Covers (.inert .null) := Workspace.covers_of_parts nofun nofun
    refine (secures_fresh hnull).bind fun rule w _ hrule => secures_reply ?_
    exact fun r hr => List.mem_singleton.1 hr ▸ hrule

/-- **One step.** A command keeps a workspace sound and makes it forget nothing, also if it fails,
as long as grammars make its references. -/
theorem secures_execute (name : String) {command : Command} (h : command.isTracked = true) :
    (command.execute name).Secures w fun _ _ => True := by
  have hall : ∀ b ∈ command.blueprints, b.isTracked = true := List.all_eq_true.1 h
  cases command with
  | newGrammar label rules =>
    exact secures_newGrammar fun pair hpair => hall _ (List.mem_map_of_mem hpair)
  | newTable rules =>
    exact secures_newTable fun pair hpair => hall _ (List.mem_map_of_mem hpair)
  | assign target parser =>
    have hparser := hall parser (List.mem_singleton_self _)
    refine (parser.secures_build hparser).bind fun rule w _ hrule => ?_
    exact (secures_modify (fun hw => hw.setLocal hrule) (.of_registries rfl)).andThen
      fun _ => (steady_pure _).keeps
  | bind key parser =>
    have hparser := hall parser (List.mem_singleton_self _)
    refine (parser.secures_build hparser).bind fun rule w _ hrule => secures_reply ?_
    exact fun r hr => List.mem_singleton.1 hr ▸ hrule
  | bindRule key parser =>
    have hparser := hall parser (List.mem_singleton_self _)
    refine (parser.secures_build hparser).bind fun rule w _ hrule => ?_
    refine (secures_registry name).bind ?_
    rintro registry _ - ⟨rfl, -⟩
    cases registry with
    | grammar g =>
      refine (secures_perform name ?_).andThen fun _ => (steady_pure _).keeps
      exact fun r hr => List.mem_singleton.1 hr ▸ hrule
    | table t => exact secures_throw
  | erase key => exact secures_reply (List.forall_mem_nil _)
  | pop key default =>
    have hdefault : ∀ b ∈ default, b.isTracked = true := by simpa [blueprints] using hall
    refine (secures_buildOption hdefault).bind fun _ _ _ _ => ?_
    exact secures_reply (List.forall_mem_nil _)
  | popItem => exact secures_reply (List.forall_mem_nil _)
  | setDefault key parser =>
    have hparser : ∀ b ∈ parser, b.isTracked = true := by simpa [blueprints] using hall
    exact secures_setDefault hparser
  | update rules =>
    have hpairs : ∀ pair ∈ rules, pair.2.isTracked = true :=
      fun pair hpair => hall _ (List.mem_map_of_mem hpair)
    refine (Blueprint.secures_buildPairs (List.forall_mem_nil _) hpairs).bind
      fun rules w _ hrules => secures_reply ?_
    exact List.forall_mem_map.2 hrules
  | clear => exact secures_reply (List.forall_mem_nil _)
  | attempt trial parser source =>
    have hparser := hall parser (List.mem_singleton_self _)
    exact (parser.secures_build hparser).andThen fun _ =>
      (steady_tryParser trial _ source).keeps
  | index _ | get _ | has _ | length | truth | summary | showName | compare _ | engine _ =>
    exact (steady_execute name rfl).keeps w

end Command

/-! ### Sessions -/

namespace Workspace

/-- The workspace after the commands of a session, each executed on its registry. -/
def after (w : Workspace) (steps : List (String × Command)) : Workspace :=
  steps.foldl (fun w step => (w.step step.1 step.2).2) w

theorem Sound.step (h : w.Sound) {name : String} {command : Command}
    (hcommand : command.isTracked = true) :
    (w.step name command).2.Sound ∧ w.KeptIn (w.step name command).2 := by
  have hjournal : Sound { w with journal := #[] } := h.congr rfl rfl
  obtain ⟨hsound, hkept, -⟩ := Command.secures_execute name hcommand hjournal
  exact ⟨hsound, (KeptIn.of_registries rfl).trans hkept⟩

/-- **A whole session** keeps a workspace sound and makes it forget nothing. -/
theorem Sound.after (h : w.Sound) {steps : List (String × Command)}
    (hsteps : ∀ step ∈ steps, step.2.isTracked = true) :
    (w.after steps).Sound ∧ w.KeptIn (w.after steps) := by
  induction steps generalizing w with
  | nil => exact ⟨h, .refl w⟩
  | cons step steps ih =>
    obtain ⟨hstep, hsteps⟩ := List.forall_mem_cons.1 hsteps
    obtain ⟨hsound, hkept⟩ := h.step hstep
    obtain ⟨hsound', hkept'⟩ := ih hsound hsteps
    exact ⟨hsound', hkept.trans hkept'⟩

end Workspace

end GrammarKit
