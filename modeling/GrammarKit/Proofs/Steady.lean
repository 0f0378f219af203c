import GrammarKit.Workspace.Session

/-!
# Steady computations

Most of what is computed in a workspace leaves the registries and the variables alone: looking
something up, making a parser, writing to the journal, or trying a parser out. What has to be known
of such a computation is only that it is steady.

* `Work.run_bind_of_ok`, `Work.run_bind_of_error` — how computations follow one another;
* `Workspace.Alike` — two workspaces have the same registries and variables;
* `Work.Steady` — a computation leaves them alone, also if it fails;
* `Work.steady_fresh`, `Work.steady_formatter`, `Work.steady_tryParser` — what does so;
* `Command.steady_execute` — so do commands that only ask for something.
-/

namespace GrammarKit

/-- `w'` has the registries, with their names, and the variables of `w`. -/
structure Workspace.Alike (w w' : Workspace) : Prop where
  registries : w'.registries = w.registries
  names : w'.names = w.names
  locals : w'.locals = w.locals

namespace Workspace.Alike

variable {w w₁ w₂ : Workspace}

theorem refl (w : Workspace) : w.Alike w := ⟨rfl, rfl, rfl⟩

theorem trans (h₁ : w.Alike w₁) (h₂ : w₁.Alike w₂) : w.Alike w₂ where
  registries := h₂.registries.trans h₁.registries
  names := h₂.names.trans h₁.names
  locals := h₂.locals.trans h₁.locals

end Workspace.Alike

namespace Work

variable {α β : Type} {w w' : Workspace} {m : Work α} {k : α → Work β}

/-- What follows on a result goes on where the computation left the workspace. -/
theorem run_bind_of_ok {a : α} (h : m.run.run w = (.ok a, w')) :
    (m >>= k).run.run w = (k a).run.run w' := by
  rw [ExceptT.run_bind, StateT.run_bind, h]
  rfl

theorem run_bind_of_error {f : Fault} (h : m.run.run w = (.error f, w')) :
    (m >>= k).run.run w = (.error f, w') := by
  rw [ExceptT.run_bind, StateT.run_bind, h]
  rfl

/-- The computation leaves registries and variables alone. -/
def Steady (m : Work α) : Prop := ∀ w : Workspace, w.Alike (m.run.run w).2

theorem Steady.bind (h : m.Steady) (hk : ∀ a, (k a).Steady) : (m >>= k).Steady := by
  intro w
  have hm := h w
  rcases hrun : m.run.run w with ⟨f | a, w'⟩
  · rw [hrun] at hm
    rw [run_bind_of_error hrun]
    exact hm
  · rw [hrun] at hm
    rw [run_bind_of_ok hrun]
    exact hm.trans (hk a w')

theorem steady_pure (a : α) : (pure a : Work α).Steady := Workspace.Alike.refl

theorem steady_throw (f : Fault) : (throw f : Work α).Steady := Workspace.Alike.refl

theorem steady_get : (get : Work Workspace).Steady := Workspace.Alike.refl

theorem steady_ofExcept (e : Except Fault α) : (ofExcept e : Work α).Steady := by
  cases e with
  | ok a => exact steady_pure a
  | error f => exact steady_throw f

theorem steady_modify {f : Workspace → Workspace} (h : ∀ w : Workspace, w.Alike (f w)) :
    (modify f : Work Unit).Steady := h

/-! ### Parts of computations -/

theorem steady_record (events : List Event) : (record events).Steady :=
  steady_modify fun _ => ⟨rfl, rfl, rfl⟩

theorem steady_settle {σ : Type} (change : Change σ α) : (settle change).Steady :=
  (steady_record _).bind fun _ => steady_ofExcept _

theorem steady_registryId (name : String) : (registryId name).Steady := by
  refine steady_get.bind fun w => ?_
  split
  · exact steady_pure _
  · exact steady_throw _

theorem steady_registry (name : String) : (registry name).Steady := by
  refine steady_get.bind fun w => ?_
  split
  · exact steady_pure _
  · exact steady_throw _

theorem steady_variableRule (name : String) : (variableRule name).Steady := by
  refine steady_get.bind fun w => ?_
  split
  · exact steady_pure _
  · exact steady_throw _

theorem steady_fresh (p : Parser) : (fresh p).Steady := by
  refine steady_get.bind fun w => (steady_modify ?_).bind fun _ => steady_pure _
  exact fun _ => ⟨rfl, rfl, rfl⟩

theorem steady_withStore (computation : StateM Store α) : (withStore computation).Steady := by
  refine steady_get.bind fun w => (steady_modify ?_).bind fun _ => steady_pure _
  exact fun _ => ⟨rfl, rfl, rfl⟩

theorem steady_formatter (recipe : Recipe) : (formatter recipe).Steady :=
  steady_withStore _

/-! ### Replies -/

theorem steady_holders (rule : Rule) : (holders rule).Steady := by
  unfold holders
  split
  · exact steady_pure _
  · exact steady_get.bind fun _ => steady_pure _

theorem steady_replyOf (yield : Yield) : (replyOf yield).Steady := by
  cases yield with
  | nothing => exact steady_pure _
  | rule rule => exact (steady_holders rule).bind fun _ => steady_pure _
  | entry key rule => exact (steady_holders rule).bind fun _ => steady_pure _

theorem steady_snapshot (value : Value) : (snapshot value).Steady :=
  steady_get.bind fun _ => steady_ofExcept _

theorem steady_finish (events : List Event) (store : Store) : (finish events store).Steady := by
  refine (steady_modify ?_).bind fun _ => steady_record events
  exact fun _ => ⟨rfl, rfl, rfl⟩

theorem steady_replyOfRun (run : Run Value) : (replyOfRun run).Steady := by
  refine steady_get.bind fun w => (steady_finish _ _).bind fun _ => ?_
  split
  · exact (steady_snapshot _).bind fun _ => steady_pure _
  · exact steady_pure _
  · exact steady_throw _

theorem steady_replyOfVerdict (judge : Store → Verdict) : (replyOfVerdict judge).Steady := by
  refine steady_get.bind fun w => (steady_finish _ _).bind fun _ => ?_
  refine (steady_ofExcept _).bind fun value => ?_
  exact (steady_snapshot value).bind fun _ => steady_pure _

theorem steady_sharedSource (source : Value) : (sharedSource source).Steady := by
  unfold sharedSource
  split
  · exact (steady_withStore _).bind fun _ => steady_pure _
  · exact steady_withStore _
  · exact steady_pure _

/-- Trying a parser out changes neither variables nor registries. -/
theorem steady_tryParser (trial : Trial) (parser : Parser) (source : Value) :
    (tryParser trial parser source).Steady := by
  refine steady_get.bind fun _ => steady_get.bind fun _ => ?_
  cases trial with
  | whole => exact steady_replyOfVerdict _
  | beginning => exact steady_replyOfRun _
  | fromPos pos => exact (steady_sharedSource source).bind fun _ => steady_replyOfRun _

end Work

/-! ### Commands -/

namespace Command

open Work

/-- Whether the command neither builds a parser nor changes a registry. -/
def isQuery : Command → Bool
  | index _ | get _ | has _ | length | truth | summary | showName | compare _ | engine _ => true
  | newGrammar .. | newTable _ | assign .. | bind .. | bindRule .. | erase _ | pop .. | popItem
  | setDefault .. | update _ | clear | attempt .. => false

/-- A query leaves registries and variables alone. -/
theorem steady_execute (name : String) {command : Command} (h : command.isQuery = true) :
    (command.execute name).Steady := by
  cases command with
  | index key =>
    refine (steady_registry name).bind fun _ => (steady_ofExcept _).bind fun rule => ?_
    exact (steady_holders rule).bind fun _ => steady_pure _
  | get key =>
    refine (steady_registry name).bind fun _ => (steady_ofExcept _).bind fun rule => ?_
    cases rule with
    | some rule => exact (steady_holders rule).bind fun _ => steady_pure _
    | none => exact steady_pure _
  | has key =>
    exact (steady_registry name).bind fun _ => (steady_ofExcept _).bind fun _ => steady_pure _
  | length => exact (steady_registry name).bind fun _ => steady_pure _
  | truth => exact (steady_registry name).bind fun _ => steady_pure _
  | summary => exact (steady_registry name).bind fun _ => steady_pure _
  | showName =>
    refine (steady_registry name).bind fun registry => ?_
    cases registry with
    | grammar g => exact steady_pure _
    | table t => exact steady_throw _
  | compare other =>
    refine (steady_registryId name).bind fun _ => (steady_registryId other).bind fun _ => ?_
    refine (steady_registry name).bind fun _ => ?_
    exact (steady_registry other).bind fun _ => steady_pure _
  | engine max =>
    refine (steady_modify ?_).bind fun _ => steady_pure _
    exact fun _ => ⟨rfl, rfl, rfl⟩
  | _ => cases h

end Command

end GrammarKit
