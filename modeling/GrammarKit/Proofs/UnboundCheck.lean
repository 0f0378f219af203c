import GrammarKit.Proofs.RunFaults
import GrammarKit.Proofs.Sessions

/-!
# The check for unbound names

A grammar can list the names that it misses before anything is parsed. If it misses none, then no
application ends with an unbound name, whatever was done to the grammar before.

* `Parser.exists_unbound_reference` — only references end with an unbound name;
* `Workspace.startingWith` — the workspace at the beginning of a session;
* `Workspace.Sound.isBound` — remembered names are bound if their grammar misses none;
* `run_ne_unbound_of_checked` — the check is sound in every session.
-/

namespace GrammarKit

/-- Only a reference ends with an unbound name, unless a formatter or a function does so of its own
accord. -/
theorem Parser.exists_unbound_reference {scope : Scope} {p : Parser} {limit : Nat} {c : Cursor}
    {s : Store} {name : Value} {notice : Notice}
    (hformat : ¬ scope.Raises p (.misuse (.unbound name) notice))
    (hcustom : ∀ matcher, scope.Reaches p (.custom matcher) → ∀ c s,
      (matcher c s).outcome ≠ .fault (.misuse (.unbound name) notice))
    (h : (p.run scope limit c s).outcome = .fault (.misuse (.unbound name) notice)) :
    ∃ registry key, scope.Reaches p (.reference registry key) ∧ scope registry key = none := by
  generalize hf : Fault.misuse (.unbound name) notice = f at h
  rcases exists_failsAt_of_run .self limit c s f h with heq | heq | ⟨q, d, room, hq, hfail⟩
  · cases hf.trans heq
  · cases hf.trans heq
  cases hfail with
  | format hformat' hraise =>
    have hcan : scope.CanRaise p (.misuse (.unbound name) notice) :=
      ⟨q, _, room, _, _, _, hq, hformat', hf ▸ hraise⟩
    exact absurd (hcan.raises nofun) hformat
  | unbound _ hbound => exact ⟨_, _, hq, hbound⟩
  | custom hraise => exact absurd (hf ▸ hraise) (hcustom _ hq _ _)
  | leaf hraise =>
    rcases Leaf.fault_cases hraise with rfl | ⟨pos, rfl⟩
    · cases hf
    · cases hf
  | notKey | inert => cases hf

/-! ### Names that no grammar misses -/

/-- If a grammar misses no name, all names that it remembers are bound. -/
theorem Grammar.exists_rule_of_unbound_eq_nil {g : Grammar} {n : String} (h : g.unbound = [])
    (hn : n ∈ g.referenced) : ∃ rule, g.rule? n = some rule := by
  have hnil : g.referenced.filter (fun n => (g.rule? n).isNone) = [] :=
    List.Perm.eq_nil (h ▸ (List.mergeSort_perm _ _).symm)
  have hbound : ¬ g.rule? n = none := by simpa using List.filter_eq_nil_iff.1 hnil n hn
  exact Option.ne_none_iff_exists'.1 hbound

namespace Workspace

/-- The workspace at the beginning of a session, with hand-written parsers in its variables. -/
def startingWith (charNames : CharNames) (grammarName tableName : String)
    (hand : List (String × Matcher)) : Workspace :=
  { initial charNames grammarName tableName with
    locals := hand.mapIdx fun id entry => (entry.1, ⟨id, .custom entry.2⟩)
    nextRule := hand.length }

theorem sound_startingWith (charNames : CharNames) (grammarName tableName : String)
    (hand : List (String × Matcher)) :
    (startingWith charNames grammarName tableName hand).Sound where
  locals entry hentry := by
    obtain ⟨id, hid, rfl⟩ := List.mem_mapIdx.1 hentry
    exact covers_of_parts nofun nofun
  entries registry hregistry := by
    simp only [startingWith, initial, List.mem_toArray, List.mem_cons, List.not_mem_nil,
      or_false] at hregistry
    rcases hregistry with rfl | rfl
    · exact List.forall_mem_nil _
    · exact List.forall_mem_nil _
  parsers g hg := by
    simp only [startingWith, initial, List.mem_toArray, List.mem_cons, List.not_mem_nil, or_false,
      Registry.grammar.injEq, reduceCtorEq] at hg
    subst hg
    exact List.forall_mem_nil _

end Workspace

namespace Workspace.Sound

variable {w : Workspace}

/-- What a parser reaches has no other references than those remembered. -/
theorem everywhere_covers (h : w.Sound) {p : Parser} (hp : w.Covers p) :
    w.scope.Everywhere w.Covers p := by
  refine .of_closed hp (fun q hq r hr id name hmem => hq id name ?_) ?_
  · rw [Parser.subtrees_eq]
    exact List.mem_cons_of_mem _ (List.mem_flatMap.2 ⟨r, hr, hmem⟩)
  · intro id name r _ hr
    obtain ⟨registry, hregistry, hmem⟩ := List.mem_flatMap.1 (scope_eq_some hr).2
    obtain ⟨entry, hentry, rfl⟩ := List.mem_map.1 hmem
    exact h.entries registry (Array.mem_toList_iff.1 hregistry) entry hentry

/-- A remembered name is bound to a parser if the grammar that remembers it misses none. -/
theorem isBound (h : w.Sound) {id : RegistryId} {name : Value} (hname : w.Remembers id name)
    (hunbound : ∀ g, w.registries[id]? = some (.grammar g) → g.unbound = []) :
    ∃ target, w.scope id name = some target := by
  obtain ⟨g, n, hid, rfl, hn⟩ := hname
  obtain ⟨rule, hrule⟩ := Grammar.exists_rule_of_unbound_eq_nil (hunbound g hid) hn
  obtain ⟨entry, hentry, rfl⟩ := List.mem_map.1 (Entries.mem_of_get? hrule)
  have hinert := h.parsers g (Array.mem_of_getElem? hid) entry hentry
  have hget : (Registry.grammar g).get? (.text n) = .ok (some entry.2) := by
    simp [Registry.get?, Grammar.get?, Value.keyObstacle?, hrule]
  refine ⟨entry.2.parser, scope_eq_some_iff.2 ⟨_, hid, entry.2, hget, rfl, fun hnull => ?_⟩⟩
  rw [hnull] at hinert
  cases hinert

end Workspace.Sound

/-- **The check is sound.** Take any session that begins with hand-written parsers in variables and
in which grammars make all references. Let `p` be a parser that was built in the course of it, or a
rule that a registry holds at the end. If then no grammar that `p` refers to misses a name, no
application of `p` ends with an unbound name, unless one of its formatters or hand-written parsers
does so of its own accord. -/
theorem run_ne_unbound_of_checked {charNames : CharNames} {grammarName tableName : String}
    {hand : List (String × Matcher)} {earlier later : List (String × Command)}
    (hearlier : ∀ step ∈ earlier, step.2.isTracked = true)
    (hlater : ∀ step ∈ later, step.2.isTracked = true) {b : Blueprint} (hb : b.isTracked = true)
    {rule : Rule} {w' w : Workspace}
    (hbuild : b.build.run.run
      ((Workspace.startingWith charNames grammarName tableName hand).after earlier) =
        (.ok rule, w'))
    (hw : w'.after later = w) {p : Parser}
    (hp : p = rule.parser ∨ ∃ registry ∈ w.registries, p ∈ registry.entries.map (·.2.parser))
    (hunbound : ∀ id name g, w.scope.Reaches p (.reference id name) →
      w.registries[id]? = some (.grammar g) → g.unbound = [])
    (hformat : ∀ name notice, ¬ w.scope.Raises p (.misuse (.unbound name) notice))
    (hcustom : ∀ matcher, w.scope.Reaches p (.custom matcher) → ∀ c s name notice,
      (matcher c s).outcome ≠ .fault (.misuse (.unbound name) notice))
    (limit : Nat) (c : Cursor) (s : Store) (name : Value) (notice : Notice) :
    (p.run w.scope limit c s).outcome ≠ .fault (.misuse (.unbound name) notice) := by
  have hstart := Workspace.sound_startingWith charNames grammarName tableName hand
  obtain ⟨hsound', -, hrule⟩ := b.secures_build hb (hstart.after hearlier).1
  rw [hbuild] at hsound' hrule
  obtain ⟨hsound, hkept⟩ := hsound'.after hlater
  rw [hw] at hsound hkept
  have hcovers : w.Covers p := by
    rcases hp with rfl | ⟨registry, hregistry, hmem⟩
    · exact (hrule rule rfl).kept hkept
    · obtain ⟨entry, hentry, rfl⟩ := List.mem_map.1 hmem
      exact hsound.entries registry hregistry entry hentry
  intro hfault
  obtain ⟨id, key, hreach, hnone⟩ :=
    Parser.exists_unbound_reference (hformat name notice)
      (fun matcher hmatcher c s => hcustom matcher hmatcher c s name notice) hfault
  have hname := hsound.everywhere_covers hcovers _ hreach id key (Parser.self_mem_subtrees _)
  obtain ⟨target, htarget⟩ := hsound.isBound hname fun g => hunbound id key g hreach
  cases hnone.symm.trans htarget

/-- A row is built. Then a reference to its end is made, but the parser around it is not, since no
repetition has a negative minimum. -/
def rowEarlier : List (String × Command) :=
  [("grammar", .assign "row"
    (.sequence [.ref "grammar" (.text "item"),
      .optional (.ref "grammar" (.text "row")) .identity] .identity)),
    ("grammar", .assign "lost"
      (.sequence [.ref "grammar" (.text "end"),
        .repetition (.leaf .rest) (.int (-1)) .identity] .identity))]

/-- A row or its end. -/
def rowBlueprint : Blueprint :=
  .alternation [.stored "row", .ref "grammar" (.text "end")] .identity

/-- The names are bound, one of them after it was taken away. -/
def rowLater : List (String × Command) :=
  [("grammar", .bind (.text "row") (.stored "row")),
    ("grammar", .bindRule (.text "item") (.stored "any")),
    ("grammar", .pop (.text "item") none),
    ("grammar", .setDefault (.text "end") (some (.literal (.text "") .identity))),
    ("grammar", .update [(.text "item", .stored "any")])]

/-- The parser of a row. -/
def rowParser : Parser :=
  .sequence
    [.reference 0 (.text "item"), .optional (.reference 0 (.text "row")) .identity] .identity

/-- The parser of a row or its end. -/
def rowOrEnd : Parser :=
  .alternation [rowParser, .reference 0 (.text "end")] .identity

/-- The workspace in which that parser was built. No name is bound yet. -/
def rowMiddle : Workspace where
  registries := #[.grammar { referenced := ["end", "row", "item"] }, .table []]
  names := [("grammar", 0), ("table", 1)]
  locals := [("any", ⟨0, .custom Matcher.anyChar⟩), ("row", ⟨4, rowParser⟩)]
  nextRule := 9

theorem run_ne_unbound_of_checked_row :
    rowBlueprint.build.run.run
      ((Workspace.startingWith (fun _ => none) "grammar" "table" [("any", Matcher.anyChar)]).after
        rowEarlier) = (.ok ⟨8, rowOrEnd⟩, rowMiddle) ∧
    (∀ g, .grammar g ∈ (rowMiddle.after rowLater).registries → g.unbound = []) ∧
    ∀ limit c s name notice, (rowOrEnd.run (rowMiddle.after rowLater).scope limit c s).outcome ≠
      .fault (.misuse (.unbound name) notice) := by
  have hbuild : rowBlueprint.build.run.run
      ((Workspace.startingWith (fun _ => none) "grammar" "table" [("any", Matcher.anyChar)]).after
        rowEarlier) = (.ok ⟨8, rowOrEnd⟩, rowMiddle) := rfl
  have hregistries : (rowMiddle.after rowLater).registries =
      #[.grammar {
          rules := [("row", ⟨4, rowParser⟩), ("end", ⟨9, .literal "" .identity⟩),
            ("item", ⟨0, .custom Matcher.anyChar⟩)]
          referenced := ["end", "row", "item"] }, .table []] := rfl
  have hunbound : ∀ g, .grammar g ∈ (rowMiddle.after rowLater).registries → g.unbound = [] := by
    rw [hregistries]
    simp [Grammar.unbound, Grammar.rule?, Entries.get?]
  -- All formatters leave results as they are, and the hand-written parser takes any character.
  have hall : (rowMiddle.after rowLater).scope.Everywhere
      (fun q => (∀ format, q.format? = some format → format = .identity) ∧
        ∀ matcher, q = .custom matcher → matcher = Matcher.anyChar) rowOrEnd := by
    refine Scope.everywhere_of_subtrees ?_ fun id name r hr => ?_
    · simp [rowOrEnd, rowParser, Parser.subtrees, Parser.subtreesIn, Parser.format?]
    · have hmem := (Workspace.scope_eq_some hr).2
      rw [hregistries] at hmem
      simp only [Registry.entries, List.flatMap_cons, List.map_cons, List.map_nil, List.flatMap_nil,
        List.append_nil, List.mem_cons, List.not_mem_nil, or_false] at hmem
      rcases hmem with rfl | rfl | rfl
      · simp [rowParser, Parser.subtrees, Parser.subtreesIn, Parser.format?]
      · simp [Parser.subtrees, Parser.format?]
      · simp [Parser.subtrees, Parser.format?]
  refine ⟨hbuild, hunbound, run_ne_unbound_of_checked (by decide) (by decide) (by decide) hbuild rfl
    (Or.inl rfl) ?_ ?_ ?_⟩
  · exact fun _ _ g _ hid => hunbound g (Array.mem_of_getElem? hid)
  · rintro name notice ⟨q, format, tag, payload, s, hq, hformat, hraise⟩
    obtain rfl := (hall q hq).1 format hformat
    obtain ⟨room, hroom⟩ := hraise.exists
    cases hroom
  · rintro matcher hq c s name notice hfault
    obtain rfl := (hall _ hq).2 matcher rfl
    rcases Leaf.fault_cases (l := .anyChar) hfault with heq | ⟨_, heq⟩
    · cases heq
    · cases heq

end GrammarKit
