import GrammarKit.Proofs.Comparison
import GrammarKit.Proofs.Lookup

/-!
# Bindings that matter

A parser depends on the registries through the rules that it reaches, and on nothing else about
them: not on other bindings, not on the order of the entries, not on whether a registry is a grammar
or a table, and not on the names that a grammar remembers.

* `Comparison.equal` — the comparison that asks for equal reports;
* `run_eq_of_scope_eq` — scopes that agree about reachable references give the same runs;
* `run_eq_of_finds_iff` — so do workspaces.
-/

namespace GrammarKit

/-- The comparison that asks for equal reports. -/
def Comparison.equal : Comparison := same (fun _ => True) (fun _ _ h => h) fun _ => False

/-- To agree by this comparison is to be equal. -/
theorem Comparison.equal_matchers_iff {matcher matcher' : Matcher} :
    equal.Matchers matcher matcher' ↔ matcher = matcher' := by
  constructor
  · intro h
    funext c s
    rcases same_reports_iff.1 (h c c ⟨rfl, trivial⟩ s) with ⟨_, _, ⟨⟩⟩ | ⟨heq, -⟩
    exact heq
  · rintro rfl
    exact same_matchers_self fun _ _ _ _ _ _ => trivial

variable {scope scope' : Scope} {p q : Parser}

/-- What a parser reaches is applied one level deeper, and it is reached, too. -/
theorem run_matchers_of_scope_eq
    (h : ∀ registry name, scope.Reaches p (.reference registry name) →
      scope registry name = scope' registry name) (hq : scope.Reaches p q) (limit : Nat) :
    Comparison.equal.Matchers (q.run scope limit) (q.run scope' limit) := by
  induction limit generalizing q with
  | zero => exact fun _ _ _ => Comparison.runs_fault rfl
  | succ limit ih =>
    rw [Parser.run_succ, Parser.run_succ]
    refine Comparison.same_matchers_layer (Or.inl rfl) (fun _ _ _ _ _ _ _ _ => trivial)
      (fun r hr => ih (hq.part hr)) ?_
    rintro registry name rfl
    rw [← h registry name hq]
    exact Comparison.matchers_found fun target hfound => ih (hq.rule hfound)

theorem run_eq_of_scope_eq
    (h : ∀ registry name, scope.Reaches p (.reference registry name) →
      scope registry name = scope' registry name) (limit : Nat) (c : Cursor) (s : Store) :
    p.run scope limit c s = p.run scope' limit c s := by
  rw [Comparison.equal_matchers_iff.1 (run_matchers_of_scope_eq h .self limit)]

/-- **Only reachable bindings matter.** Let two workspaces find the same parser, or nothing more
than a placeholder, for every reference that `p` reaches in the first one. Then `p` gives the same
report in both, at every cursor and under every recursion limit: the same events, outcome and shared
lists. -/
theorem run_eq_of_finds_iff {w w' : Workspace}
    (h : ∀ id name, w.scope.Reaches p (.reference id name) →
      ∀ target, w.Finds id name target ↔ w'.Finds id name target)
    (limit : Nat) (c : Cursor) (s : Store) :
    p.run w.scope limit c s = p.run w'.scope limit c s := by
  refine run_eq_of_scope_eq (fun id name hreach => Option.ext fun target => ?_) limit c s
  rw [Workspace.scope_eq_some_iff, Workspace.scope_eq_some_iff]
  exact h id name hreach target

/-- Letters up to a semicolon. -/
def lettersRule : Parser :=
  .alternation
    [.sequence [.literal "a" .identity, .reference 0 (.text "letters")] .identity,
      .literal ";" .identity] .identity

/-- Letters and what may follow them, which is a rule that nobody has bound. -/
def markedLetters : Parser :=
  .sequence
    [.reference 0 (.text "letters"), .optional (.reference 0 (.text "mark")) .identity] .identity

/-- A workspace with a grammar that remembers the missing name. -/
def letterGrammar : Workspace where
  registries := #[
    .grammar
      { rules := [("letters", ⟨0, lettersRule⟩), ("spare", ⟨1, .literal "b" .identity⟩)]
        referenced := ["letters", "mark"] },
    .table []]
  names := []

/-- A workspace with a table that has a placeholder under the missing name. -/
def letterTable : Workspace where
  registries := #[
    .table
      [(.text "mark", ⟨5, .inert .null⟩), (.text "spare", ⟨6, .reference 0 (.text "spare")⟩),
        (.int 1, ⟨7, .inert (.text "a")⟩), (.text "letters", ⟨8, lettersRule⟩)]]
  names := []

theorem run_eq_of_finds_iff_letters :
    (markedLetters.run letterGrammar.scope 12 (.start "aa;") {}).outcome =
      .fault (Parser.unboundFault 0 (.text "mark") ((Cursor.start "aa;").forward 3)) ∧
    markedLetters.run letterGrammar.scope 12 (.start "aa;") {} =
      markedLetters.run letterTable.scope 12 (.start "aa;") {} := by
  let P (q : Parser) : Prop := ∀ id name, q = .reference id name →
    id = 0 ∧ (name = .text "letters" ∨ name = .text "mark")
  have hmarked : ∀ q ∈ markedLetters.subtrees, P q := by
    simp [markedLetters, Parser.subtrees, Parser.subtreesIn, P]
  have hletters : ∀ q ∈ lettersRule.subtrees, P q := by
    simp [lettersRule, Parser.subtrees, Parser.subtreesIn, P]
  have hspare : ∀ q ∈ (Parser.literal "b" .identity).subtrees, P q := by
    simp [Parser.subtrees, P]
  have hnames : letterGrammar.scope.Everywhere P markedLetters := by
    refine Scope.everywhere_of_subtrees hmarked fun _ _ r hr => ?_
    have hrule : r = lettersRule ∨ r = .literal "b" .identity := by
      simpa [letterGrammar, Registry.entries] using (Workspace.scope_eq_some hr).2
    rcases hrule with rfl | rfl
    · exact hletters
    · exact hspare
  refine ⟨rfl, run_eq_of_finds_iff (fun id name hreach target => ?_) 12 _ {}⟩
  rw [← Workspace.scope_eq_some_iff, ← Workspace.scope_eq_some_iff]
  obtain ⟨rfl, rfl | rfl⟩ := hnames _ hreach id name rfl
  · rfl
  · rfl

end GrammarKit
