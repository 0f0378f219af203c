import GrammarKit.Proofs.Comparison
import GrammarKit.Proofs.Lookup

/-!
# Going ahead

Parsers look at their source from the cursor on and nowhere else. A match ends in the same source
and not before the cursor, and all that is applied on the way is applied at such cursors, too. This
is so as long as it is true of the parsers that are written by hand.

* `Parser.IsForward` — a parser that is written by hand advances;
* `Parser.observed` — the matcher of a parser with an observer of all applications below it;
* `observed_matches_run` — an observer who minds only other cursors has nothing to report;
* `run_advances` — the matchers of parsers advance;
* `run_cursors_ahead` — both together.
-/

namespace GrammarKit

/-- If the parser is written by hand, it advances. -/
def Parser.IsForward (p : Parser) : Prop :=
  ∀ matcher, p.handWritten? = some matcher → matcher.Advances

/-- The matcher of a parser with an observer. Each time a part or a rule is applied at a cursor, the
events that the observer has for the two are reported first. -/
def Parser.observed (watch : Parser → Cursor → List Event) (scope : Scope) :
    (limit : Nat) → Parser → Matcher
  | 0, _ => fun _ => .fault .recursionLimit
  | limit + 1, p =>
    p.layer scope limit (fun format => format.within limit) fun q c =>
      (observed watch scope limit q c).after (watch q c)

variable {scope : Scope} {p : Parser}

/-- The comparison that asks for equal reports at the cursors ahead of a given one. -/
def Comparison.from (c : Cursor) : Comparison :=
  same c.Before (fun d n h => h.trans (.forward d n)) fun _ => False

/-- An observer who has nothing to say about the cursors ahead has nothing to report, and matches
end at such cursors. -/
theorem observed_matches_run {watch : Parser → Cursor → List Event} {c : Cursor}
    (hwatch : ∀ q d, c.Before d → watch q d = []) (hhand : scope.Everywhere Parser.IsForward p)
    (limit : Nat) :
    (Comparison.from c).Matchers (p.observed watch scope limit) (p.run scope limit) := by
  induction limit generalizing p with
  | zero => exact fun _ _ _ => Comparison.runs_fault rfl
  | succ limit ih =>
    have hbelow : ∀ q, scope.Everywhere Parser.IsForward q → (Comparison.from c).Matchers
        (fun d => (q.observed watch scope limit d).after (watch q d)) (q.run scope limit) := by
      rintro q hq d _ ⟨rfl, hd⟩
      show (Comparison.from c).Runs ((q.observed watch scope limit d).after (watch q d)) _
      rw [hwatch q d hd]
      exact ih hq d d ⟨rfl, hd⟩
    rw [Parser.run_succ]
    refine Comparison.same_matchers_layer (Or.inl rfl) ?_
      (fun q hq => hbelow q (hhand.part hq)) ?_
    · exact fun matcher hmatcher d s v rest hd h =>
        hd.trans (hhand.self matcher hmatcher d s v rest h)
    · rintro registry name rfl
      exact Comparison.matchers_found fun target hfound => hbelow target (hhand.rule hfound)

theorem observed_eq_run (watch : Parser → Cursor → List Event) {c : Cursor}
    (hwatch : ∀ q d, c.Before d → watch q d = []) (hhand : scope.Everywhere Parser.IsForward p)
    (limit : Nat) (s : Store) :
    p.observed watch scope limit c s = p.run scope limit c s ∧
      ∀ v rest, (p.observed watch scope limit c s).outcome = .matched v rest → c.Before rest := by
  have h := observed_matches_run hwatch hhand limit c c ⟨rfl, .refl c⟩ s
  rcases Comparison.same_reports_iff.1 h with ⟨_, _, ⟨⟩⟩ | h
  exact h

/-- The matcher of a parser advances if those of the parsers that are written by hand do. -/
theorem run_advances (hhand : scope.Everywhere Parser.IsForward p) (limit : Nat) :
    (p.run scope limit).Advances := by
  intro c s v rest hmatched
  obtain ⟨heq, hrest⟩ := observed_eq_run (fun _ _ => []) (fun _ _ _ => rfl) hhand limit s
  exact hrest v rest (heq ▸ hmatched)

/-- **Cursors only go ahead.** Let the parsers that are written by hand, and that `p` reaches, keep
the source and never lead backwards. If an application of `p` matches, it ends in the same source,
between the cursor and the end. And every application on the way is at such a cursor: an observer
who is told of all of them, but has something to report about other cursors only, reports nothing.
-/
theorem run_cursors_ahead (hhand : scope.Everywhere Parser.IsForward p) (limit : Nat) (c : Cursor)
    (s : Store) :
    (∀ v rest, (p.run scope limit c s).outcome = .matched v rest →
      rest.source = c.source ∧ c.pos ≤ rest.pos ∧ rest.pos ≤ c.source.size) ∧
    ∀ watch : Parser → Cursor → List Event,
      (∀ q d, d.source = c.source → c.pos ≤ d.pos → d.pos ≤ c.source.size → watch q d = []) →
      p.observed watch scope limit c s = p.run scope limit c s := by
  constructor
  · intro v rest hmatched
    have hbefore := run_advances hhand limit c s v rest hmatched
    exact ⟨hbefore.1, hbefore.2, hbefore.1 ▸ rest.pos_le⟩
  · intro watch hwatch
    refine (observed_eq_run watch (fun q d hd => hwatch q d hd.1 hd.2 ?_) hhand limit s).1
    exact hd.1 ▸ d.pos_le

/-- Of the hand-written parsers, only those that skip characters backwards go back. -/
theorem Leaf.advances {l : Leaf} (h : ∀ count, l = .skip count → 0 ≤ count) :
    l.matcher.Advances := by
  intro c s v rest hmatched
  cases l with
  | anyChar =>
    simp only [matcher, Matcher.anyChar] at hmatched
    cases hnext : c.next? with
    | none => simp [hnext, Run.mismatch] at hmatched
    | some char =>
      simp only [hnext, Run.matched, Outcome.matched.injEq] at hmatched
      exact hmatched.2 ▸ .forward c 1
  | rest =>
    cases hmatched
    exact .forward c _
  | position =>
    cases hmatched
    exact .refl c
  | skip count =>
    obtain ⟨n, rfl⟩ := Int.eq_ofNat_of_zero_le (h count rfl)
    simp only [matcher, Matcher.skip, Cursor.advance_natCast, Run.matched,
      Outcome.matched.injEq] at hmatched
    exact hmatched.2 ▸ .forward c n
  | never => cases hmatched
  | broken => cases hmatched

/-- An observer of the cursors that are not ahead of a given one. -/
def watchBehind (c : Cursor) : Parser → Cursor → List Event := fun _ d =>
  if d.source = c.source ∧ c.pos ≤ d.pos then [] else [.mark (.enter "behind" d.pos)]

/-- A parser that goes back is seen when the one after it is applied. -/
example :
    let c := (Cursor.start "ab").forward 1
    let p := Parser.sequence [.leaf (.skip 1), .leaf (.skip (-2)), .leaf .rest] .identity
    (p.observed (watchBehind c) (fun _ _ => none) 2 c {}).events =
      [.mark (.enter "behind" 0)] := rfl

/-- Words in brackets, and any other characters, which are read by a parser written by hand. -/
def bracketedWords : Parser :=
  .repetition
    (.alternation
      [.sequence [.literal "(" .identity, .reference 0 (.text "words"), .literal ")" .identity]
        .identity,
        .leaf .anyChar] .identity) 0 .identity

/-- The workspace with this as its only rule. -/
def wordWorkspace : Workspace := .ofRule "words" bracketedWords

/-- The cursor after the first character of a source with brackets. -/
def bracketCursor : Cursor := (Cursor.start "x(ab)y").forward 1

/-- The words inside the brackets leave no bracket that closes, so the bracket that opens is an
ordinary character in the end. -/
theorem run_cursors_ahead_words :
    (∃ v rest, (bracketedWords.run wordWorkspace.scope 12 bracketCursor {}).outcome =
        .matched v rest ∧
      rest.source = bracketCursor.source ∧ bracketCursor.pos ≤ rest.pos ∧
      rest.pos ≤ bracketCursor.source.size) ∧
    bracketedWords.observed (watchBehind bracketCursor) wordWorkspace.scope 12 bracketCursor {} =
      bracketedWords.run wordWorkspace.scope 12 bracketCursor {} := by
  have hforward : ∀ q ∈ bracketedWords.subtrees, q.IsForward := by
    simp [bracketedWords, Parser.subtrees, Parser.subtreesIn, Parser.IsForward,
      Parser.handWritten?, Leaf.advances]
  have hhand : wordWorkspace.scope.Everywhere Parser.IsForward bracketedWords :=
    Workspace.everywhere_ofRule hforward hforward
  obtain ⟨hahead, hobserved⟩ := run_cursors_ahead hhand 12 bracketCursor {}
  constructor
  · exact ⟨_, _, rfl, hahead _ _ rfl⟩
  · exact hobserved (watchBehind bracketCursor) fun q d hsource hpos _ =>
      if_pos ⟨hsource, hpos⟩

end GrammarKit
