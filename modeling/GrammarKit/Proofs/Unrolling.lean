import GrammarKit.Proofs.Limits
import GrammarKit.Proofs.Progress
import GrammarKit.Proofs.Reformatting

/-!
# Unrolling repetitions

A repetition with a minimum is so many copies of its child, followed by the repetition without a
minimum. This is why a match that consumes nothing meets every minimum: once the child has such a
match, the copies that are left all have it, too.

* `Outcome.EndsLike` — two outcomes are alike but for their values;
* `Run.EndsLike` — two runs have such outcomes, however they start;
* `Run.EndsLike.branch` — branching runs end alike if what they are made of does;
* `Matcher.loop_endsLike_loop` — a minimum that is met has no influence;
* `Matcher.endsLike_row_of_still` — copies of a child that matches without moving;
* `Matcher.loop_endsLike_row` — what is left of a repetition, and what is left of its copies;
* `Parser.run_isBlind`, `endsLike_run_of_isBlind` — parsers that do not depend on the shared lists;
* `repetition_unrolled` — the law for functions, and for parsers under a recursion limit.
-/

namespace GrammarKit

variable {α β γ δ : Type}

/-! ### Ending alike -/

/-- Both outcomes are a match up to the same cursor, both a mismatch, or both the same fault. -/
inductive Outcome.EndsLike : Outcome α → Outcome β → Prop
  | matched (v : α) (v' : β) (rest : Cursor) : EndsLike (.matched v rest) (.matched v' rest)
  | mismatch : EndsLike .mismatch .mismatch
  | fault (f : Fault) : EndsLike (.fault f) (.fault f)

namespace Run

/-- Whatever the shared lists are that each of them starts from, the run ends like the other one,
unless that one ends with an excused fault. -/
def EndsLike (excused : Fault → Prop) (run : Run α) (run' : Run β) : Prop :=
  ∀ s s', (∃ f, (run' s').outcome = .fault f ∧ excused f) ∨
    (run s).outcome.EndsLike (run' s').outcome

variable {excused : Fault → Prop}

theorem endsLike_mismatch : EndsLike excused (mismatch : Run α) (mismatch : Run β) :=
  fun _ _ => Or.inr .mismatch

theorem endsLike_fault (f : Fault) : EndsLike excused (fault f : Run α) (fault f : Run β) :=
  fun _ _ => Or.inr (.fault f)

/-- Runs that look alike end alike. -/
theorem Alike.endsLike {run : Run α} {run' : Run β} (h : run.Alike run') :
    run.EndsLike excused run' := by
  intro s s'
  refine Or.inr ?_
  obtain ⟨-, ⟨v, v', rest, ho, ho'⟩ | ⟨ho, ho'⟩ | ⟨f, ho, ho'⟩⟩ := Report.look_eq_iff.1 (h s s')
  all_goals
    rw [ho, ho']
    constructor

/-- Branching runs end alike if their applications do, and after them the branches that are
taken. -/
theorem EndsLike.branch {run : Run α} {run' : Run β} {next : α → Cursor → Run γ}
    {next' : β → Cursor → Run δ} {other : Run γ} {other' : Run δ}
    (h : run.EndsLike excused run')
    (hnext : ∀ s v v' rest, (run s).outcome = .matched v rest →
      (next v rest).EndsLike excused (next' v' rest))
    (hother : other.EndsLike excused other') :
    (run.branch next other).EndsLike excused (run'.branch next' other') := by
  intro s s'
  have happly := h s s'
  have hmatched := hnext s
  unfold Run.branch
  generalize run s = report at happly hmatched
  generalize run' s' = report' at happly
  rcases report with ⟨events, outcome, store⟩
  rcases report' with ⟨events', outcome', store'⟩
  rcases happly with ⟨f, rfl, hexcused⟩ | hends
  · exact Or.inl ⟨f, rfl, hexcused⟩
  · cases hends with
    | matched v v' rest => exact hmatched v v' rest rfl store store'
    | mismatch => exact hother store store'
    | fault f => exact Or.inr (.fault f)

end Run

namespace Matcher

variable {ι : Type} {apply : ι → Matcher} {child deeper : Matcher} {excused : Fault → Prop}
variable {p q : ι} {c : Cursor}

/-- The last child of a sequence decides how it ends. -/
theorem endsLike_row_last {run : Run Value} (h : run.EndsLike excused (apply q c))
    (values : List Value) : run.EndsLike excused (row apply [q] .identity values c) := by
  intro s s'
  rw [row_cons]
  unfold Run.branch
  have hlast := h s s'
  generalize apply q c s' = report at hlast
  rcases report with ⟨events, outcome, store⟩
  rcases hlast with ⟨f, rfl, hexcused⟩ | hends
  · exact Or.inl ⟨f, rfl, hexcused⟩
  · refine Or.inr ?_
    generalize (run s).outcome = o at hends
    cases hends with
    | matched v v' rest => exact .matched v _ rest
    | mismatch => exact .mismatch
    | fault f => exact .fault f

/-- Once a minimum is met, it has no influence on how a repetition ends. -/
theorem loop_endsLike_loop (h : ∀ c, (child c).EndsLike excused (deeper c)) {minimum : Nat}
    (fuel : Nat) {values : List Value} (hmin : minimum ≤ values.length) (values' : List Value)
    (c : Cursor) :
    (loop child minimum fuel .identity values c).EndsLike excused
      (loop deeper 0 fuel .identity values' c) := by
  induction fuel generalizing values values' c with
  | zero => exact Run.endsLike_fault .endless
  | succ fuel ih =>
    rw [loop_succ, loop_succ, if_neg (Nat.not_lt.2 hmin), if_neg (Nat.not_lt_zero _)]
    refine (h c).branch (fun _ v v' rest _ => ?_) fun _ _ => Or.inr (.matched _ _ c)
    by_cases hzero : rest.pos = c.pos
    · rw [if_pos hzero, if_pos hzero]
      exact fun _ _ => Or.inr (.matched _ _ c)
    · rw [if_neg hzero, if_neg hzero]
      exact ih (by simp; omega) _ rest

/-- If the child matches without moving, so do copies of it, and a repetition after them. -/
theorem endsLike_row_of_still (hp : ∀ s, ∃ v, (apply p c s).outcome = .matched v c)
    (hq : ∀ s, (∃ f, (apply q c s).outcome = .fault f ∧ excused f) ∨
      ∃ v, (apply q c s).outcome = .matched v c)
    (n : Nat) (values : List Value) {run : Run Value}
    (hrun : ∀ s, ∃ v, (run s).outcome = .matched v c) :
    run.EndsLike excused (row apply (List.replicate n p ++ [q]) .identity values c) := by
  induction n generalizing values with
  | zero =>
    refine endsLike_row_last (fun s s' => (hq s').imp_right fun ⟨v', ho'⟩ => ?_) values
    obtain ⟨v, ho⟩ := hrun s
    rw [ho, ho']
    exact .matched v v' c
  | succ n ih =>
    intro s s'
    rw [List.replicate_succ, List.cons_append, row_cons]
    obtain ⟨v, ho⟩ := hp s'
    rw [Run.branch_of_matched ho]
    exact ih _ s _

/-- A repetition whose child matches without moving ends there. -/
theorem repetition_of_still (hdeeper : ∀ s, (∃ f, (deeper c s).outcome = .fault f ∧ excused f) ∨
      ∃ v, (deeper c s).outcome = .matched v c) (s : Store) :
    (∃ f, (repetition deeper 0 .identity c s).outcome = .fault f ∧ excused f) ∨
      ∃ v, (repetition deeper 0 .identity c s).outcome = .matched v c := by
  rw [repetition_eq_loop, loop_succ]
  rcases hdeeper s with ⟨f, ho, hexcused⟩ | ⟨v, ho⟩
  · rw [Run.branch_of_fault ho]
    exact Or.inl ⟨f, rfl, hexcused⟩
  · rw [Run.branch_of_matched ho, if_pos rfl]
    exact Or.inr ⟨_, rfl⟩

/-- What is left of a repetition ends like the copies that are left and a repetition after them.
The induction is on the copies. As long as the child moves, both go on side by side; when it matches
without moving, the repetition is over and the copies come to nothing. -/
theorem loop_endsLike_row (hadvances : child.Advances) (hblind : child.IsBlind)
    (hdeeper : ∀ c, (child c).EndsLike excused (deeper c)) (hp : apply p = child)
    (hq : apply q = repetition deeper 0 .identity) (n : Nat) {fuel : Nat}
    (hfuel : c.remaining < fuel) (values values' : List Value) :
    (loop child (values.length + n) fuel .identity values c).EndsLike excused
      (row apply (List.replicate n p ++ [q]) .identity values' c) := by
  induction n generalizing fuel values values' c with
  | zero =>
    refine endsLike_row_last ?_ values'
    have hsize : c.remaining < c.source.size + 1 := by
      unfold Cursor.remaining
      omega
    rw [hq, repetition_eq_loop, loop_eq_of_remaining_lt hadvances _ _ _ hfuel hsize]
    exact loop_endsLike_loop hdeeper _ (Nat.le_refl _) [] c
  | succ n ih =>
    obtain ⟨fuel, rfl⟩ := Nat.exists_eq_add_one_of_ne_zero (Nat.ne_zero_of_lt hfuel)
    rw [List.replicate_succ, List.cons_append, row_cons, loop_succ, hp, if_pos (by omega)]
    refine (hblind c).endsLike.branch (fun s v v' rest hmatched => ?_) Run.endsLike_mismatch
    have hbefore := hadvances c s v rest hmatched
    by_cases hzero : rest.pos = c.pos
    · obtain rfl := hbefore.eq_of_pos hzero
      have hstill : ∀ s', ∃ v, (child rest s').outcome = .matched v rest := by
        intro s'
        obtain ⟨-, ⟨_, w, _, ho, ho'⟩ | ⟨ho, -⟩ | ⟨_, ho, -⟩⟩ :=
          Report.look_eq_iff.1 (hblind rest s s')
        · cases hmatched.symm.trans ho
          exact ⟨w, ho'⟩
        · cases hmatched.symm.trans ho
        · cases hmatched.symm.trans ho
      have hends : ∀ s', (∃ f, (deeper rest s').outcome = .fault f ∧ excused f) ∨
          ∃ v, (deeper rest s').outcome = .matched v rest := by
        intro s'
        refine (hdeeper rest s s').imp_right fun hlike => ?_
        rw [hmatched] at hlike
        generalize (deeper rest s').outcome = o at hlike
        cases hlike with
        | matched _ w => exact ⟨w, rfl⟩
      rw [if_pos hzero]
      refine endsLike_row_of_still (hp ▸ hstill) ?_ n _ fun s' => ⟨_, rfl⟩
      exact hq ▸ repetition_of_still hends
    · have hless := hbefore.remaining_lt hzero
      have hcount : values.length + (n + 1) = (values ++ [v]).length + n := by
        simp
        omega
      rw [if_neg hzero, hcount]
      exact ih (by omega) _ _

end Matcher

/-- The parser as often as a minimum asks, and then as often as it matches. -/
def Parser.unrolled (p : Parser) (n : Nat) : Parser :=
  .sequence (List.replicate n p ++ [.repetition p 0 .identity]) .identity

/-- A parser does not depend on the shared lists if its formatters do not fail and the functions in
it do not depend on them. -/
theorem Parser.run_isBlind {scope : Scope} {p : Parser}
    (hformat : scope.Everywhere (fun q => ∀ format, q.format? = some format →
      ∀ room, (format.within room).IsTotal) p)
    (hblind : scope.Everywhere Parser.IsBlind p) (limit : Nat) :
    (p.run scope limit).IsBlind := by
  intro c
  rw [← runBy_within]
  exact runBy_alike (fun q hq format h room => ⟨hformat q hq format h room,
    hformat q hq format h room⟩) hblind limit c

/-- One level deeper a parser that does not depend on the shared lists ends alike, or exhausts the
recursion limit. -/
theorem endsLike_run_of_isBlind {scope : Scope} {p : Parser} {limit limit' : Nat}
    (hblind : (p.run scope limit').IsBlind) (hle : limit ≤ limit') (c : Cursor) :
    (p.run scope limit' c).EndsLike (· = .recursionLimit) (p.run scope limit c) := by
  intro s s'
  by_cases hlimit : (p.run scope limit c s').outcome = .fault .recursionLimit
  · exact Or.inl ⟨.recursionLimit, hlimit, rfl⟩
  · rw [← run_extends scope p hle c s' hlimit]
    exact (hblind c).endsLike s s'

/-- **A repetition can be unrolled.** Let its child never lead backwards and not depend on the
shared lists. Then a repetition with the minimum `n` and `n` copies of the child with a repetition
without a minimum after them both match up to the same cursor, both mismatch, or both end with the
same fault. This holds of every function as the child. It holds of every parser as well, unless the
copies exhaust the recursion limit, which the repetition after them is nearer to. -/
theorem repetition_unrolled (n : Nat) (c : Cursor) (s : Store) :
    (∀ child : Matcher, child.Advances → child.IsBlind →
      (Matcher.repetition child n .identity c s).outcome.EndsLike
        (Matcher.sequence id (List.replicate n child ++ [Matcher.repetition child 0 .identity])
          .identity c s).outcome) ∧
    ∀ (scope : Scope) (p : Parser) (limit : Nat),
      (∀ l, (p.run scope l).Advances ∧ (p.run scope l).IsBlind) →
      ((p.unrolled n).run scope limit c s).outcome ≠ .fault .recursionLimit →
      ((Parser.repetition p n .identity).run scope limit c s).outcome.EndsLike
        ((p.unrolled n).run scope limit c s).outcome := by
  have hsize : c.remaining < c.source.size + 1 := by
    unfold Cursor.remaining
    omega
  constructor
  · intro child hadvances hblind
    have hdeeper : ∀ c, (child c).EndsLike (fun _ => False) (child c) :=
      fun c => (hblind c).endsLike
    have hid : ∀ m : Matcher, id m = m := fun _ => rfl
    have hlaw := Matcher.loop_endsLike_row hadvances hblind hdeeper (hid child) (hid _) n hsize
      [] [] s s
    rw [List.length_nil, Nat.zero_add] at hlaw
    exact hlaw.resolve_left fun ⟨_, _, hfalse⟩ => hfalse
  · intro scope p limit hchild hlimit
    -- Below the sequence the limit is smaller by one, and below its last child by two.
    match limit with
    | 0 => exact absurd rfl hlimit
    | 1 => cases n <;> exact absurd rfl hlimit
    | limit + 2 =>
      obtain ⟨hadvances, hblind⟩ := hchild (limit + 1)
      have hlaw := Matcher.loop_endsLike_row hadvances hblind
        (endsLike_run_of_isBlind hblind (Nat.le_succ limit)) rfl
        (Parser.run_repetition scope limit p 0 .identity) n hsize [] [] s s
      rw [List.length_nil, Nat.zero_add] at hlaw
      exact hlaw.resolve_left fun ⟨_, hf, heq⟩ => hlimit (heq ▸ hf)

/-- A pair of letters, a single letter or nothing. -/
def optionalPair : Parser :=
  .optional (.sequence [.literal "a" .unwrap, .optional (.literal "b" .unwrap) .unwrap] .unwrap)
    .identity

/-- After two pairs and a letter there is nothing to be matched, but this counts as the rest of five
matches. -/
theorem repetition_unrolled_pairs :
    let scope : Scope := fun _ _ => none
    let c := Cursor.start "ababa"
    (∀ l, (optionalPair.run scope l).Advances ∧ (optionalPair.run scope l).IsBlind) ∧
    ((optionalPair.unrolled 5).run scope 9 c {}).outcome ≠ .fault .recursionLimit ∧
    (((Parser.repetition optionalPair 5 .identity).run scope 9 c {}).outcome.EndsLike
      ((optionalPair.unrolled 5).run scope 9 c {}).outcome) ∧
    (Matcher.repetition (optionalPair.run scope 9) 5 .identity c {}).outcome.EndsLike
      (Matcher.sequence id (List.replicate 5 (optionalPair.run scope 9) ++
        [Matcher.repetition (optionalPair.run scope 9) 0 .identity]) .identity c {}).outcome := by
  intro scope c
  have hforward : ∀ q ∈ optionalPair.subtrees, q.IsForward := by
    simp [optionalPair, Parser.subtrees, Parser.subtreesIn, Parser.IsForward, Parser.handWritten?]
  have hblind : ∀ q ∈ optionalPair.subtrees, q.IsBlind := by
    simp [optionalPair, Parser.subtrees, Parser.subtreesIn, Parser.IsBlind]
  have htotal : ∀ q ∈ optionalPair.subtrees, ∀ format, q.format? = some format →
      ∀ room, (format.within room).IsTotal := by
    simp [optionalPair, Parser.subtrees, Parser.subtreesIn, Parser.format?, Formatter.identity,
      Formatter.unwrap, Formatter.isTotal_ofFunction]
  have hchild : ∀ l, (optionalPair.run scope l).Advances ∧ (optionalPair.run scope l).IsBlind := by
    intro l
    refine ⟨run_advances (Scope.everywhere_of_subtrees hforward ?_) l, Parser.run_isBlind
      (Scope.everywhere_of_subtrees htotal ?_) (Scope.everywhere_of_subtrees hblind ?_) l⟩
    all_goals rintro _ _ _ ⟨⟩
  obtain ⟨hfunction, hparser⟩ := repetition_unrolled 5 c {}
  have hlimit : ((optionalPair.unrolled 5).run scope 9 c {}).outcome ≠ .fault .recursionLimit := by
    have hfinished : ((optionalPair.unrolled 5).run (fun _ _ => none) 9 (.start "ababa")
        {}).outcome.isRecursionLimit = false := by decide
    intro hexhausted
    cases hfinished.symm.trans (congrArg Outcome.isRecursionLimit hexhausted)
  exact ⟨hchild, hlimit, hparser scope optionalPair 9 hchild hlimit,
    hfunction _ (hchild 9).1 (hchild 9).2⟩

end GrammarKit
