import GrammarKit.Matcher.Combinators

/-!
# Branching runs

Every combinator applies a child and goes on according to how that application ends: in one way
after a match, in another after a mismatch, and not at all after a fault. Here each combinator is
written in this form, events included, and it is said once how such a run ends.

* `Run.branch` — an application with what follows a match and what follows a mismatch;
* `Matcher.row`, `Matcher.loop` — what is left of a sequence or of a repetition;
* `Matcher.row_cons`, `Matcher.alternation_cons`, `Matcher.optional_eq_branch`,
  `Matcher.loop_succ` — one application of a child of each combinator;
* `Run.Ends` — a run from a store ends with an outcome and a store;
* `Formatting.Shapes` — what a formatter makes of a tagged payload;
* `Run.ends_branch_iff` — the three ways in which a branching run ends.
-/

namespace GrammarKit

variable {α β γ : Type}

namespace Run

/-- The run that goes on with `next` after a match and with `other` after a mismatch. -/
def branch (run : Run α) (next : α → Cursor → Run β) (other : Run β) : Run β := fun s =>
  let report := run s
  match report.outcome with
  | .matched value rest => (next value rest report.store).after report.events
  | .mismatch => (other report.store).after report.events
  | .fault f => ⟨report.events, .fault f, report.store⟩

section

variable {run : Run α} {next : α → Cursor → Run β} {other : Run β} {s : Store}

theorem branch_of_matched {value : α} {rest : Cursor}
    (h : (run s).outcome = .matched value rest) :
    run.branch next other s = (next value rest (run s).store).after (run s).events := by
  simp only [branch, h]

theorem branch_of_mismatch (h : (run s).outcome = .mismatch) :
    run.branch next other s = (other (run s).store).after (run s).events := by
  simp only [branch, h]

theorem branch_of_fault {f : Fault} (h : (run s).outcome = .fault f) :
    run.branch next other s = ⟨(run s).events, .fault f, (run s).store⟩ := by
  simp only [branch, h]

end

theorem bind_eq_branch (run : Run α) (next : α → Cursor → Run β) :
    run.bind next = run.branch next mismatch := by
  funext s
  unfold bind branch
  rcases run s with ⟨events, outcome, store⟩
  cases outcome <;> simp [mismatch, Report.after]

/-- What follows a branching run can be done in its branches. -/
theorem bind_branch (run : Run α) (next : α → Cursor → Run β) (other : Run β)
    (last : β → Cursor → Run γ) :
    (run.branch next other).bind last =
      run.branch (fun value rest => (next value rest).bind last) (other.bind last) := by
  funext s
  unfold bind branch
  rcases run s with ⟨events, outcome, store⟩
  cases outcome with
  | fault f => rfl
  | mismatch =>
    simp only [Report.after]
    rcases other store with ⟨events', outcome', store'⟩
    cases outcome' <;> simp
  | matched value rest =>
    simp only [Report.after]
    rcases next value rest store with ⟨events', outcome', store'⟩
    cases outcome' <;> simp

end Run

namespace Matcher

variable {ι : Type} {apply : ι → Matcher} {child : Matcher} {format : Formatting}

/-! ### Children in a row -/

/-- What is left of a sequence after the children with the given values. -/
def row (apply : ι → Matcher) (children : List ι) (format : Formatting) (values : List Value) :
    Matcher := fun c =>
  (collect apply children c).bind fun others rest =>
    .formatted format .sequence (.list (values ++ others)) rest

theorem sequence_eq_row (children : List ι) :
    sequence apply children format = row apply children format [] := rfl

theorem row_nil (values : List Value) (c : Cursor) :
    row apply [] format values c = .formatted format .sequence (.list values) c := by
  simp [row, collect]

theorem row_cons (child : ι) (children : List ι) (values : List Value) (c : Cursor) :
    row apply (child :: children) format values c =
      (apply child c).branch
        (fun value rest => row apply children format (values ++ [value]) rest) .mismatch := by
  simp only [row, collect]
  rw [Run.bind_eq_branch (apply child c), Run.bind_branch, Run.bind_mismatch]
  congr
  funext value rest
  rw [Run.bind_eq_branch (collect apply children rest) fun others rest =>
    .matched (value :: others) rest, Run.bind_branch, Run.bind_mismatch, ← Run.bind_eq_branch]
  simp

/-! ### Choices -/

theorem alternation_nil (c : Cursor) : alternation apply [] format c = .mismatch := rfl

/-- A choice is the first child, or the choice between the others if that mismatches. -/
theorem alternation_cons (child : ι) (children : List ι) (c : Cursor) :
    alternation apply (child :: children) format c =
      (apply child c).branch (fun value rest => .formatted format .alternation value rest)
        (alternation apply children format c) := by
  funext s
  simp only [alternation, firstMatch]
  unfold Run.bind Run.branch Run.orElse
  rcases apply child c s with ⟨events, outcome, store⟩
  cases outcome with
  | matched value rest => rfl
  | fault f => rfl
  | mismatch =>
    simp only [Report.after]
    rcases firstMatch apply children c store with ⟨events', outcome', store'⟩
    cases outcome' <;> simp

/-- An option is its child, or nothing. -/
theorem optional_eq_branch (c : Cursor) :
    optional child format c =
      (child c).branch (fun value rest => .formatted format .optional value rest)
        (.formatted format .optional .absent c) := by
  funext s
  simp only [optional, Run.bind, Run.branch, Run.orElse]
  rcases child c s with ⟨events, outcome, store⟩
  cases outcome with
  | mismatch => rfl
  | fault f => rfl
  | matched value rest =>
    simp only [Run.formatted]
    cases (format (.tagged .optional value) store).result <;> rfl

/-! ### Repetitions -/

/-- The events before a greedy run are reported before its own. -/
theorem greedy_events (child : Matcher) (minimum fuel : Nat) (c : Cursor) (values : Array Value)
    (events : Array Event) :
    greedy child minimum fuel c values events =
      Run.after events.toList (greedy child minimum fuel c values #[]) := by
  induction fuel generalizing c values events with
  | zero =>
    funext s
    simp [greedy, Run.after, Report.after]
  | succ fuel ih =>
    funext s
    unfold Run.after greedy
    rcases child c s with ⟨_, outcome, store⟩
    cases outcome with
    | mismatch => simp [Report.after]
    | fault f => simp [Report.after]
    | matched value rest =>
      simp only
      split
      · simp [Report.after]
      · rw [ih, ih _ _ (#[] ++ _)]
        simp [Run.after, Report.after]

/-- One application of the child of a greedy run. -/
theorem greedy_succ (child : Matcher) (minimum fuel : Nat) (c : Cursor) (values : Array Value) :
    greedy child minimum (fuel + 1) c values #[] =
      (child c).branch
        (fun value rest =>
          if rest.pos = c.pos then
            Run.after [.log (.zeroWidth c.pos (values.size + 1))]
              (.matched (values.push value).toList c)
          else greedy child minimum fuel rest (values.push value) #[])
        (if values.size < minimum then .mismatch else .matched values.toList c) := by
  funext s
  rw [greedy]
  unfold Run.branch
  rcases child c s with ⟨events, outcome, store⟩
  cases outcome with
  | fault f => simp
  | mismatch =>
    by_cases hmin : values.size < minimum
    · simp [hmin, Run.mismatch, Report.after]
    · simp [hmin, Run.matched, Report.after]
  | matched value rest =>
    by_cases hzero : rest.pos = c.pos
    · simp [hzero, Run.after, Run.matched, Report.after]
    · simp only [hzero, if_false]
      rw [greedy_events]
      simp [Run.after, Report.after]

/-- What is left of a repetition after the applications with the given values. -/
def loop (child : Matcher) (minimum fuel : Nat) (format : Formatting) (values : List Value) :
    Matcher := fun c =>
  Run.bind (greedy child minimum fuel c values.toArray #[]) fun all rest =>
    .formatted format .repetition (.list all) rest

theorem repetition_eq_loop (minimum : Nat) (c : Cursor) :
    repetition child minimum format c = loop child minimum (c.source.size + 1) format [] c := rfl

/-- One application of the child of a repetition. -/
theorem loop_succ (minimum fuel : Nat) (values : List Value) (c : Cursor) :
    loop child minimum (fuel + 1) format values c =
      (child c).branch
        (fun value rest =>
          if rest.pos = c.pos then
            Run.after [.log (.zeroWidth c.pos (values.length + 1))]
              (.formatted format .repetition (.list (values ++ [value])) c)
          else loop child minimum fuel format (values ++ [value]) rest)
        (if values.length < minimum then .mismatch
          else .formatted format .repetition (.list values) c) := by
  simp only [loop]
  rw [greedy_succ, Run.bind_branch]
  congr
  · funext value rest
    split
    · simp
    · simp
  · simp only [List.size_toArray]
    split <;> simp

end Matcher

/-! ### How runs end -/

/-- From the store `s` the run ends with the outcome `o`, and `s'` is the store after it. -/
def Run.Ends (run : Run α) (s : Store) (o : Outcome α) (s' : Store) : Prop :=
  (run s).outcome = o ∧ (run s).store = s'

/-- The formatter makes the outcome `o` of a payload under a tag: a match with the value it gives,
or the fault it ends with. -/
inductive Formatting.Shapes (format : Formatting) (tag : Tag) (payload : Value) (rest : Cursor)
    (s : Store) : Outcome Value → Store → Prop
  | value {v : Value} (h : (format (.tagged tag payload) s).result = .ok v) :
      format.Shapes tag payload rest s (.matched v rest) (format (.tagged tag payload) s).store
  | raise {f : Fault} (h : (format (.tagged tag payload) s).result = .error f) :
      format.Shapes tag payload rest s (.fault f) (format (.tagged tag payload) s).store

/-- A formatter does not move the cursor. -/
theorem Formatting.Shapes.rest_eq {format : Formatting} {tag : Tag} {payload v : Value}
    {rest rest' : Cursor} {s s' : Store}
    (h : format.Shapes tag payload rest s (.matched v rest') s') : rest' = rest := by
  cases h
  rfl

/-- What counts is what is done with the payload. -/
theorem Formatting.Shapes.congr {format format' : Formatting} {tag : Tag} {payload : Value}
    {rest : Cursor} {s s' : Store} {o : Outcome Value}
    (h : format.Shapes tag payload rest s o s')
    (hsame : format' (.tagged tag payload) s = format (.tagged tag payload) s) :
    format'.Shapes tag payload rest s o s' := by
  cases h with
  | value h => exact hsame ▸ .value (hsame ▸ h)
  | raise h => exact hsame ▸ .raise (hsame ▸ h)

namespace Run

variable {s s' : Store}

/-- A run ends in one way only. -/
theorem Ends.unique {run : Run α} {s₁ s₂ : Store} {o₁ o₂ : Outcome α}
    (h₁ : run.Ends s o₁ s₁) (h₂ : run.Ends s o₂ s₂) : o₁ = o₂ ∧ s₁ = s₂ :=
  ⟨h₁.1.symm.trans h₂.1, h₁.2.symm.trans h₂.2⟩

@[simp] theorem ends_mismatch_iff {o : Outcome α} :
    (mismatch : Run α).Ends s o s' ↔ o = .mismatch ∧ s' = s := by
  simp [Ends, mismatch, eq_comm]

@[simp] theorem ends_fault_iff {f : Fault} {o : Outcome α} :
    (fault f : Run α).Ends s o s' ↔ o = .fault f ∧ s' = s := by
  simp [Ends, fault, eq_comm]

/-- A formatted match ends as its formatter says. -/
@[simp] theorem ends_formatted_iff {format : Formatting} {tag : Tag} {payload : Value}
    {rest : Cursor} {o : Outcome Value} :
    (formatted format tag payload rest).Ends s o s' ↔ format.Shapes tag payload rest s o s' := by
  unfold Ends formatted
  cases h : (format (.tagged tag payload) s).result with
  | ok v =>
    simp only [h]
    constructor
    · rintro ⟨rfl, rfl⟩
      exact .value h
    · rintro (h' | h')
      · cases h.symm.trans h'
        exact ⟨rfl, rfl⟩
      · cases h.symm.trans h'
  | error f =>
    simp only [h]
    constructor
    · rintro ⟨rfl, rfl⟩
      exact .raise h
    · rintro (h' | h')
      · cases h.symm.trans h'
      · cases h.symm.trans h'
        exact ⟨rfl, rfl⟩

/-- A branching run ends as the branch that it takes, or with the fault of the application. -/
theorem ends_branch_iff {run : Run α} {next : α → Cursor → Run β} {other : Run β}
    {o : Outcome β} :
    (run.branch next other).Ends s o s' ↔
      (∃ value rest s₁, run.Ends s (.matched value rest) s₁ ∧ (next value rest).Ends s₁ o s') ∨
      (∃ s₁, run.Ends s .mismatch s₁ ∧ other.Ends s₁ o s') ∨
      (∃ f, run.Ends s (.fault f) s' ∧ o = .fault f) := by
  unfold Ends branch
  rcases run s with ⟨events, outcome, store⟩
  cases outcome with
  | matched value rest =>
    constructor
    · intro h
      exact Or.inl ⟨value, rest, store, ⟨rfl, rfl⟩, h⟩
    · rintro (⟨_, _, _, ⟨⟨⟩, rfl⟩, h⟩ | ⟨_, ⟨⟨⟩, -⟩, -⟩ | ⟨_, ⟨⟨⟩, -⟩, -⟩)
      exact h
  | mismatch =>
    constructor
    · intro h
      exact Or.inr (Or.inl ⟨store, ⟨rfl, rfl⟩, h⟩)
    · rintro (⟨_, _, _, ⟨⟨⟩, -⟩, -⟩ | ⟨_, ⟨-, rfl⟩, h⟩ | ⟨_, ⟨⟨⟩, -⟩, -⟩)
      exact h
  | fault f =>
    constructor
    · rintro ⟨rfl, rfl⟩
      exact Or.inr (Or.inr ⟨f, ⟨rfl, rfl⟩, rfl⟩)
    · rintro (⟨_, _, _, ⟨⟨⟩, -⟩, -⟩ | ⟨_, ⟨⟨⟩, -⟩, -⟩ | ⟨_, ⟨⟨⟩, rfl⟩, rfl⟩)
      exact ⟨rfl, rfl⟩

end Run

namespace Matcher

variable {format : Formatting} {c : Cursor} {s s' : Store} {o : Outcome Value}

theorem ends_literal_iff {text : IndexedText} :
    (literal text format c).Ends s o s' ↔
      (c.peek text.size = text.chars.toList ∧
        format.Shapes .literal (.text text.text) (c.forward text.size) s o s') ∨
      (c.peek text.size ≠ text.chars.toList ∧ o = .mismatch ∧ s' = s) := by
  unfold literal
  by_cases h : c.peek text.size = text.chars.toList
  · simp [Cursor.startsWith_iff, h]
  · simp [Cursor.startsWith_iff, h]

theorem ends_charClass_iff {cls : CharClass} :
    (charClass cls format c).Ends s o s' ↔
      (∃ char, c.next? = some char ∧ cls.contains char = true ∧
        format.Shapes .charClass (.text (String.singleton char)) (c.forward 1) s o s') ∨
      ((∀ char, c.next? = some char → cls.contains char = false) ∧ o = .mismatch ∧ s' = s) := by
  unfold charClass
  cases hnext : c.next? with
  | none => simp
  | some char =>
    by_cases hin : cls.contains char = true
    · simp [hin]
    · simp [hin]

end Matcher

end GrammarKit
