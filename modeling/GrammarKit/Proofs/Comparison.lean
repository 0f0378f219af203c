import GrammarKit.Proofs.Levels
import GrammarKit.Proofs.Reading
import Mathlib.Data.List.Forall2
import Mathlib.Data.Option.Basic

/-!
# Comparing two runs

Many facts about matching compare two runs of one parser: under two recursion limits, from two
cursors, with two sets of rules. The comparisons differ in what counts as the same cursor, the same
fault and the same event. That each combinator passes a comparison on from its children to itself is
shown here for all of them at once.

* `Matcher.Advances` — a matcher stays in the source and never leads backwards;
* `Comparison` — which cursors, faults and events of two runs correspond;
* `Comparison.Reports`, `Comparison.Runs`, `Comparison.Matchers` — reports, runs and matchers that
  agree, as far as they are compared;
* `Comparison.Formats`, `Comparison.Rooms` — formatters that agree, and room for them;
* `Comparison.Runs.branch` — runs agree if their applications do, and what follows them;
* `Comparison.matchers_layer` — levels agree if the levels below do;
* `Comparison.same` — the comparison that asks for equal reports;
* `Comparison.same_matchers_layer` — levels agree by this comparison.
-/

namespace GrammarKit

namespace Cursor

variable {c c' : Cursor}

/-! ### Cursors with the same text ahead -/

theorem startsWith_eq_of_ahead (h : c.ahead = c'.ahead) (text : IndexedText) :
    c.startsWith text = c'.startsWith text := by
  rw [Bool.eq_iff_iff, startsWith_iff, startsWith_iff, peek_eq_take, peek_eq_take]
  change c.ahead.take _ = _ ↔ c'.ahead.take _ = _
  rw [h]

theorem next?_eq_of_ahead (h : c.ahead = c'.ahead) : c.next? = c'.next? := by
  rw [next?_eq_head?, next?_eq_head?, h]

theorem remaining_eq_of_ahead (h : c.ahead = c'.ahead) : c.remaining = c'.remaining := by
  rw [← length_ahead, ← length_ahead, h]

end Cursor

/-! ### Matchers that never go back -/

/-- A match stays in the source and never leads backwards. -/
def Matcher.Advances (matcher : Matcher) : Prop :=
  ∀ c s v rest, (matcher c s).outcome = .matched v rest → c.Before rest

/-- Of what follows a match, only the matches that there are count. -/
theorem Run.branch_congr {α β : Type} {run : Run α} {next next' : α → Cursor → Run β}
    (other : Run β)
    (h : ∀ s v rest, (run s).outcome = .matched v rest → next v rest = next' v rest) :
    run.branch next other = run.branch next' other := by
  funext s
  have hmatched := h s
  unfold branch
  generalize run s = report at hmatched
  rcases report with ⟨events, outcome, store⟩
  cases outcome with
  | matched v rest => simp only [hmatched v rest rfl]
  | mismatch => rfl
  | fault f => rfl

/-- A loop has fuel enough if it has more than what is left of the source. Each application that is
followed by another leaves less, so more fuel makes no difference. -/
theorem Matcher.loop_eq_of_remaining_lt {child : Matcher} (h : child.Advances) (minimum : Nat)
    {fuel fuel' : Nat} (format : Formatting) (values : List Value) {c : Cursor}
    (hfuel : c.remaining < fuel) (hfuel' : c.remaining < fuel') :
    loop child minimum fuel format values c = loop child minimum fuel' format values c := by
  induction fuel generalizing fuel' values c with
  | zero => omega
  | succ fuel ih =>
    obtain ⟨fuel', rfl⟩ := Nat.exists_eq_add_one_of_ne_zero (Nat.ne_zero_of_lt hfuel')
    rw [loop_succ, loop_succ]
    refine Run.branch_congr _ fun s v rest hmatched => ?_
    by_cases hzero : rest.pos = c.pos
    · rw [if_pos hzero, if_pos hzero]
    · have hless := (h c s v rest hmatched).remaining_lt hzero
      rw [if_neg hzero, if_neg hzero]
      exact ih _ (by omega) (by omega)

/-! ### Comparisons -/

/-- What two runs are compared by: which cursors, faults and events of the first one correspond to
which of the second one, and which faults of the first one excuse it from the comparison. -/
structure Comparison where
  cursors : Cursor → Cursor → Prop
  faults : Fault → Fault → Prop
  events : Event → Event → Prop
  excused : Fault → Prop
  /-- Corresponding cursors have the same text ahead. -/
  ahead_eq {c c' : Cursor} : cursors c c' → c.ahead = c'.ahead
  forward {c c' : Cursor} (n : Nat) : cursors c c' → cursors (c.forward n) (c'.forward n)
  /-- Two cursors are at one position if those that correspond to them are. -/
  pos_eq_iff {c c' d d' : Cursor} : cursors c c' → cursors d d' → (d.pos = c.pos ↔ d'.pos = c'.pos)
  /-- Faults that name no place correspond to themselves. -/
  fault_self {f : Fault} : (∀ name notice, f ≠ .misuse (.unbound name) notice) → faults f f
  fault_unbound {c c' : Cursor} (room : Nat) (name : Value) :
    cursors c c' → faults (Parser.unboundFault room name c) (Parser.unboundFault room name c')
  mark_self (m : Mark) : events (.mark m) (.mark m)
  zeroWidth {c c' : Cursor} (count : Nat) :
    cursors c c' → events (.log (.zeroWidth c.pos count)) (.log (.zeroWidth c'.pos count))
  enter {c c' : Cursor} (label : String) :
    cursors c c' → events (.mark (.enter label c.pos)) (.mark (.enter label c'.pos))
  leave {c c' : Cursor} (label : String) :
    cursors c c' → events (.mark (.leave label (some c.pos))) (.mark (.leave label (some c'.pos)))

namespace Comparison

variable {K : Comparison} {α β : Type}

/-- Both outcomes are a match with the same value, both a mismatch, or both a fault. -/
inductive Outcomes (K : Comparison) : Outcome α → Outcome α → Prop
  | matched {v : α} {rest rest' : Cursor} (h : K.cursors rest rest') :
      Outcomes K (.matched v rest) (.matched v rest')
  | mismatch : Outcomes K .mismatch .mismatch
  | fault {f f' : Fault} (h : K.faults f f') : Outcomes K (.fault f) (.fault f')

/-- The reports correspond: their events do, one by one, and so do their outcomes, and the shared
lists are the same after both. -/
structure Correspond (K : Comparison) (r r' : Report α) : Prop where
  events : List.Forall₂ K.events r.events r'.events
  outcome : K.Outcomes r.outcome r'.outcome
  store : r.store = r'.store

/-- The reports correspond, or the first one ends with a fault that excuses it. -/
def Reports (K : Comparison) (r r' : Report α) : Prop :=
  (∃ f, r.outcome = .fault f ∧ K.excused f) ∨ K.Correspond r r'

/-- The runs have reports that agree, from whatever shared lists both start. -/
def Runs (K : Comparison) (run run' : Run α) : Prop := ∀ s, K.Reports (run s) (run' s)

/-- The matchers have runs that agree at all cursors that correspond. -/
def Matchers (K : Comparison) (m m' : Matcher) : Prop :=
  ∀ c c', K.cursors c c' → K.Runs (m c) (m' c')

/-- With the results of combinators both functions do the same, and the faults that they give
correspond to themselves; or the first one gives a fault that excuses it. -/
def Formats (K : Comparison) (format format' : Formatting) : Prop :=
  ∀ tag payload s,
    (∃ f, (format (.tagged tag payload) s).result = .error f ∧ K.excused f) ∨
      (format (.tagged tag payload) s = format' (.tagged tag payload) s ∧
        ∀ f, (format (.tagged tag payload) s).result = .error f → K.faults f f)

/-- Both runs have the same room, or the first one has less and is excused if it exhausts it. -/
def Rooms (K : Comparison) (room room' : Nat) : Prop :=
  room = room' ∨ (room ≤ room' ∧ K.excused .recursionLimit)

/-- The sources of cursors that correspond have the same length. -/
def KeepsSize (K : Comparison) : Prop :=
  ∀ c c', K.cursors c c' → c.source.size = c'.source.size

/-! ### Runs that agree -/

theorem Reports.after {r r' : Report α} (h : K.Reports r r') {es es' : List Event}
    (hes : List.Forall₂ K.events es es') : K.Reports (r.after es) (r'.after es') := by
  rcases h with ⟨f, hf, hexcused⟩ | ⟨hevents, houtcome, hstore⟩
  · exact Or.inl ⟨f, hf, hexcused⟩
  · exact Or.inr ⟨List.rel_append hes hevents, houtcome, hstore⟩

theorem Runs.after {run run' : Run α} (h : K.Runs run run') {es es' : List Event}
    (hes : List.Forall₂ K.events es es') : K.Runs (run.after es) (run'.after es') :=
  fun s => (h s).after hes

theorem runs_mismatch : K.Runs (Run.mismatch : Run α) Run.mismatch :=
  fun _ => Or.inr ⟨.nil, .mismatch, rfl⟩

theorem runs_fault {f f' : Fault} (h : K.faults f f') : K.Runs (Run.fault f : Run α) (.fault f') :=
  fun _ => Or.inr ⟨.nil, .fault h, rfl⟩

/-- Formatters see the same value. -/
theorem runs_formatted {format format' : Formatting} (hformat : K.Formats format format')
    (tag : Tag) (payload : Value) {rest rest' : Cursor} (h : K.cursors rest rest') :
    K.Runs (Run.formatted format tag payload rest) (Run.formatted format' tag payload rest') := by
  intro s
  have hmarks : ∀ marks : List Mark,
      List.Forall₂ K.events (marks.map .mark) (marks.map .mark) := fun marks =>
    List.forall₂_same.2 fun e he => by
      obtain ⟨m, -, rfl⟩ := List.mem_map.1 he
      exact K.mark_self m
  unfold Run.formatted
  rcases hformat tag payload s with ⟨f, hresult, hexcused⟩ | ⟨hsame, hfaults⟩
  · simp only [hresult]
    exact Or.inl ⟨f, rfl, hexcused⟩
  rw [← hsame]
  cases hresult : (format (.tagged tag payload) s).result with
  | ok v =>
    simp only [hresult]
    exact Or.inr ⟨hmarks _, .matched h, rfl⟩
  | error f =>
    simp only [hresult]
    exact Or.inr ⟨hmarks _, .fault (hfaults f hresult), rfl⟩

/-- A formatter that does not exhaust its room does the same with more. -/
theorem formats_within {room room' : Nat} (hroom : K.Rooms room room') {format : Formatter}
    (hfaults : ∀ tag payload s f,
      (format.within room (.tagged tag payload) s).result = .error f → K.faults f f) :
    K.Formats (format.within room) (format.within room') := by
  intro tag payload s
  rcases hroom with rfl | ⟨hle, hexcused⟩
  · exact Or.inr ⟨rfl, hfaults tag payload s⟩
  · rcases format.stable hle (.tagged tag payload) s with hexhausted | hsame
    · exact Or.inl ⟨.recursionLimit, hexhausted, hexcused⟩
    · exact Or.inr ⟨hsame.symm, hfaults tag payload s⟩

/-- The fault of an unbound name corresponds to that at the other cursor, unless writing the name
exhausts the room of the first run. -/
theorem runs_unbound {room room' : Nat} (hroom : K.Rooms room room') (name : Value)
    {c c' : Cursor} (hc : K.cursors c c') :
    K.Runs (Run.fault (Parser.unboundFault room name c) : Run α)
      (.fault (Parser.unboundFault room' name c')) := by
  rcases hroom with rfl | ⟨hle, hexcused⟩
  · exact runs_fault (K.fault_unbound room name hc)
  · rcases Parser.unboundFault_stable hle name c with hexhausted | hsame
    · rw [hexhausted]
      exact fun s => Or.inl ⟨.recursionLimit, rfl, hexcused⟩
    · rw [← hsame]
      exact runs_fault (K.fault_unbound room' name hc)

/-- **Branching runs agree** if the applications do, and after them the branches that are taken. -/
theorem Runs.branch {run run' : Run α} {next next' : α → Cursor → Run β} {other other' : Run β}
    (h : K.Runs run run')
    (hnext : ∀ v rest rest', K.cursors rest rest' → K.Runs (next v rest) (next' v rest'))
    (hother : K.Runs other other') :
    K.Runs (run.branch next other) (run'.branch next' other') := by
  intro s
  have happly := h s
  unfold Run.branch
  generalize run s = report, run' s = report' at happly
  rcases report with ⟨events, outcome, store⟩
  rcases report' with ⟨events', outcome', store'⟩
  rcases happly with ⟨f, rfl, hexcused⟩ | ⟨hevents, houtcome, rfl⟩
  · exact Or.inl ⟨f, rfl, hexcused⟩
  · cases houtcome with
    | matched hrest => exact (hnext _ _ _ hrest store).after hevents
    | mismatch => exact (hother store).after hevents
    | fault hfault => exact Or.inr ⟨hevents, .fault hfault, rfl⟩

/-! ### Combinators that agree -/

section Combinators

variable {ι κ : Type} {apply : ι → Matcher} {apply' : κ → Matcher} {child child' : Matcher}
variable {format format' : Formatting}

theorem matchers_literal (hformat : K.Formats format format') (text : IndexedText) :
    K.Matchers (Matcher.literal text format) (Matcher.literal text format') := by
  intro c c' hc
  unfold Matcher.literal
  rw [Cursor.startsWith_eq_of_ahead (K.ahead_eq hc)]
  split
  · exact runs_formatted hformat _ _ (K.forward _ hc)
  · exact runs_mismatch

theorem matchers_charClass (hformat : K.Formats format format') (cls : CharClass) :
    K.Matchers (Matcher.charClass cls format) (Matcher.charClass cls format') := by
  intro c c' hc
  unfold Matcher.charClass
  rw [Cursor.next?_eq_of_ahead (K.ahead_eq hc)]
  cases c'.next? with
  | none => exact runs_mismatch
  | some char =>
    by_cases hin : cls.contains char = true
    · simp only [hin, if_true]
      exact runs_formatted hformat _ _ (K.forward _ hc)
    · simp only [hin]
      exact runs_mismatch

theorem matchers_row (hformat : K.Formats format format') {children : List ι} {children' : List κ}
    (hchildren : List.Forall₂ (fun i j => K.Matchers (apply i) (apply' j)) children children')
    (values : List Value) :
    K.Matchers (Matcher.row apply children format values)
      (Matcher.row apply' children' format' values) := by
  induction hchildren generalizing values with
  | nil =>
    intro c c' hc
    rw [Matcher.row_nil, Matcher.row_nil]
    exact runs_formatted hformat _ _ hc
  | cons hchild _ ih =>
    intro c c' hc
    rw [Matcher.row_cons, Matcher.row_cons]
    exact (hchild c c' hc).branch (fun v rest rest' hrest => ih _ rest rest' hrest) runs_mismatch

theorem matchers_alternation (hformat : K.Formats format format') {children : List ι}
    {children' : List κ}
    (hchildren : List.Forall₂ (fun i j => K.Matchers (apply i) (apply' j)) children children') :
    K.Matchers (Matcher.alternation apply children format)
      (Matcher.alternation apply' children' format') := by
  intro c c' hc
  induction hchildren with
  | nil => exact runs_mismatch
  | cons hchild _ ih =>
    rw [Matcher.alternation_cons, Matcher.alternation_cons]
    exact (hchild c c' hc).branch (fun v _ _ hrest => runs_formatted hformat _ v hrest) ih

theorem matchers_optional (hformat : K.Formats format format') (hchild : K.Matchers child child') :
    K.Matchers (Matcher.optional child format) (Matcher.optional child' format') := by
  intro c c' hc
  rw [Matcher.optional_eq_branch, Matcher.optional_eq_branch]
  exact (hchild c c' hc).branch (fun v _ _ hrest => runs_formatted hformat _ v hrest)
    (runs_formatted hformat _ _ hc)

theorem matchers_loop (hformat : K.Formats format format') (hchild : K.Matchers child child')
    (minimum fuel : Nat) (values : List Value) :
    K.Matchers (Matcher.loop child minimum fuel format values)
      (Matcher.loop child' minimum fuel format' values) := by
  induction fuel generalizing values with
  | zero => exact fun _ _ _ => runs_fault (f := .endless) (K.fault_self nofun)
  | succ fuel ih =>
    intro c c' hc
    rw [Matcher.loop_succ, Matcher.loop_succ]
    refine (hchild c c' hc).branch (fun v rest rest' hrest => ?_) ?_
    · by_cases hzero : rest.pos = c.pos
      · rw [if_pos hzero, if_pos ((K.pos_eq_iff hc hrest).1 hzero)]
        exact (runs_formatted hformat _ _ hc).after (.cons (K.zeroWidth _ hc) .nil)
      · rw [if_neg hzero, if_neg fun hzero' => hzero ((K.pos_eq_iff hc hrest).2 hzero')]
        exact ih _ rest rest' hrest
    · by_cases hmin : values.length < minimum
      · rw [if_pos hmin, if_pos hmin]
        exact runs_mismatch
      · rw [if_neg hmin, if_neg hmin]
        exact runs_formatted hformat _ _ hc

/-- Repetitions at sources of different lengths have different fuel. That does not matter if their
children never lead backwards. -/
theorem matchers_repetition (hformat : K.Formats format format') (hchild : K.Matchers child child')
    (hfuel : K.KeepsSize ∨ (child.Advances ∧ child'.Advances)) (minimum : Nat) :
    K.Matchers (Matcher.repetition child minimum format)
      (Matcher.repetition child' minimum format') := by
  intro c c' hc
  rw [Matcher.repetition_eq_loop, Matcher.repetition_eq_loop]
  rcases hfuel with hsize | ⟨hadvances, hadvances'⟩
  · rw [hsize c c' hc]
    exact matchers_loop hformat hchild _ _ _ c c' hc
  · have hremaining := Cursor.remaining_eq_of_ahead (K.ahead_eq hc)
    have hlt (d : Cursor) : d.remaining < d.source.size + 1 := by
      unfold Cursor.remaining
      omega
    rw [Matcher.loop_eq_of_remaining_lt hadvances _ _ _ (hlt c) (Nat.lt_succ_self _),
      Matcher.loop_eq_of_remaining_lt hadvances' _ _ _ (hlt c') (Nat.lt_succ_self _), hremaining]
    exact matchers_loop hformat hchild _ _ _ c c' hc

theorem matchers_probe (label : String) (hchild : K.Matchers child child') :
    K.Matchers (Matcher.probe label child) (Matcher.probe label child') := by
  intro c c' hc s
  have happly := hchild c c' hc s
  unfold Matcher.probe
  generalize child c s = report, child' c' s = report' at happly
  rcases report with ⟨events, outcome, store⟩
  rcases report' with ⟨events', outcome', store'⟩
  rcases happly with ⟨f, rfl, hexcused⟩ | ⟨hevents, houtcome, rfl⟩
  · exact Or.inl ⟨f, rfl, hexcused⟩
  · have henter := List.Forall₂.cons (K.enter label hc) hevents
    cases houtcome with
    | matched hrest =>
      exact Or.inr ⟨List.rel_append henter (.cons (K.leave label hrest) .nil), .matched hrest, rfl⟩
    | mismatch =>
      exact Or.inr ⟨List.rel_append henter (.cons (K.mark_self _) .nil), .mismatch, rfl⟩
    | fault hfault => exact Or.inr ⟨henter, .fault hfault, rfl⟩

/-- References that look in one scope find the same rule, so they need agreement about that rule
only. -/
theorem matchers_found {apply apply' : Parser → Matcher} {found : Option Parser}
    (h : ∀ target, found = some target → K.Matchers (apply target) (apply' target)) :
    Option.Rel (fun q q' => K.Matchers (apply q) (apply' q')) found found := by
  cases found with
  | none => exact .none
  | some target => exact .some (h target rfl)

end Combinators

/-- **Levels agree** if what is applied one level deeper does: the parts of the parser, and the
rules that it finds if it is a reference. -/
theorem matchers_layer {scope scope' : Scope} {room room' : Nat}
    {use use' : Formatter → Formatting} {apply apply' : Parser → Matcher} {p : Parser}
    (hunbound : ∀ registry name, p = .reference registry name → ∀ c c', K.cursors c c' →
      K.Runs (.fault (Parser.unboundFault room name c) : Run Value)
        (.fault (Parser.unboundFault room' name c')))
    (hformat : ∀ format, p.format? = some format → K.Formats (use format) (use' format))
    (hhand : ∀ matcher, p.handWritten? = some matcher → K.Matchers matcher matcher)
    (hparts : ∀ q ∈ p.parts, K.Matchers (apply q) (apply' q))
    (hfuel : K.KeepsSize ∨ ∀ q ∈ p.parts, (apply q).Advances ∧ (apply' q).Advances)
    (hrule : ∀ registry name, p = .reference registry name →
      Option.Rel (fun q q' => K.Matchers (apply q) (apply' q'))
        (scope registry name) (scope' registry name)) :
    K.Matchers (p.layer scope room use apply) (p.layer scope' room' use' apply') := by
  cases p with
  | literal text format => exact matchers_literal (hformat format rfl) text
  | charClass cls format => exact matchers_charClass (hformat format rfl) cls
  | sequence children format =>
    exact matchers_row (hformat format rfl) (List.forall₂_same.2 hparts) []
  | alternation children format =>
    exact matchers_alternation (hformat format rfl) (List.forall₂_same.2 hparts)
  | optional child format =>
    exact matchers_optional (hformat format rfl) (hparts child (List.mem_singleton_self _))
  | repetition child minimum format =>
    have hmem : child ∈ [child] := List.mem_singleton_self _
    exact matchers_repetition (hformat format rfl) (hparts child hmem)
      (hfuel.imp_right fun h => h child hmem) minimum
  | reference registry name =>
    intro c c' hc
    simp only [Parser.layer]
    cases name.keyObstacle? with
    | some typeName => exact runs_fault (K.fault_self nofun)
    | none =>
      have hfound := hrule registry name rfl
      generalize scope registry name = found, scope' registry name = found' at hfound
      cases hfound with
      | some htarget => exact htarget c c' hc
      | none => exact hunbound registry name rfl c c' hc
  | leaf l => exact hhand _ rfl
  | custom matcher => exact hhand _ rfl
  | probe label inner =>
    exact matchers_probe label (hparts inner (List.mem_singleton_self _))
  | inert value => exact fun _ _ _ => runs_fault (K.fault_self nofun)

/-! ### Equal reports -/

/-- The comparison that asks for equal reports at the cursors with `P`, unless the first run ends
with an excused fault. -/
def same (P : Cursor → Prop) (hforward : ∀ c n, P c → P (c.forward n)) (excused : Fault → Prop) :
    Comparison where
  cursors c c' := c = c' ∧ P c
  faults := Eq
  events := Eq
  excused := excused
  ahead_eq := by
    rintro c _ ⟨rfl, -⟩
    rfl
  forward := by
    rintro c _ n ⟨rfl, hc⟩
    exact ⟨rfl, hforward c n hc⟩
  pos_eq_iff := by
    rintro c _ d _ ⟨rfl, -⟩ ⟨rfl, -⟩
    rfl
  fault_self _ := rfl
  fault_unbound := by
    rintro c _ room name ⟨rfl, -⟩
    rfl
  mark_self _ := rfl
  zeroWidth := by
    rintro c _ count ⟨rfl, -⟩
    rfl
  enter := by
    rintro c _ label ⟨rfl, -⟩
    rfl
  leave := by
    rintro c _ label ⟨rfl, -⟩
    rfl

section Same

variable {P : Cursor → Prop} {hforward : ∀ c n, P c → P (c.forward n)} {excused : Fault → Prop}

theorem same_keepsSize : (same P hforward excused).KeepsSize := by
  rintro c _ ⟨rfl, -⟩
  rfl

theorem same_formats_within {room room' : Nat}
    (hroom : (same P hforward excused).Rooms room room') (format : Formatter) :
    (same P hforward excused).Formats (format.within room) (format.within room') :=
  formats_within hroom fun _ _ _ _ _ => rfl

/-- Reports that agree are equal, unless the first is excused, and a match ends at a cursor with
`P`. -/
theorem same_reports_iff {r r' : Report α} :
    (same P hforward excused).Reports r r' ↔
      (∃ f, r.outcome = .fault f ∧ excused f) ∨
        (r = r' ∧ ∀ v rest, r.outcome = .matched v rest → P rest) := by
  refine or_congr_right ?_
  rcases r with ⟨events, outcome, store⟩
  rcases r' with ⟨events', outcome', store'⟩
  constructor
  · rintro ⟨hevents, houtcome, rfl⟩
    obtain rfl : events = events' := List.forall₂_eq_eq_eq ▸ hevents
    cases houtcome with
    | matched h =>
      obtain ⟨rfl, hrest⟩ := h
      refine ⟨rfl, ?_⟩
      rintro v rest ⟨⟩
      exact hrest
    | mismatch => exact ⟨rfl, nofun⟩
    | fault h =>
      cases h
      exact ⟨rfl, nofun⟩
  · rintro ⟨⟨⟩, hrest⟩
    refine ⟨List.forall₂_same.2 fun _ _ => rfl, ?_, rfl⟩
    cases outcome with
    | matched v rest => exact .matched ⟨rfl, hrest v rest rfl⟩
    | mismatch => exact .mismatch
    | fault f => exact .fault rfl

/-- A matcher agrees with itself if it keeps to the cursors with `P`. -/
theorem same_matchers_self {matcher : Matcher}
    (h : ∀ c s v rest, P c → (matcher c s).outcome = .matched v rest → P rest) :
    (same P hforward excused).Matchers matcher matcher := by
  rintro c _ ⟨rfl, hc⟩ s
  exact same_reports_iff.2 (Or.inr ⟨rfl, fun v rest => h c s v rest hc⟩)

/-- Levels agree if the levels below do, and a parser that is written by hand keeps to the cursors
with `P`. -/
theorem same_matchers_layer {scope scope' : Scope} {room room' : Nat}
    {apply apply' : Parser → Matcher} {p : Parser}
    (hroom : (same P hforward excused).Rooms room room')
    (hhand : ∀ matcher, p.handWritten? = some matcher →
      ∀ c s v rest, P c → (matcher c s).outcome = .matched v rest → P rest)
    (hparts : ∀ q ∈ p.parts, (same P hforward excused).Matchers (apply q) (apply' q))
    (hrule : ∀ registry name, p = .reference registry name →
      Option.Rel (fun q q' => (same P hforward excused).Matchers (apply q) (apply' q'))
        (scope registry name) (scope' registry name)) :
    (same P hforward excused).Matchers
      (p.layer scope room (fun format => format.within room) apply)
      (p.layer scope' room' (fun format => format.within room') apply') :=
  matchers_layer (fun _ name _ _ _ hc => runs_unbound hroom name hc)
    (fun format _ => same_formats_within hroom format)
    (fun matcher hmatcher => same_matchers_self (hhand matcher hmatcher)) hparts
    (Or.inl same_keepsSize) hrule

end Same

end Comparison

end GrammarKit
