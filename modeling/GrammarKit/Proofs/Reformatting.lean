import GrammarKit.Proofs.Branching
import GrammarKit.Proofs.Levels
import GrammarKit.Proofs.Reach

/-!
# Other formatters

Matching never looks at values. Two parsers that differ in nothing but their formatters consume the
same text, log the same records and end alike, as long as no formatter fails.

* `Parser.mapFormat`, `Scope.mapFormat` — parsers and rules with other formatters;
* `Parser.unformatted` — what is left of a parser without its formatters;
* `Report.look` — what is seen of a run apart from values;
* `Run.Alike` — two runs look alike from whatever shared lists they start;
* `runBy_alike` — runs with formatters that do not fail look alike;
* `run_unformatted` — a parser without its formatters is one whose formatters do nothing;
* `Formatter.forgiving` — the formatter gives a null value where it would fail;
* `Parser.FormatsCleanly` — no formatter fails in an application;
* `run_alike_of_unformatted_eq` — formatters never influence matching.
-/

namespace GrammarKit

/-! ### Parsers with other formatters -/

namespace Parser

mutual

/-- The parser with each of its formatters replaced. -/
def mapFormat (f : Formatter → Formatter) : Parser → Parser
  | literal text format => literal text (f format)
  | charClass cls format => charClass cls (f format)
  | sequence children format => sequence (mapFormatIn f children) (f format)
  | alternation children format => alternation (mapFormatIn f children) (f format)
  | optional child format => optional (mapFormat f child) (f format)
  | repetition child minimum format => repetition (mapFormat f child) minimum (f format)
  | reference registry name => reference registry name
  | leaf l => leaf l
  | custom matcher => custom matcher
  | probe label inner => probe label (mapFormat f inner)
  | inert value => inert value

/-- Several parsers with their formatters replaced. -/
def mapFormatIn (f : Formatter → Formatter) : List Parser → List Parser
  | [] => []
  | p :: ps => mapFormat f p :: mapFormatIn f ps

end

variable (f : Formatter → Formatter)

theorem mapFormatIn_eq (ps : List Parser) : mapFormatIn f ps = ps.map (mapFormat f) := by
  induction ps with
  | nil => rfl
  | cons p ps ih => rw [mapFormatIn, ih, List.map_cons]

theorem parts_mapFormat (p : Parser) : (p.mapFormat f).parts = p.parts.map (mapFormat f) := by
  cases p <;> simp [mapFormat, parts, mapFormatIn_eq]

theorem format?_mapFormat (p : Parser) : (p.mapFormat f).format? = p.format?.map f := by
  cases p <;> simp [mapFormat, format?]

theorem isPlain_mapFormat (p : Parser) : (p.mapFormat f).isPlain = p.isPlain := by
  cases p <;> simp [mapFormat, isPlain]

theorem mapFormat_eq_reference {p : Parser} {registry : RegistryId} {name : Value} :
    p.mapFormat f = reference registry name ↔ p = reference registry name := by
  cases p <;> simp [mapFormat]

theorem mapFormat_eq_custom {p : Parser} {matcher : Matcher} :
    p.mapFormat f = custom matcher ↔ p = custom matcher := by
  cases p <;> simp [mapFormat]

/-- What is left of a parser without its formatters. -/
def unformatted : Parser → Parser := mapFormat fun _ => Formatter.identity

end Parser

namespace Scope

/-- The rules with each of their formatters replaced. -/
def mapFormat (f : Formatter → Formatter) (scope : Scope) : Scope := fun registry name =>
  (scope registry name).map (Parser.mapFormat f)

/-- What is left of the rules without their formatters. -/
def unformatted : Scope → Scope := mapFormat fun _ => Formatter.identity

variable {scope : Scope} {f : Formatter → Formatter}

/-- Parsers with other formatters reach the same parsers, with other formatters. -/
theorem reaches_mapFormat_iff {p r : Parser} :
    (scope.mapFormat f).Reaches (p.mapFormat f) r ↔ ∃ q, scope.Reaches p q ∧ q.mapFormat f = r := by
  constructor
  · intro h
    induction h with
    | self => exact ⟨p, .self, rfl⟩
    | part _ hr ih =>
      obtain ⟨q, hq, rfl⟩ := ih
      rw [Parser.parts_mapFormat] at hr
      obtain ⟨part, hpart, rfl⟩ := List.mem_map.1 hr
      exact ⟨part, hq.part hpart, rfl⟩
    | rule _ hr ih =>
      obtain ⟨q, hq, heq⟩ := ih
      rw [Parser.mapFormat_eq_reference] at heq
      subst heq
      obtain ⟨target, htarget, rfl⟩ := Option.map_eq_some_iff.1 hr
      exact ⟨target, hq.rule htarget, rfl⟩
  · rintro ⟨q, hq, rfl⟩
    induction hq with
    | self => exact .self
    | @part q r _ hr ih =>
      refine ih.part ?_
      rw [Parser.parts_mapFormat]
      exact List.mem_map_of_mem hr
    | @rule registry name r _ hr ih =>
      rw [Parser.mapFormat] at ih
      exact ih.rule (by rw [mapFormat, hr, Option.map_some])

end Scope

/-! ### Runs that look alike -/

/-- Marks are no log records. -/
@[simp] theorem Event.logs_mark_cons (mark : Mark) (events : List Event) :
    logs (.mark mark :: events) = logs events := rfl

theorem Event.logs_map_mark (marks : List Mark) : logs (marks.map .mark) = [] := by
  induction marks with
  | nil => rfl
  | cons mark marks ih => rw [List.map_cons, logs_mark_cons, ih]

/-- What is seen of a run apart from values: its log records, and how it ends. -/
def Report.look {α : Type} (report : Report α) : List LogRecord × Outcome Unit :=
  (Event.logs report.events, report.outcome.map fun _ => ())

/-- Two reports look alike if they have the same log records and both end with a match up to the
same cursor, both with a mismatch, or both with the same fault. -/
theorem Report.look_eq_iff {α β : Type} {report : Report α} {report' : Report β} :
    report.look = report'.look ↔
      Event.logs report.events = Event.logs report'.events ∧
      ((∃ v v' rest, report.outcome = .matched v rest ∧ report'.outcome = .matched v' rest) ∨
        (report.outcome = .mismatch ∧ report'.outcome = .mismatch) ∨
        (∃ f, report.outcome = .fault f ∧ report'.outcome = .fault f)) := by
  rcases report with ⟨events, outcome, store⟩
  rcases report' with ⟨events', outcome', store'⟩
  cases outcome <;> cases outcome' <;> simp [look, Outcome.map, eq_comm]

/-- Reports that look alike end with the same fault, if one of them ends with a fault. -/
theorem Report.fault_iff_of_look_eq {α β : Type} {report : Report α} {report' : Report β}
    (h : report.look = report'.look) (f : Fault) :
    report.outcome = .fault f ↔ report'.outcome = .fault f := by
  rcases look_eq_iff.1 h with ⟨-, ⟨v, v', rest, ho, ho'⟩ | ⟨ho, ho'⟩ | ⟨f', ho, ho'⟩⟩
  · simp only [ho, ho', reduceCtorEq]
  · simp only [ho, ho', reduceCtorEq]
  · simp only [ho, ho', Outcome.fault.injEq]

/-- The runs look alike, whatever the shared lists are that each of them starts from. -/
def Run.Alike {α β : Type} (run : Run α) (run' : Run β) : Prop :=
  ∀ s s', (run s).look = (run' s').look

/-- The function does not fail on the results of combinators. -/
def Formatting.IsTotal (format : Formatting) : Prop :=
  ∀ tag payload s, ∃ v, (format (.tagged tag payload) s).result = .ok v

namespace Run

theorem alike_mismatch {α β : Type} : (mismatch : Run α).Alike (mismatch : Run β) :=
  fun _ _ => rfl

theorem alike_fault {α β : Type} (f : Fault) : (fault f : Run α).Alike (fault f : Run β) :=
  fun _ _ => rfl

theorem look_formatted {format : Formatting} (h : format.IsTotal) (tag : Tag) (payload : Value)
    (rest : Cursor) (s : Store) :
    (formatted format tag payload rest s).look = ([], .matched () rest) := by
  obtain ⟨v, hv⟩ := h tag payload s
  simp [formatted, hv, Report.look, Outcome.map, Event.logs_map_mark]

theorem alike_formatted {format format' : Formatting} (h : format.IsTotal) (h' : format'.IsTotal)
    (tag : Tag) (payload payload' : Value) (rest : Cursor) :
    (formatted format tag payload rest).Alike (formatted format' tag payload' rest) := by
  intro s s'
  rw [look_formatted h, look_formatted h']

theorem look_after {α : Type} (events : List Event) (report : Report α) :
    (report.after events).look = (Event.logs events ++ report.look.1, report.look.2) := by
  simp [Report.after, Report.look]

theorem Alike.after {α β : Type} {run : Run α} {run' : Run β} (h : run.Alike run')
    (events : List Event) : (run.after events).Alike (run'.after events) := by
  intro s s'
  unfold Run.after
  rw [look_after, look_after, h s s']

/-- Where the applications look alike, and so does what follows them, the whole runs do. -/
theorem Alike.branch {α α' β β' : Type} {run : Run α} {run' : Run α'}
    {next : α → Cursor → Run β} {next' : α' → Cursor → Run β'} {other : Run β} {other' : Run β'}
    (h : run.Alike run') (hnext : ∀ v v' rest, (next v rest).Alike (next' v' rest))
    (hother : other.Alike other') :
    (run.branch next other).Alike (run'.branch next' other') := by
  intro s s'
  unfold Run.branch
  obtain ⟨hlogs, ⟨v, v', rest, ho, ho'⟩ | ⟨ho, ho'⟩ | ⟨f, ho, ho'⟩⟩ := Report.look_eq_iff.1 (h s s')
  · simp only [ho, ho', look_after, hlogs, hnext v v' rest (run s).store (run' s').store]
  · simp only [ho, ho', look_after, hlogs, hother (run s).store (run' s').store]
  · simp only [ho, ho', Report.look, hlogs, Outcome.map]

end Run

namespace Matcher

variable {ι : Type} {apply apply' : ι → Matcher}
variable {child child' : Matcher} {format format' : Formatting}

theorem alike_row (hformat : format.IsTotal) (hformat' : format'.IsTotal) {children : List ι}
    (h : ∀ i ∈ children, ∀ c, (apply i c).Alike (apply' i c))
    (values values' : List Value) (c : Cursor) :
    (row apply children format values c).Alike (row apply' children format' values' c) := by
  induction children generalizing values values' c with
  | nil =>
    rw [row_nil, row_nil]
    exact Run.alike_formatted hformat hformat' _ _ _ c
  | cons i children ih =>
    rw [row_cons, row_cons]
    refine (h i (List.mem_cons_self ..) c).branch (fun v v' rest => ?_) Run.alike_mismatch
    exact ih (fun j hj => h j (List.mem_cons_of_mem _ hj)) _ _ rest

theorem alike_alternation (hformat : format.IsTotal) (hformat' : format'.IsTotal)
    {children : List ι} {c : Cursor}
    (h : ∀ i ∈ children, (apply i c).Alike (apply' i c)) :
    (alternation apply children format c).Alike (alternation apply' children format' c) := by
  induction children with
  | nil => exact Run.alike_mismatch
  | cons i children ih =>
    rw [alternation_cons, alternation_cons]
    refine (h i (List.mem_cons_self ..)).branch (fun v v' rest => ?_)
      (ih fun j hj => h j (List.mem_cons_of_mem _ hj))
    exact Run.alike_formatted hformat hformat' _ v v' rest

theorem alike_optional (hformat : format.IsTotal) (hformat' : format'.IsTotal) {c : Cursor}
    (h : (child c).Alike (child' c)) :
    (optional child format c).Alike (optional child' format' c) := by
  rw [optional_eq_branch, optional_eq_branch]
  exact h.branch (fun v v' rest => Run.alike_formatted hformat hformat' _ v v' rest)
    (Run.alike_formatted hformat hformat' _ _ _ c)

/-- Of the values so far, only their number counts. -/
theorem alike_loop (hformat : format.IsTotal) (hformat' : format'.IsTotal)
    (h : ∀ c, (child c).Alike (child' c)) (minimum fuel : Nat) {values values' : List Value}
    (hlength : values.length = values'.length) (c : Cursor) :
    (loop child minimum fuel format values c).Alike
      (loop child' minimum fuel format' values' c) := by
  induction fuel generalizing values values' c with
  | zero => exact Run.alike_fault .endless
  | succ fuel ih =>
    rw [loop_succ, loop_succ, hlength]
    refine (h c).branch (fun v v' rest => ?_) ?_
    · by_cases hzero : rest.pos = c.pos
      · rw [if_pos hzero, if_pos hzero]
        exact (Run.alike_formatted hformat hformat' _ _ _ c).after _
      · rw [if_neg hzero, if_neg hzero]
        exact ih (by simp [hlength]) rest
    · by_cases hmin : values'.length < minimum
      · rw [if_pos hmin, if_pos hmin]
        exact Run.alike_mismatch
      · rw [if_neg hmin, if_neg hmin]
        exact Run.alike_formatted hformat hformat' _ _ _ c

theorem alike_probe (label : String) {c : Cursor} (h : (child c).Alike (child' c)) :
    (probe label child c).Alike (probe label child' c) := by
  intro s s'
  unfold probe
  obtain ⟨hlogs, ⟨v, v', rest, ho, ho'⟩ | ⟨ho, ho'⟩ | ⟨f, ho, ho'⟩⟩ := Report.look_eq_iff.1 (h s s')
  all_goals
    simp only [ho, ho', Report.look, Outcome.map, Event.logs_append, Event.logs_mark_cons, hlogs]

end Matcher

/-! ### Formatters that do not fail -/

/-- The matcher looks the same whatever the shared lists are. -/
def Matcher.IsBlind (matcher : Matcher) : Prop := ∀ c, (matcher c).Alike (matcher c)

/-- A parser that is a function does not depend on the shared lists, which formatters change. -/
def Parser.IsBlind (p : Parser) : Prop := ∀ matcher, p = .custom matcher → matcher.IsBlind

theorem Leaf.isBlind (l : Leaf) : l.matcher.IsBlind := by
  intro c s s'
  cases l with
  | anyChar =>
    simp only [Leaf.matcher, Matcher.anyChar]
    cases c.next? <;> rfl
  | skip count =>
    simp only [Leaf.matcher, Matcher.skip]
    cases c.advance count <;> rfl
  | never | rest | position | broken => rfl

variable {scope : Scope} {p : Parser}

/-- **Runs with formatters that do not fail look alike.** -/
theorem runBy_alike {use use' : Formatter → (room : Nat) → Formatting}
    (hformat : scope.Everywhere (fun q => ∀ format, q.format? = some format →
      ∀ room, (use format room).IsTotal ∧ (use' format room).IsTotal) p)
    (hblind : scope.Everywhere Parser.IsBlind p) (limit : Nat) (c : Cursor) :
    (p.runBy use scope limit c).Alike (p.runBy use' scope limit c) := by
  induction limit generalizing p c with
  | zero => exact Run.alike_fault .recursionLimit
  | succ limit ih =>
    have hparts : ∀ q ∈ p.parts, ∀ c,
        (q.runBy use scope limit c).Alike (q.runBy use' scope limit c) :=
      fun q hq c => ih (hformat.part hq) (hblind.part hq) c
    rw [Parser.runBy_succ, Parser.runBy_succ]
    cases p with
    | literal text format =>
      obtain ⟨h, h'⟩ := hformat.self format rfl limit
      simp only [Parser.layer, Matcher.literal]
      split
      · exact Run.alike_formatted h h' _ _ _ _
      · exact Run.alike_mismatch
    | charClass cls format =>
      obtain ⟨h, h'⟩ := hformat.self format rfl limit
      simp only [Parser.layer, Matcher.charClass]
      cases c.next? with
      | none => exact Run.alike_mismatch
      | some char =>
        simp only
        split
        · exact Run.alike_formatted h h' _ _ _ _
        · exact Run.alike_mismatch
    | sequence children format =>
      obtain ⟨h, h'⟩ := hformat.self format rfl limit
      exact Matcher.alike_row h h' hparts [] [] c
    | alternation children format =>
      obtain ⟨h, h'⟩ := hformat.self format rfl limit
      exact Matcher.alike_alternation h h' fun q hq => hparts q hq c
    | optional child format =>
      obtain ⟨h, h'⟩ := hformat.self format rfl limit
      exact Matcher.alike_optional h h' (hparts child (List.mem_singleton_self _) c)
    | repetition child minimum format =>
      obtain ⟨h, h'⟩ := hformat.self format rfl limit
      exact Matcher.alike_loop h h' (hparts child (List.mem_singleton_self _)) minimum _ rfl c
    | reference registry name =>
      simp only [Parser.layer]
      cases name.keyObstacle? with
      | some typeName => exact Run.alike_fault _
      | none =>
        cases hbound : scope registry name with
        | none => exact Run.alike_fault _
        | some target => exact ih (hformat.rule hbound) (hblind.rule hbound) c
    | leaf l => exact l.isBlind c
    | custom matcher => exact hblind.self matcher rfl c
    | probe label inner =>
      exact Matcher.alike_probe label (hparts inner (List.mem_singleton_self _) c)
    | inert value => exact Run.alike_fault _

/-! ### Parsers without formatters -/

/-- With other formatters, a run is that in which the formatters do what the others do. -/
theorem runBy_mapFormat (f : Formatter → Formatter)
    (use : Formatter → (room : Nat) → Formatting) (limit : Nat) (p : Parser) :
    (p.mapFormat f).runBy use (scope.mapFormat f) limit =
      p.runBy (fun format => use (f format)) scope limit := by
  induction limit generalizing p with
  | zero => rfl
  | succ limit ih =>
    rw [Parser.runBy_succ, Parser.runBy_succ]
    have hbelow : (fun q : Parser => (q.mapFormat f).runBy use (scope.mapFormat f) limit) =
        Parser.runBy (fun format => use (f format)) scope limit := funext ih
    funext c
    cases p with
    | sequence children format =>
      simp only [Parser.mapFormat, Parser.mapFormatIn_eq, Parser.layer, Matcher.sequence,
        Matcher.collect_map, hbelow]
    | alternation children format =>
      simp only [Parser.mapFormat, Parser.mapFormatIn_eq, Parser.layer, Matcher.alternation,
        Matcher.firstMatch_map, hbelow]
    | optional child format => simp only [Parser.mapFormat, Parser.layer, ih]
    | repetition child minimum format => simp only [Parser.mapFormat, Parser.layer, ih]
    | probe label inner => simp only [Parser.mapFormat, Parser.layer, ih]
    | reference registry name =>
      simp only [Parser.mapFormat, Parser.layer, Scope.mapFormat]
      cases name.keyObstacle? with
      | some typeName => rfl
      | none =>
        cases scope registry name with
        | none => rfl
        | some target => exact congrFun (ih target) c
    | literal | charClass | leaf | custom | inert => rfl

/-- A parser without its formatters is one whose formatters do nothing. -/
theorem run_unformatted (limit : Nat) (p : Parser) :
    p.unformatted.run scope.unformatted limit =
      p.runBy (fun _ => Formatter.identity.within) scope limit := by
  rw [← Parser.runBy_within]
  exact runBy_mapFormat _ _ limit p

/-! ### Formatters and matching -/

/-- What the formatter does, with a null value where it would fail. -/
def Formatter.forgiving (format : Formatter) (room : Nat) : Formatting := fun value store =>
  let shaped := format.within room value store
  match shaped.result with
  | .ok _ => shaped
  | .error _ => { shaped with result := .ok .null }

theorem Formatter.isTotal_forgiving (format : Formatter) (room : Nat) :
    (format.forgiving room).IsTotal := by
  intro tag payload s
  unfold forgiving
  cases h : (format.within room (.tagged tag payload) s).result with
  | ok v => exact ⟨v, by simp only [h]⟩
  | error f => exact ⟨.null, by simp only [h]⟩

/-- A formatter that computes a value never fails. -/
theorem Formatter.isTotal_ofFunction (f : Value → Value) (room : Nat) :
    ((ofFunction f).within room).IsTotal :=
  fun tag payload _ => ⟨f (.tagged tag payload), rfl⟩

/-- No formatter fails in the application: it looks the same if the formatters give a null value
where they would fail. -/
def Parser.FormatsCleanly (scope : Scope) (limit : Nat) (p : Parser) (c : Cursor) (s : Store) :
    Prop :=
  (p.run scope limit c s).look = (p.runBy Formatter.forgiving scope limit c s).look

/-- No formatter fails in an application if none that can be reached ever does. -/
theorem Parser.formatsCleanly_of_isTotal
    (hformat : scope.Everywhere (fun q => ∀ format, q.format? = some format →
      ∀ room, (format.within room).IsTotal) p)
    (hblind : scope.Everywhere Parser.IsBlind p) (limit : Nat) (c : Cursor) (s : Store) :
    p.FormatsCleanly scope limit c s := by
  rw [FormatsCleanly, ← runBy_within]
  exact runBy_alike (fun q hq format h room => ⟨hformat q hq format h room,
    format.isTotal_forgiving room⟩) hblind limit c s s

/-- Formatters that give a null value where they would fail do not show. -/
theorem runBy_forgiving_alike (hblind : scope.Everywhere Parser.IsBlind p) (limit : Nat)
    (c : Cursor) :
    (p.runBy Formatter.forgiving scope limit c).Alike
      (p.unformatted.run scope.unformatted limit c) := by
  rw [run_unformatted]
  exact runBy_alike (fun q _ format _ room => ⟨format.isTotal_forgiving room,
    Formatter.isTotal_ofFunction _ room⟩) hblind limit c

/-- An application in which no formatter fails looks like one without formatters. -/
theorem Parser.FormatsCleanly.look_eq_unformatted {limit : Nat} {c : Cursor} {s : Store}
    (h : p.FormatsCleanly scope limit c s) (hblind : scope.Everywhere Parser.IsBlind p)
    (s' : Store) :
    (p.run scope limit c s).look = (p.unformatted.run scope.unformatted limit c s').look :=
  h.trans (runBy_forgiving_alike hblind limit c s s')

/-- Whether functions depend on the shared lists has nothing to do with formatters. -/
theorem Scope.everywhere_isBlind_unformatted :
    scope.unformatted.Everywhere Parser.IsBlind p.unformatted ↔
      scope.Everywhere Parser.IsBlind p := by
  constructor
  · rintro h q hq matcher rfl
    exact h (.custom matcher) (Scope.reaches_mapFormat_iff.2 ⟨_, hq, rfl⟩) matcher rfl
  · rintro h r hr matcher rfl
    obtain ⟨q, hq, heq⟩ := Scope.reaches_mapFormat_iff.1 hr
    exact h q hq matcher ((Parser.mapFormat_eq_custom _).1 heq)

/-- **Formatters never influence matching.** Let two parsers with their rules be the same apart from
formatters, and let no formatter fail in their applications at a cursor. Then, under the same
recursion limit, the applications log the same records, and both match up to the same cursor, both
mismatch, or both end with the same fault. -/
theorem run_alike_of_unformatted_eq {scope' : Scope} {q : Parser}
    (hparser : p.unformatted = q.unformatted) (hscope : scope.unformatted = scope'.unformatted)
    (hblind : scope.Everywhere Parser.IsBlind p) {limit : Nat} {c : Cursor} {s s' : Store}
    (hp : p.FormatsCleanly scope limit c s) (hq : q.FormatsCleanly scope' limit c s') :
    let report := p.run scope limit c s
    let report' := q.run scope' limit c s'
    Event.logs report.events = Event.logs report'.events ∧
      ((∃ v v' rest, report.outcome = .matched v rest ∧ report'.outcome = .matched v' rest) ∨
        (report.outcome = .mismatch ∧ report'.outcome = .mismatch) ∨
        (∃ f, report.outcome = .fault f ∧ report'.outcome = .fault f)) := by
  have hblind' : scope'.Everywhere Parser.IsBlind q := by
    rw [← Scope.everywhere_isBlind_unformatted] at hblind ⊢
    rwa [← hparser, ← hscope]
  refine Report.look_eq_iff.1 ?_
  calc (p.run scope limit c s).look
      = (p.unformatted.run scope.unformatted limit c {}).look := hp.look_eq_unformatted hblind {}
    _ = (q.unformatted.run scope'.unformatted limit c {}).look := by rw [hparser, hscope]
    _ = (q.run scope' limit c s').look := (hq.look_eq_unformatted hblind' {}).symm

/-- Brackets inside brackets, as often as there are some, each with the given formatters. -/
def bracketRow (row outer inner left right : Formatter) : Parser :=
  .repetition
    (.optional
      (.sequence [.literal "(" left, .reference 0 (.text "row"), .literal ")" right] inner) outer)
    2 row

/-- Brackets whose contents are joined. -/
def joinedBrackets : Parser := bracketRow .identity .unwrap .matchedText .identity .identity

/-- Brackets whose contents are lost. -/
def lostBrackets : Parser :=
  bracketRow (.constant (.list [])) (.constant .absent) (.constant .null) (.constant .noMatch)
    (.constant (.int 0))

theorem run_alike_of_unformatted_eq_brackets :
    let report := joinedBrackets.run (fun _ _ => some joinedBrackets) 20 (.start "(())") {}
    let report' := lostBrackets.run (fun _ _ => some lostBrackets) 20 (.start "(())") {}
    Event.logs report.events = Event.logs report'.events ∧
      ((∃ v v' rest, report.outcome = .matched v rest ∧ report'.outcome = .matched v' rest) ∨
        (report.outcome = .mismatch ∧ report'.outcome = .mismatch) ∨
        (∃ f, report.outcome = .fault f ∧ report'.outcome = .fault f)) := by
  have hjoinedBlind : ∀ q ∈ joinedBrackets.subtrees, q.IsBlind := by
    simp [joinedBrackets, bracketRow, Parser.subtrees, Parser.subtreesIn, Parser.IsBlind]
  have hlostBlind : ∀ q ∈ lostBrackets.subtrees, q.IsBlind := by
    simp [lostBrackets, bracketRow, Parser.subtrees, Parser.subtreesIn, Parser.IsBlind]
  have hlostTotal : ∀ q ∈ lostBrackets.subtrees, ∀ format, q.format? = some format →
      ∀ room, (format.within room).IsTotal := by
    simp [lostBrackets, bracketRow, Parser.subtrees, Parser.subtreesIn, Parser.format?,
      Formatter.constant, Formatter.isTotal_ofFunction]
  have hparser : joinedBrackets.unformatted = lostBrackets.unformatted := rfl
  have hscope : Scope.unformatted (fun _ _ => some joinedBrackets) =
      Scope.unformatted fun _ _ => some lostBrackets := rfl
  -- A matched text can fail on other values, so the contents are joined in this application only.
  have hjoined : joinedBrackets.FormatsCleanly (fun _ _ => some joinedBrackets) 20
      (.start "(())") {} :=
    Eq.trans (b := ([.zeroWidth 2 1, .zeroWidth 3 2, .zeroWidth 4 2],
      .matched () ((Cursor.start "(())").forward 4))) rfl rfl
  have hlost : lostBrackets.FormatsCleanly (fun _ _ => some lostBrackets) 20 (.start "(())") {} :=
    Parser.formatsCleanly_of_isTotal
      (Scope.everywhere_of_subtrees hlostTotal fun _ _ _ hr => Option.some.inj hr ▸ hlostTotal)
      (Scope.everywhere_of_subtrees hlostBlind fun _ _ _ hr => Option.some.inj hr ▸ hlostBlind) ..
  exact run_alike_of_unformatted_eq hparser hscope
    (Scope.everywhere_of_subtrees hjoinedBlind fun _ _ _ hr => Option.some.inj hr ▸ hjoinedBlind)
    hjoined hlost

end GrammarKit
