import GrammarKit.Proofs.Bindings
import GrammarKit.Proofs.RunFaults
import Mathlib.Order.Filter.Finite

/-!
# Nesting

Sequences and repetitions apply their children one after the other, not one inside the other. So it
is not the length of a source that nests applications: only the parts of a parser do, and the rules
that references find. If no rule comes back to itself, there is a depth that is enough for every
source, and it can be told from the parser and the rules alone.

* `Scope.RefersTo`, `Scope.NotRecursive` — grammars without cycles of references;
* `Scope.FitsIn` — a bound on how deep applications are nested;
* `Scope.NotRecursive.eventually_fitsIn` — without cycles there is such a bound;
* `Scope.NamesFitIn` — a bound on the size of the names in references;
* `Scope.IgnoresRoom` — the formatters do not look at their room;
* `run_eq_of_fitsIn` — beyond these bounds, recursion limits make no difference to them;
* `Formatter.unexhausted`, `Parser.FormatsWithinLimit` — no formatter exhausts the limit in an
  application;
* `run_ne_recursionLimit` — then the application does not exhaust it, however long the source is.
-/

namespace GrammarKit

variable {scope : Scope} {p : Parser} {n : Nat}

/-- `q` is a part of `p`. -/
def Parser.HasPart (p q : Parser) : Prop := q ∈ p.parts

namespace Scope

/-- The rule `A` refers to the rule `B`: a reference to `B` occurs in the body of `A`. A rule is
given by its registry and its name. -/
def RefersTo (scope : Scope) (A B : RegistryId × Value) : Prop :=
  ∃ body, scope A.1 A.2 = some body ∧ .reference B.1 B.2 ∈ body.subtrees

/-- No rule that `p` reaches refers to itself, be it through others. -/
def NotRecursive (scope : Scope) (p : Parser) : Prop :=
  ∀ A : RegistryId × Value, scope.Reaches p (.reference A.1 A.2) →
    ¬ Relation.TransGen scope.RefersTo A A

theorem Calls.refersTo {A B : RegistryId × Value} (h : scope.Calls Parser.HasPart A B) :
    scope.RefersTo A B := by
  obtain ⟨body, hbody, hpath⟩ := h
  refine ⟨body, hbody, ?_⟩
  generalize Parser.reference B.1 B.2 = target at hpath
  induction hpath with
  | refl => exact body.self_mem_subtrees
  | tail _ hpart ih => exact Parser.mem_subtrees_of_mem_parts ih hpart

theorem NotRecursive.acyclic (h : scope.NotRecursive p) : scope.Acyclic Parser.HasPart p :=
  fun A hA hcycle => h A hA (hcycle.lift id fun _ _ hcall => hcall.refersTo)

/-! ### How deep applications are nested -/

/-- At most `n` applications are nested while the parser is applied. -/
def FitsIn (scope : Scope) : Nat → Parser → Prop
  | 0, _ => False
  | n + 1, p => ∀ q, scope.Leads Parser.HasPart p q → scope.FitsIn n q

/-- An application leads to finitely many others. -/
theorem finite_leads (scope : Scope) (p : Parser) :
    {q | scope.Leads Parser.HasPart p q}.Finite := by
  have hrule : {q | ∃ registry name,
      p = .reference registry name ∧ scope registry name = some q}.Subsingleton := by
    rintro q ⟨registry, name, rfl, hq⟩ r ⟨_, _, heq, hr⟩
    cases heq
    exact Option.some.inj (hq.symm.trans hr)
  refine ((List.finite_toSet p.parts).union hrule.finite).subset fun q hq => ?_
  cases hq with
  | part hpart => exact Or.inl hpart
  | rule hrule => exact Or.inr ⟨_, _, rfl, hrule⟩

/-- A depth that is enough for whatever an application leads to is one less than enough for it. -/
theorem eventually_fitsIn (h : Acc (fun r q => scope.Leads Parser.HasPart q r) p) :
    ∀ᶠ n in Filter.atTop, scope.FitsIn n p := by
  induction h with
  | intro p _ ih =>
    have hbelow : ∀ᶠ n in Filter.atTop, ∀ q ∈ {q | scope.Leads Parser.HasPart p q},
        scope.FitsIn n q := (Filter.eventually_all_finite (scope.finite_leads p)).2 ih
    obtain ⟨depth, hdepth⟩ := Filter.eventually_atTop.1 hbelow
    refine Filter.eventually_atTop.2 ⟨depth + 1, fun n hn => ?_⟩
    obtain ⟨n, rfl⟩ := Nat.exists_eq_add_one_of_ne_zero (Nat.ne_zero_of_lt hn)
    exact hdepth n (Nat.le_of_succ_le_succ hn)

/-- **Without cycles of references, the depth is bounded.** -/
theorem NotRecursive.eventually_fitsIn (h : scope.NotRecursive p)
    (hrules : scope.HasFinitelyManyRules) : ∀ᶠ n in Filter.atTop, scope.FitsIn n p :=
  Scope.eventually_fitsIn (h.acyclic.acc_leads (fun _ _ hpart => hpart) hrules).self

end Scope

/-! ### Names that are written -/

/-- What is looked into is no larger than the value, if there is something in it. -/
theorem Store.sizeOf_opened_le {value : Value} (h : ({} : Store).opened value ≠ .list []) :
    sizeOf (({} : Store).opened value) ≤ sizeOf value := by
  cases value with
  | shared id => exact absurd rfl h
  | labelled label value => simp [opened, Value.bare]
  | _ => exact Nat.le_refl _

/-- The text of a value nests less deeply than the value is large. -/
theorem Store.spelledFrom_finished {room : Nat} {value : Value} (hsize : sizeOf value < room)
    (around : List Identity) :
    FailsOnly (· ≠ .recursionLimit) (({} : Store).spelledFrom room around value) := by
  induction room generalizing around value with
  | zero => omega
  | succ room ih =>
    have hopened := @sizeOf_opened_le value
    unfold spelledFrom
    split
    · exact .ok _
    · dsimp only
      split
      · next items heq =>
        refine (FailsOnly.mapM fun item hitem => ih ?_ _).bind fun _ => .ok _
        have hle := hopened (by simp [heq, List.ne_nil_of_mem hitem])
        have hlt := List.sizeOf_lt_of_mem hitem
        simp only [heq, Value.list.sizeOf_spec] at hle
        omega
      · next items heq =>
        refine (FailsOnly.mapM fun item hitem => ih ?_ _).bind fun _ => .ok _
        have hle := hopened (by simp [heq])
        have hlt := List.sizeOf_lt_of_mem hitem
        simp only [heq, Value.tuple.sizeOf_spec] at hle
        omega
      · next entries heq =>
        refine (FailsOnly.mapM ?_).bind fun _ => .ok _
        rintro ⟨key, item⟩ hentry
        have hle := hopened (by simp [heq])
        have hlt := List.sizeOf_lt_of_mem hentry
        simp only [heq, Value.mapping.sizeOf_spec, Prod.mk.sizeOf_spec] at hle hlt
        have hkey : sizeOf key < room := by omega
        have hitem : sizeOf item < room := by omega
        exact (ih hkey _).bind fun _ => (ih hitem _).bind fun _ => .ok _
      · unfold integerText
        split
        · exact .error nofun
        · exact .ok _
      · exact .ok _

/-- With room enough, the message about a name that is not bound does not exhaust it. -/
theorem Diagnostic.unboundReference_finished {room : Nat} {name : Value}
    (hsize : sizeOf name < room) (span : Option Span) :
    FailsOnly (· ≠ .recursionLimit) (unboundReference room name span) := by
  refine FailsOnly.bind ?_ fun _ => .ok _
  unfold Value.displayed Store.display
  split
  · exact .ok _
  · exact .ok _
  · exact .ok _
  · exact Store.spelledFrom_finished hsize []

/-- The names that `p` refers to have less than the size `m`. -/
def Scope.NamesFitIn (scope : Scope) (m : Nat) (p : Parser) : Prop :=
  scope.Everywhere (fun q => ∀ registry name, q = .reference registry name → sizeOf name < m) p

/-- Finitely many parsers are reached, and a reference has one name. -/
theorem Scope.HasFinitelyManyRules.eventually_namesFitIn (hrules : scope.HasFinitelyManyRules)
    (p : Parser) : ∀ᶠ m in Filter.atTop, scope.NamesFitIn m p := by
  refine (Filter.eventually_all_finite (hrules.finite_reaches p)).2 fun q _ => ?_
  cases q with
  | reference registry name =>
    filter_upwards [Filter.eventually_gt_atTop (sizeOf name)] with m hm
    rintro _ _ ⟨⟩
    exact hm
  | _ => exact .of_forall fun _ _ _ h => nomatch h

theorem Parser.unboundFault_ne_recursionLimit {room : Nat} {name : Value}
    (hsize : sizeOf name < room) (c : Cursor) : unboundFault room name c ≠ .recursionLimit := by
  intro h
  rcases unboundFault_cases room name c with ⟨_, -, heq⟩ | ⟨f, hf, heq, -⟩
  · cases heq.symm.trans h
  · exact Diagnostic.unboundReference_finished hsize _ f hf (heq.symm.trans h)

/-- Once the room is enough to write a name, more of it makes no difference. -/
theorem Parser.unboundFault_eq_of_le {room room' : Nat} {name : Value} (hsize : sizeOf name < room)
    (hle : room ≤ room') (c : Cursor) : unboundFault room' name c = unboundFault room name c :=
  (unboundFault_stable hle name c).resolve_left (unboundFault_ne_recursionLimit hsize c)

/-! ### Runs under limits that are large enough -/

/-- With the results of combinators, the formatters that `p` reaches do the same in any room. -/
def Scope.IgnoresRoom (scope : Scope) (p : Parser) : Prop :=
  scope.Everywhere (fun q => ∀ format, q.format? = some format → ∀ room room' tag payload s,
    format.within room (.tagged tag payload) s = format.within room' (.tagged tag payload) s) p

/-- The induction is on the depth: one level of the limits is used up at each level of nesting. -/
theorem run_matchers_of_fitsIn (h : scope.FitsIn n p) {m : Nat} (hnames : scope.NamesFitIn m p)
    (hformat : scope.IgnoresRoom p) {limit limit' : Nat} (hle : n + m ≤ limit)
    (hlimit : limit ≤ limit') :
    Comparison.equal.Matchers (p.run scope limit) (p.run scope limit') := by
  induction n generalizing p limit limit' with
  | zero => exact h.elim
  | succ n ih =>
    obtain ⟨limit, rfl⟩ : ∃ k, limit = k + 1 := ⟨limit - 1, by omega⟩
    obtain ⟨limit', rfl⟩ : ∃ k, limit' = k + 1 := ⟨limit' - 1, by omega⟩
    have hbelow (q : Parser) (hq : scope.Leads Parser.HasPart p q) (hreach : scope.Reaches p q) :
        Comparison.equal.Matchers (q.run scope limit) (q.run scope limit') :=
      ih (h q hq) (hnames.of_reaches hreach) (hformat.of_reaches hreach) (by omega) (by omega)
    rw [Parser.run_succ, Parser.run_succ]
    refine Comparison.matchers_layer ?_ ?_ (fun _ _ => Comparison.equal_matchers_iff.2 rfl)
      (fun q hq => hbelow q (.part hq) (.part .self hq)) (Or.inl Comparison.same_keepsSize) ?_
    · rintro registry name rfl c _ ⟨rfl, -⟩
      have hsize := hnames.self registry name rfl
      have hroom : sizeOf name < limit := by omega
      have hle : limit ≤ limit' := by omega
      rw [Parser.unboundFault_eq_of_le hroom hle]
      exact Comparison.runs_fault rfl
    · exact fun format hmem tag payload s =>
        Or.inr ⟨hformat.self format hmem limit limit' tag payload s, fun _ _ => rfl⟩
    · rintro registry name rfl
      exact Comparison.matchers_found fun target hfound =>
        hbelow target (.rule hfound) (.rule .self hfound)

/-- Where applications are nested at most `n` deep and formatters do not look at their room, all
large limits give the same runs. -/
theorem run_eq_of_fitsIn (h : scope.FitsIn n p) {m : Nat} (hnames : scope.NamesFitIn m p)
    (hformat : scope.IgnoresRoom p) {limit : Nat} (hle : n + m ≤ limit) :
    p.run scope limit = p.run scope (n + m) :=
  (Comparison.equal_matchers_iff.1
    (run_matchers_of_fitsIn h hnames hformat (Nat.le_refl _) hle)).symm

/-- The limit is not exhausted by nesting, so it is if some parser does so of its own accord. -/
theorem faultsIn_of_fitsIn {use : Formatter → (room : Nat) → Formatting} {m : Nat}
    (h : scope.FitsIn n p)
    (hown : scope.Everywhere
      (fun q => ∀ room c, m ≤ room → ¬ q.FailsAt use scope room c .recursionLimit) p)
    {limit : Nat} (hle : n + m ≤ limit) (c : Cursor) :
    (p.runBy use scope limit c).FaultsIn (· ≠ .recursionLimit) := by
  induction n generalizing p limit c with
  | zero => exact h.elim
  | succ n ih =>
    obtain ⟨limit, rfl⟩ : ∃ k, limit = k + 1 := ⟨limit - 1, by omega⟩
    have hle : n + m ≤ limit := by omega
    refine Parser.faultsIn_runBy_succ nofun ?_
      (fun q hq d => ih (h q (.part hq)) (hown.part hq) hle d) ?_
    · rintro _ hfails rfl
      exact hown.self limit c (by omega) hfails
    · rintro registry name target rfl hbound
      exact ih (h target (.rule hbound)) (hown.rule hbound) hle c

/-! ### Formatters within the limit -/

/-- What the formatter does, with a null value where it would exhaust the recursion limit. -/
def Formatter.unexhausted (format : Formatter) (room : Nat) : Formatting := fun value store =>
  let shaped := format.within room value store
  match shaped.result with
  | .error .recursionLimit => { shaped with result := .ok .null }
  | _ => shaped

theorem Formatter.unexhausted_result_ne (format : Formatter) (room : Nat) (value : Value)
    (s : Store) : (format.unexhausted room value s).result ≠ .error .recursionLimit := by
  simp only [unexhausted]
  split
  · nofun
  · assumption

/-- Nothing changes where the formatter does not exhaust the limit. -/
theorem Formatter.unexhausted_of_ne {format : Formatter} {room : Nat} {value : Value} {s : Store}
    (h : (format.within room value s).result ≠ .error .recursionLimit) :
    format.unexhausted room value s = format.within room value s := by
  -- By `h`, the result is none of those that are changed.
  simp only [unexhausted]

/-- No formatter exhausts the recursion limit in the application: it gives the same report if
formatters give a null value where they would do so. -/
def Parser.FormatsWithinLimit (scope : Scope) (limit : Nat) (p : Parser) (c : Cursor) (s : Store) :
    Prop :=
  p.run scope limit c s = p.runBy Formatter.unexhausted scope limit c s

/-- Runs in which formatters do the same with the results of combinators are the same. -/
theorem runBy_matchers {use use' : Formatter → (room : Nat) → Formatting}
    (hformat : scope.Everywhere (fun q => ∀ format, q.format? = some format →
      ∀ room tag payload s,
        use format room (.tagged tag payload) s = use' format room (.tagged tag payload) s) p)
    (limit : Nat) :
    Comparison.equal.Matchers (p.runBy use scope limit) (p.runBy use' scope limit) := by
  induction limit generalizing p with
  | zero => exact fun _ _ _ => Comparison.runs_fault rfl
  | succ limit ih =>
    rw [Parser.runBy_succ, Parser.runBy_succ]
    refine Comparison.matchers_layer
      (fun _ name _ _ _ hc => Comparison.runs_unbound (Or.inl rfl) name hc) ?_
      (fun _ _ => Comparison.equal_matchers_iff.2 rfl) (fun q hq => ih (hformat.part hq))
      (Or.inl Comparison.same_keepsSize) ?_
    · exact fun format hmem tag payload s =>
        Or.inr ⟨hformat.self format hmem limit tag payload s, fun _ _ => rfl⟩
    · rintro registry name rfl
      exact Comparison.matchers_found fun target hfound => ih (hformat.rule hfound)

/-- No formatter exhausts the limit in an application if none that can be reached ever does. -/
theorem Parser.formatsWithinLimit_of_not_canRaise (h : ¬ scope.CanRaise p .recursionLimit)
    (limit : Nat) (c : Cursor) (s : Store) : p.FormatsWithinLimit scope limit c s := by
  rw [FormatsWithinLimit, ← runBy_within]
  refine congrFun (congrFun (Comparison.equal_matchers_iff.1 (runBy_matchers ?_ limit)) c) s
  intro q hq format hformat room tag payload s
  refine (Formatter.unexhausted_of_ne fun hraise => h ?_).symm
  exact ⟨q, format, room, tag, payload, s, hq, hformat, hraise⟩

/-- With room for the names, plain parsers whose formatters do not exhaust the limit do not fail by
exhausting it. -/
theorem Scope.everywhere_not_failsAt (hplain : scope.Everywhere (·.isPlain = true) p) {m : Nat}
    (hnames : scope.NamesFitIn m p) :
    scope.Everywhere (fun q => ∀ room c, m ≤ room →
      ¬ q.FailsAt Formatter.unexhausted scope room c .recursionLimit) p := by
  intro q hq room c hroom hfails
  have hplain := hplain q hq
  generalize hf : Fault.recursionLimit = f at hfails
  cases hfails with
  | @format _ format _ _ _ _ _ _ hraise =>
    exact format.unexhausted_result_ne room _ _ (hf ▸ hraise)
  | @unbound registry _ name =>
    have hsize := hnames _ hq registry name rfl
    exact Parser.unboundFault_ne_recursionLimit (hsize.trans_le hroom) c hf.symm
  | notKey => cases hf
  | leaf | custom | inert => cases hplain

/-- **The length of a source never exhausts the recursion limit.** Let a parser reach plain parsers
only, and let no rule that it reaches refer to itself. Then there is a depth such that, from it on,
no application at any cursor of any source exhausts the recursion limit, unless one of its
formatters does. Nor does a greater limit make a difference to an application under this depth
without such formatters, or to any application if no formatter looks at its room. -/
theorem run_ne_recursionLimit {w : Workspace} {p : Parser}
    (hplain : w.scope.Everywhere (·.isPlain = true) p) (hcycle : w.scope.NotRecursive p) :
    ∃ depth, ∀ limit, depth ≤ limit →
      (w.scope.IgnoresRoom p → p.run w.scope limit = p.run w.scope depth) ∧
      (∀ c s, p.FormatsWithinLimit w.scope depth c s →
        p.run w.scope limit c s = p.run w.scope depth c s) ∧
      (∀ c s, p.FormatsWithinLimit w.scope limit c s →
        (p.run w.scope limit c s).outcome ≠ .fault .recursionLimit) ∧
      (¬ w.scope.CanRaise p .recursionLimit → ∀ c s,
        (p.run w.scope limit c s).outcome ≠ .fault .recursionLimit) := by
  obtain ⟨n, hdepth⟩ := (hcycle.eventually_fitsIn w.scope_hasFinitelyManyRules).exists
  obtain ⟨m, hnames⟩ := (w.scope_hasFinitelyManyRules.eventually_namesFitIn p).exists
  have hwithin : ∀ limit, n + m ≤ limit → ∀ c s, p.FormatsWithinLimit w.scope limit c s →
      (p.run w.scope limit c s).outcome ≠ .fault .recursionLimit := by
    intro limit hle c s hformats hexhausted
    rw [hformats] at hexhausted
    exact faultsIn_of_fitsIn hdepth (Scope.everywhere_not_failsAt hplain hnames) hle c s _
      hexhausted rfl
  refine ⟨n + m, fun limit hle => ⟨fun hformat => ?_, fun c s hformats => ?_, hwithin limit hle,
    fun hnever c s => ?_⟩⟩
  · exact run_eq_of_fitsIn hdepth hnames hformat hle
  · exact run_extends w.scope p hle c s (hwithin _ (Nat.le_refl _) c s hformats)
  · exact hwithin limit hle c s (Parser.formatsWithinLimit_of_not_canRaise hnever limit c s)

/-- A digit, or a dash in its place. -/
def rowItem : Parser :=
  .alternation
    [.charClass ⟨false, [.range 0x30 0x39]⟩ .identity, .literal "-" .identity] .unwrap

/-- Items with commas between them. -/
def itemRow : Parser :=
  .sequence
    [.reference 0 (.text "item"),
      .repetition
        (.sequence [.literal "," .identity, .reference 0 (.text "item")] .identity) 0 .unwrap]
    .identity

/-- A workspace with rules for items and for rows of them. -/
def rowWorkspace : Workspace where
  registries := #[.grammar { rules := [("item", ⟨0, rowItem⟩), ("row", ⟨1, itemRow⟩)] }]
  names := []

theorem run_ne_recursionLimit_row :
    ∃ depth, ∀ limit, depth ≤ limit →
      (Parser.reference 0 (.text "row")).run rowWorkspace.scope limit =
        (Parser.reference 0 (.text "row")).run rowWorkspace.scope depth ∧
      ∀ c s, ((Parser.reference 0 (.text "row")).run rowWorkspace.scope limit c s).outcome ≠
        .fault .recursionLimit := by
  let P (q : Parser) : Prop := q.isPlain = true ∧
    (∀ format, q.format? = some format → format = .identity ∨ format = .unwrap)
  have hrule {registry : RegistryId} {name : Value} {r : Parser}
      (hr : rowWorkspace.scope registry name = some r) :
      r = rowItem ∨ (r = itemRow ∧ name ≠ .text "item") := by
    have hmem : r = rowItem ∨ r = itemRow := by
      simpa [rowWorkspace, Registry.entries] using (Workspace.scope_eq_some hr).2
    refine hmem.imp_right fun hrow => ⟨hrow, ?_⟩
    rintro rfl
    obtain ⟨_, hid, -⟩ := Workspace.scope_eq_some_iff.1 hr
    obtain rfl : registry = 0 := Nat.lt_one_iff.1 (Array.getElem?_eq_some_iff.1 hid).1
    have hitem : rowWorkspace.scope 0 (.text "item") = some rowItem := rfl
    cases hrow.symm.trans (Option.some.inj (hr.symm.trans hitem))
  have hall : rowWorkspace.scope.Everywhere P (.reference 0 (.text "row")) := by
    refine Scope.everywhere_of_subtrees ?_ fun _ _ r hr => ?_
    · simp [Parser.subtrees, P, Parser.isPlain, Parser.format?]
    · rcases hrule hr with rfl | ⟨rfl, -⟩
      · simp [rowItem, Parser.subtrees, Parser.subtreesIn, P, Parser.isPlain, Parser.format?]
      · simp [itemRow, Parser.subtrees, Parser.subtreesIn, P, Parser.isPlain, Parser.format?]
  -- Only rows refer to rules, and only to items.
  have hrefers (A B : RegistryId × Value) (h : rowWorkspace.scope.RefersTo A B) :
      A.2 ≠ .text "item" ∧ B.2 = .text "item" := by
    obtain ⟨body, hbody, hmem⟩ := h
    rcases hrule hbody with rfl | ⟨rfl, hname⟩
    · simp [rowItem, Parser.subtrees, Parser.subtreesIn] at hmem
    · have hitem : B.1 = 0 ∧ B.2 = .text "item" := by
        simpa [itemRow, Parser.subtrees, Parser.subtreesIn] using hmem
      exact ⟨hname, hitem.2⟩
  have hcycle : rowWorkspace.scope.NotRecursive (.reference 0 (.text "row")) := by
    intro A _ hcycle
    obtain ⟨B, hfirst, -⟩ := Relation.TransGen.head'_iff.1 hcycle
    obtain ⟨C, -, hlast⟩ := Relation.TransGen.tail'_iff.1 hcycle
    exact (hrefers A B hfirst).1 (hrefers C A hlast).2
  obtain ⟨depth, hdepth⟩ := run_ne_recursionLimit (fun q hq => (hall q hq).1) hcycle
  refine ⟨depth, fun limit hle => ⟨(hdepth limit hle).1 ?_, (hdepth limit hle).2.2.2 ?_⟩⟩
  · intro q hq format hformat room room' tag payload s
    rcases (hall q hq).2 format hformat with rfl | rfl
    · rfl
    · rfl
  · rintro ⟨q, format, room, tag, payload, s, hq, hformat, hraise⟩
    rcases (hall q hq).2 format hformat with rfl | rfl
    · cases hraise
    · cases hraise

end GrammarKit
