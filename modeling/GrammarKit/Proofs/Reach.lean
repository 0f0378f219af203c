import GrammarKit.Parser

/-!
# What a parser can reach

A parser reaches its parts, the rules that its references find, and whatever these reach in turn. A
condition on a grammar is a condition on each parser that can be reached.

* `Parser.parts` — the direct parts of a parser;
* `Scope.Reaches` — the parsers that a parser can reach;
* `Scope.Everywhere` — a condition holds at all of them;
* `Parser.isPlain` — whether a parser is one of the six combinators or a reference;
* `Parser.subtrees` — a parser and all parts of it.
-/

namespace GrammarKit

namespace Parser

/-- The direct parts of a parser. -/
def parts : Parser → List Parser
  | sequence children _ | alternation children _ => children
  | optional child _ | repetition child _ _ | probe _ child => [child]
  | literal .. | charClass .. | reference .. | leaf _ | custom _ | inert _ => []

/-- Whether a parser is one of the six combinators or a reference. -/
def isPlain : Parser → Bool
  | literal .. | charClass .. | sequence .. | alternation .. | optional .. | repetition .. => true
  | reference .. => true
  | leaf _ | custom _ | probe .. | inert _ => false

/-- The formatter of a combinator. -/
def format? : Parser → Option Formatter
  | literal _ format | charClass _ format | sequence _ format | alternation _ format => some format
  | optional _ format | repetition _ _ format => some format
  | reference .. | leaf _ | custom _ | probe .. | inert _ => none

theorem sizeOf_lt_of_mem_parts {p q : Parser} (h : q ∈ p.parts) : sizeOf q < sizeOf p := by
  cases p <;> simp only [parts, List.mem_singleton, List.not_mem_nil] at h
  case sequence children _ =>
    have := List.sizeOf_lt_of_mem h
    simp only [sequence.sizeOf_spec]
    omega
  case alternation children _ =>
    have := List.sizeOf_lt_of_mem h
    simp only [alternation.sizeOf_spec]
    omega
  all_goals
    subst h
    simp
    try omega

/-- Induction over a parser and its parts. -/
@[elab_as_elim]
theorem parts_induction {motive : Parser → Prop}
    (step : ∀ p, (∀ q ∈ p.parts, motive q) → motive p) (p : Parser) : motive p :=
  step p fun q _ => parts_induction step q
termination_by sizeOf p
decreasing_by exact sizeOf_lt_of_mem_parts ‹_›

mutual

/-- A parser and all parts of it, those inside others included. -/
def subtrees : Parser → List Parser
  | sequence children format => sequence children format :: subtreesIn children
  | alternation children format => alternation children format :: subtreesIn children
  | optional child format => optional child format :: subtrees child
  | repetition child minimum format => repetition child minimum format :: subtrees child
  | probe label inner => probe label inner :: subtrees inner
  | literal text format => [literal text format]
  | charClass cls format => [charClass cls format]
  | reference registry name => [reference registry name]
  | leaf l => [leaf l]
  | custom matcher => [custom matcher]
  | inert value => [inert value]

/-- The subtrees of several parsers. -/
def subtreesIn : List Parser → List Parser
  | [] => []
  | p :: ps => subtrees p ++ subtreesIn ps

end

theorem subtreesIn_eq (ps : List Parser) : subtreesIn ps = ps.flatMap subtrees := by
  induction ps with
  | nil => rfl
  | cons p ps ih => rw [subtreesIn, ih, List.flatMap_cons]

theorem subtrees_eq (p : Parser) : p.subtrees = p :: p.parts.flatMap subtrees := by
  cases p <;> simp [subtrees, parts, subtreesIn_eq]

theorem self_mem_subtrees (p : Parser) : p ∈ p.subtrees := by
  rw [subtrees_eq]
  exact List.mem_cons_self ..

/-- The parts of a subtree are subtrees. -/
theorem mem_subtrees_of_mem_parts {p q r : Parser} (hq : q ∈ p.subtrees) (hr : r ∈ q.parts) :
    r ∈ p.subtrees := by
  induction p using parts_induction with
  | step p ih =>
    rw [subtrees_eq, List.mem_cons, List.mem_flatMap] at hq ⊢
    rcases hq with rfl | ⟨part, hpart, hq⟩
    · exact Or.inr ⟨r, hr, self_mem_subtrees r⟩
    · exact Or.inr ⟨part, hpart, ih part hpart hq⟩

end Parser

namespace Scope

variable {scope : Scope}

/-- The parsers that `p` reaches: itself, the parts of what it reaches, and the rules that the
references among them find. -/
inductive Reaches (scope : Scope) (p : Parser) : Parser → Prop
  | self : Reaches scope p p
  | part {q r : Parser} : Reaches scope p q → r ∈ q.parts → Reaches scope p r
  | rule {registry : RegistryId} {name : Value} {r : Parser} :
      Reaches scope p (.reference registry name) → scope registry name = some r → Reaches scope p r

theorem Reaches.trans {p q r : Parser} (hpq : scope.Reaches p q) (hqr : scope.Reaches q r) :
    scope.Reaches p r := by
  induction hqr with
  | self => exact hpq
  | part _ hr ih => exact ih.part hr
  | rule _ hr ih => exact ih.rule hr

/-- The condition `P` holds at every parser that `p` reaches. -/
def Everywhere (scope : Scope) (P : Parser → Prop) (p : Parser) : Prop :=
  ∀ q, scope.Reaches p q → P q

namespace Everywhere

variable {P : Parser → Prop} {p q : Parser}

theorem self (h : scope.Everywhere P p) : P p := h p .self

theorem of_reaches (h : scope.Everywhere P p) (hq : scope.Reaches p q) : scope.Everywhere P q :=
  fun r hr => h r (hq.trans hr)

theorem part (h : scope.Everywhere P p) (hq : q ∈ p.parts) : scope.Everywhere P q :=
  h.of_reaches (.part .self hq)

theorem rule {registry : RegistryId} {name : Value}
    (h : scope.Everywhere P (.reference registry name)) (hq : scope registry name = some q) :
    scope.Everywhere P q :=
  h.of_reaches (.rule .self hq)

/-- A condition that holds at `p`, and with each parser at its parts and at the rule it refers to,
holds everywhere. -/
theorem of_closed (hp : P p) (hpart : ∀ q, P q → ∀ r ∈ q.parts, P r)
    (hrule : ∀ registry name r, P (.reference registry name) → scope registry name = some r → P r) :
    scope.Everywhere P p := by
  intro q hq
  induction hq with
  | self => exact hp
  | part _ hr ih => exact hpart _ ih _ hr
  | rule _ hr ih => exact hrule _ _ _ ih hr

end Everywhere

/-- A condition holds everywhere if it holds at all subtrees of the parser and of the rules. -/
theorem everywhere_of_subtrees {P : Parser → Prop} {p : Parser} (hp : ∀ q ∈ p.subtrees, P q)
    (hrules : ∀ registry name r, scope registry name = some r → ∀ q ∈ r.subtrees, P q) :
    scope.Everywhere P p := by
  have h : scope.Everywhere (fun q => ∀ r ∈ q.subtrees, P r) p := by
    refine .of_closed hp (fun q hq part hpart r hr => hq r ?_) fun _ _ _ _ hr => hrules _ _ _ hr
    rw [Parser.subtrees_eq]
    exact List.mem_cons_of_mem _ (List.mem_flatMap.2 ⟨part, hpart, hr⟩)
  exact fun q hq => h q hq q (Parser.self_mem_subtrees q)

end Scope

end GrammarKit
