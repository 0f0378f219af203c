import GrammarKit.Proofs.Branching
import GrammarKit.Proofs.Reach
import Mathlib.Order.Filter.AtTopBot.Basic

/-!
# Derivations

A declarative account of matching. Its rules say which outcome a parser has at a cursor, one group
of rules for each combinator and no bound on the nesting of applications. The combinators that apply
their children one after another have a task for what is left of that work.

* `Shapes` — what a formatter with room enough makes of a tagged payload;
* `Task` — a parser to be applied, or what is left of a combinator's work;
* `Derives` — a task has an outcome at a cursor, the shared lists being those of a store;
* `Cursor.Before` — a cursor is not behind another of the same source;
* `Derives.before` — a match never leads backwards or to another source.
-/

namespace GrammarKit

open Filter

/-! ### Formatters with room enough -/

/-- With room enough, and then with any more, the formatter makes the outcome `o` of a payload under
a tag. -/
def Shapes (format : Formatter) (tag : Tag) (payload : Value) (rest : Cursor) (s : Store)
    (o : Outcome Value) (s' : Store) : Prop :=
  ∀ᶠ room in atTop, (format.within room).Shapes tag payload rest s o s'

section

variable {format : Formatter} {tag : Tag} {payload v : Value} {rest rest' : Cursor} {s s' : Store}
variable {o : Outcome Value} {room : Nat}

/-- What a formatter makes of a payload without exhausting its room, it makes with more room, too.
-/
theorem Shapes.of_within (h : (format.within room).Shapes tag payload rest s o s')
    (ho : o ≠ .fault .recursionLimit) : Shapes format tag payload rest s o s' := by
  filter_upwards [eventually_ge_atTop room] with room' hle
  rcases format.stable hle (.tagged tag payload) s with hexhausted | hsame
  · cases h with
    | value h => cases hexhausted.symm.trans h
    | raise h =>
      cases hexhausted.symm.trans h
      exact absurd rfl ho
  · exact h.congr hsame

/-- A formatter does not move the cursor. -/
theorem Shapes.rest_eq (h : Shapes format tag payload rest s (.matched v rest') s') :
    rest' = rest := by
  obtain ⟨room, h⟩ := h.exists
  exact h.rest_eq

end

/-! ### Derivations -/

/-- What is to be done at a cursor. -/
inductive Task where
  /-- Apply a parser. -/
  | apply (parser : Parser)
  /-- Apply the children of a sequence that are left, after those with the given values. -/
  | row (children : List Parser) (format : Formatter) (values : List Value)
  /-- Apply the children of an alternation that are left. -/
  | choice (children : List Parser) (format : Formatter)
  /-- Go on with a repetition that has the given values so far. -/
  | loop (child : Parser) (minimum : Nat) (format : Formatter) (values : List Value)

/-- The task has the outcome `o` at the cursor `c`. It starts from the shared lists in `s` and
leaves those in `s'`. -/
inductive Derives (scope : Scope) : Task → Cursor → Store → Outcome Value → Store → Prop
  -- A text that comes next, or does not.
  | literal {text format c s o s'} (hahead : c.peek text.size = text.chars.toList)
      (hshape : Shapes format .literal (.text text.text) (c.forward text.size) s o s') :
      Derives scope (.apply (.literal text format)) c s o s'
  | literalMiss {text format c s} (hahead : c.peek text.size ≠ text.chars.toList) :
      Derives scope (.apply (.literal text format)) c s .mismatch s
  -- A character of the class comes next, or none does.
  | charClass {cls format c s o s'} {char : Char} (hnext : c.next? = some char)
      (hin : cls.contains char = true)
      (hshape : Shapes format .charClass (.text (String.singleton char)) (c.forward 1) s o s') :
      Derives scope (.apply (.charClass cls format)) c s o s'
  | charClassMiss {cls format c s}
      (hnext : ∀ char, c.next? = some char → cls.contains char = false) :
      Derives scope (.apply (.charClass cls format)) c s .mismatch s
  -- Each child of a sequence starts where the one before it ended.
  | sequence {children format c s o s'} (h : Derives scope (.row children format []) c s o s') :
      Derives scope (.apply (.sequence children format)) c s o s'
  | rowEnd {format values c s o s'} (hshape : Shapes format .sequence (.list values) c s o s') :
      Derives scope (.row [] format values) c s o s'
  | rowNext {p ps format values c v rest s s₁ o s'}
      (h : Derives scope (.apply p) c s (.matched v rest) s₁)
      (hnext : Derives scope (.row ps format (values ++ [v])) rest s₁ o s') :
      Derives scope (.row (p :: ps) format values) c s o s'
  | rowMiss {p ps format values c s s'} (h : Derives scope (.apply p) c s .mismatch s') :
      Derives scope (.row (p :: ps) format values) c s .mismatch s'
  | rowRaise {p ps format values c s f s'} (h : Derives scope (.apply p) c s (.fault f) s') :
      Derives scope (.row (p :: ps) format values) c s (.fault f) s'
  -- Each child of an alternation starts from the same cursor, and the first match is taken.
  | alternation {children format c s o s'} (h : Derives scope (.choice children format) c s o s') :
      Derives scope (.apply (.alternation children format)) c s o s'
  | choiceEnd {format c s} : Derives scope (.choice [] format) c s .mismatch s
  | choiceMatch {p ps format c v rest s s₁ o s'}
      (h : Derives scope (.apply p) c s (.matched v rest) s₁)
      (hshape : Shapes format .alternation v rest s₁ o s') :
      Derives scope (.choice (p :: ps) format) c s o s'
  | choiceNext {p ps format c s s₁ o s'} (h : Derives scope (.apply p) c s .mismatch s₁)
      (hnext : Derives scope (.choice ps format) c s₁ o s') :
      Derives scope (.choice (p :: ps) format) c s o s'
  | choiceRaise {p ps format c s f s'} (h : Derives scope (.apply p) c s (.fault f) s') :
      Derives scope (.choice (p :: ps) format) c s (.fault f) s'
  -- An option is its child, or nothing.
  | optionalMatch {child format c v rest s s₁ o s'}
      (h : Derives scope (.apply child) c s (.matched v rest) s₁)
      (hshape : Shapes format .optional v rest s₁ o s') :
      Derives scope (.apply (.optional child format)) c s o s'
  | optionalMiss {child format c s s₁ o s'} (h : Derives scope (.apply child) c s .mismatch s₁)
      (hshape : Shapes format .optional .absent c s₁ o s') :
      Derives scope (.apply (.optional child format)) c s o s'
  | optionalRaise {child format c s f s'} (h : Derives scope (.apply child) c s (.fault f) s') :
      Derives scope (.apply (.optional child format)) c s (.fault f) s'
  -- A repetition goes on as long as its child consumes something. A mismatch ends it, and then the
  -- minimum counts; a match that consumes nothing ends it too, and meets every minimum.
  | repetition {child minimum format c s o s'}
      (h : Derives scope (.loop child minimum format []) c s o s') :
      Derives scope (.apply (.repetition child minimum format)) c s o s'
  | loopEnd {child minimum format values c s s₁ o s'}
      (h : Derives scope (.apply child) c s .mismatch s₁) (hmin : minimum ≤ values.length)
      (hshape : Shapes format .repetition (.list values) c s₁ o s') :
      Derives scope (.loop child minimum format values) c s o s'
  | loopShort {child minimum format values c s s'}
      (h : Derives scope (.apply child) c s .mismatch s') (hmin : values.length < minimum) :
      Derives scope (.loop child minimum format values) c s .mismatch s'
  | loopZero {child minimum format values c v rest s s₁ o s'}
      (h : Derives scope (.apply child) c s (.matched v rest) s₁) (hzero : rest.pos = c.pos)
      (hshape : Shapes format .repetition (.list (values ++ [v])) c s₁ o s') :
      Derives scope (.loop child minimum format values) c s o s'
  | loopNext {child minimum format values c v rest s s₁ o s'}
      (h : Derives scope (.apply child) c s (.matched v rest) s₁) (hmove : rest.pos ≠ c.pos)
      (hnext : Derives scope (.loop child minimum format (values ++ [v])) rest s₁ o s') :
      Derives scope (.loop child minimum format values) c s o s'
  | loopRaise {child minimum format values c s f s'}
      (h : Derives scope (.apply child) c s (.fault f) s') :
      Derives scope (.loop child minimum format values) c s (.fault f) s'
  -- A reference is the rule that it finds. Without one it is misused, and so it is with a name that
  -- cannot be looked up.
  | reference {registry name target c s o s'} (hkey : Value.keyObstacle? name = none)
      (hbound : scope registry name = some target)
      (h : Derives scope (.apply target) c s o s') :
      Derives scope (.apply (.reference registry name)) c s o s'
  | referenceMissing {registry name c f s} (hkey : Value.keyObstacle? name = none)
      (hbound : scope registry name = none)
      (hfault : ∀ᶠ room in atTop, Parser.unboundFault room name c = f) :
      Derives scope (.apply (.reference registry name)) c s (.fault f) s
  | referenceKey {registry name typeName c s} (hkey : Value.keyObstacle? name = some typeName) :
      Derives scope (.apply (.reference registry name)) c s (.fault (.notKey typeName)) s

namespace Cursor

/-- Both cursors are in one source, and `c` is not behind `d`. -/
def Before (c d : Cursor) : Prop := d.source = c.source ∧ c.pos ≤ d.pos

namespace Before

variable {c d e : Cursor}

theorem refl (c : Cursor) : c.Before c := ⟨rfl, Nat.le_refl _⟩

theorem trans (hcd : c.Before d) (hde : d.Before e) : c.Before e :=
  ⟨hde.1.trans hcd.1, Nat.le_trans hcd.2 hde.2⟩

theorem forward (c : Cursor) (n : Nat) : c.Before (c.forward n) := by
  have := c.pos_le
  refine ⟨rfl, ?_⟩
  rw [forward_pos]
  omega

theorem remaining_le (h : c.Before d) : d.remaining ≤ c.remaining := by
  unfold remaining
  rw [h.1]
  have := h.2
  omega

/-- Less is left after a move. -/
theorem remaining_lt (h : c.Before d) (hmove : d.pos ≠ c.pos) : d.remaining < c.remaining := by
  have hd := d.pos_le
  have := h.2
  unfold remaining
  rw [h.1] at hd ⊢
  omega

/-- Cursors at one position of one source are the same. -/
theorem eq_of_pos (h : c.Before d) (hpos : d.pos = c.pos) : d = c := by
  obtain ⟨source, pos, hc⟩ := c
  obtain ⟨source', pos', hd⟩ := d
  obtain ⟨rfl, -⟩ := h
  cases hpos
  rfl

end Before

end Cursor

/-- A match stays in the source and never leads backwards. -/
theorem Derives.before {scope : Scope} {t : Task} {c rest : Cursor} {s s' : Store}
    {o : Outcome Value} {v : Value} (h : Derives scope t c s o s') (ho : o = .matched v rest) :
    c.Before rest := by
  induction h generalizing v rest with
  | literal _ hshape =>
    subst ho
    exact hshape.rest_eq ▸ .forward _ _
  | charClass _ _ hshape =>
    subst ho
    exact hshape.rest_eq ▸ .forward _ _
  | rowEnd hshape =>
    subst ho
    exact hshape.rest_eq ▸ .refl _
  | choiceMatch _ hshape ih =>
    subst ho
    exact hshape.rest_eq ▸ ih rfl
  | optionalMatch _ hshape ih =>
    subst ho
    exact hshape.rest_eq ▸ ih rfl
  | optionalMiss _ hshape =>
    subst ho
    exact hshape.rest_eq ▸ .refl _
  | loopEnd _ _ hshape =>
    subst ho
    exact hshape.rest_eq ▸ .refl _
  | loopZero _ _ hshape =>
    subst ho
    exact hshape.rest_eq ▸ .refl _
  | rowNext _ _ ih ihnext => exact (ih rfl).trans (ihnext ho)
  | loopNext _ _ _ ih ihnext => exact (ih rfl).trans (ihnext ho)
  | choiceNext _ _ _ ihnext => exact ihnext ho
  | sequence _ ih => exact ih ho
  | alternation _ ih => exact ih ho
  | repetition _ ih => exact ih ho
  | reference _ _ _ ih => exact ih ho
  | literalMiss | charClassMiss | rowMiss | choiceEnd | loopShort => cases ho
  | rowRaise | choiceRaise | optionalRaise | loopRaise | referenceMissing | referenceKey => cases ho

end GrammarKit
