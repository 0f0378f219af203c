import GrammarKit.Proofs.Derivation

/-!
# Reading what lies ahead

How parsers whose formatters leave the shared lists alone read the text ahead of a cursor.

* `Cursor.ahead` — the characters from the cursor on;
* `Formatter.Gives` — a formatter gives a value and changes nothing;
* `Reads`, `Misses` — a task has a match, or a mismatch, from every store and leaves it as it is;
* `reads_literal`, `misses_literal`, `reads_charClass`, `misses_charClass` — the leaves;
* `reads_loop_of_misses` — the end of a repetition.
-/

namespace GrammarKit

namespace Cursor

variable {c : Cursor}

/-- The characters from the cursor on. -/
def ahead (c : Cursor) : List Char := c.source.chars.toList.drop c.pos

@[simp] theorem length_ahead (c : Cursor) : c.ahead.length = c.remaining := by
  rw [ahead, List.length_drop, Array.length_toList, c.source.size_chars, remaining]

theorem ahead_start (text : String) : (start text).ahead = text.toList := by
  simp [ahead, start]

theorem atEnd_iff_ahead : c.atEnd = true ↔ c.ahead = [] := by
  have := c.pos_le
  rw [atEnd_iff, ← List.length_eq_zero_iff, length_ahead, remaining]
  omega

theorem next?_eq_head? (c : Cursor) : c.next? = c.ahead.head? := by
  rw [next?, ahead, List.head?_drop, Array.getElem?_toList]

theorem ahead_forward (c : Cursor) (n : Nat) : (c.forward n).ahead = c.ahead.drop n := by
  rw [ahead, ahead, forward_source, forward_pos, List.drop_drop, ← c.source.size_chars]
  by_cases h : c.pos + n ≤ c.source.chars.size
  · rw [Nat.min_eq_left h]
  · rw [Nat.min_eq_right (by omega), List.drop_eq_nil_of_le (by simp),
      List.drop_eq_nil_of_le (by simp; omega)]

/-- Behind a text that lies ahead comes what follows it. -/
theorem ahead_forward_append {u w : List Char} (h : c.ahead = u ++ w) :
    (c.forward u.length).ahead = w := by
  rw [ahead_forward, h, List.drop_left]

theorem length_le_remaining {u w : List Char} (h : c.ahead = u ++ w) : u.length ≤ c.remaining := by
  rw [← length_ahead, h, List.length_append]
  exact Nat.le_add_right _ _

theorem ahead_forward_cons {char : Char} {w : List Char} (h : c.ahead = char :: w) :
    (c.forward 1).ahead = w := by
  rw [ahead_forward, h, List.drop_one, List.tail_cons]

@[simp] theorem forward_zero (c : Cursor) : c.forward 0 = c := by
  obtain ⟨source, pos, h⟩ := c
  simp [forward, h]

@[simp] theorem forward_forward (c : Cursor) (m n : Nat) :
    (c.forward m).forward n = c.forward (m + n) := by
  simp only [forward, mk.injEq, true_and]
  omega

theorem remaining_forward (c : Cursor) (n : Nat) : (c.forward n).remaining = c.remaining - n := by
  rw [← length_ahead, ahead_forward, List.length_drop, length_ahead]

theorem remaining_forward_le (c : Cursor) (n : Nat) : (c.forward n).remaining ≤ c.remaining :=
  (Before.forward c n).remaining_le

/-- A move over something that lies ahead is one. -/
theorem forward_pos_ne {n : Nat} (hn : 0 < n) (h : 0 < c.remaining) :
    (c.forward n).pos ≠ c.pos := by
  rw [forward_pos]
  unfold remaining at h
  omega

end Cursor

/-- The formatter, with room enough, turns the value `v` into `w` and changes no shared list. -/
def Formatter.Gives (format : Formatter) (v w : Value) : Prop :=
  ∀ s, ∀ᶠ room in Filter.atTop,
    (format.within room v s).result = .ok w ∧ (format.within room v s).store = s

theorem Formatter.identity_gives (v : Value) : Formatter.identity.Gives v v :=
  fun _ => .of_forall fun _ => ⟨rfl, rfl⟩

theorem Formatter.unwrap_gives (tag : Tag) (payload : Value) :
    Formatter.unwrap.Gives (.tagged tag payload) payload :=
  fun _ => .of_forall fun _ => ⟨congrArg Except.ok (Value.unwrap_tagged tag payload), rfl⟩

theorem Formatter.Gives.shapes {format : Formatter} {tag : Tag} {payload v : Value}
    (h : format.Gives (.tagged tag payload) v) (rest : Cursor) (s : Store) :
    Shapes format tag payload rest s (.matched v rest) s := by
  filter_upwards [h s] with room ⟨hresult, hstore⟩
  have hshape : (format.within room).Shapes tag payload rest s (.matched v rest) _ := .value hresult
  rwa [hstore] at hshape

variable {scope : Scope} {c : Cursor} {format : Formatter}

/-- From every store the task has a match up to `rest`, and leaves the store as it is. -/
def Reads (scope : Scope) (t : Task) (c : Cursor) (v : Value) (rest : Cursor) : Prop :=
  ∀ s, Derives scope t c s (.matched v rest) s

/-- From every store the task has a mismatch, and leaves the store as it is. -/
def Misses (scope : Scope) (t : Task) (c : Cursor) : Prop :=
  ∀ s, Derives scope t c s .mismatch s

theorem reads_literal {text : IndexedText} {v : Value} {w : List Char}
    (hahead : c.ahead = text.chars.toList ++ w)
    (hformat : format.Gives (.tagged .literal (.text text.text)) v) :
    Reads scope (.apply (.literal text format)) c v (c.forward text.size) := by
  intro s
  refine .literal ?_ (hformat.shapes _ s)
  rw [Cursor.peek_eq_take, ← Cursor.ahead, hahead, ← text.size_chars, ← Array.length_toList,
    List.take_left]

theorem misses_literal {text : IndexedText} (h : ¬ text.chars.toList <+: c.ahead) :
    Misses scope (.apply (.literal text format)) c := by
  intro s
  refine .literalMiss fun hpeek => h ?_
  rw [List.prefix_iff_eq_take, Array.length_toList, text.size_chars, ← hpeek,
    Cursor.peek_eq_take, Cursor.ahead]

theorem reads_charClass {cls : CharClass} {char : Char} {v : Value} {w : List Char}
    (hahead : c.ahead = char :: w) (hin : cls.contains char = true)
    (hformat : format.Gives (.tagged .charClass (.text (String.singleton char))) v) :
    Reads scope (.apply (.charClass cls format)) c v (c.forward 1) := by
  intro s
  refine .charClass ?_ hin (hformat.shapes _ s)
  rw [Cursor.next?_eq_head?, hahead, List.head?_cons]

theorem misses_charClass {cls : CharClass}
    (h : ∀ char, c.ahead.head? = some char → cls.contains char = false) :
    Misses scope (.apply (.charClass cls format)) c := by
  intro s
  refine .charClassMiss fun char hnext => h char ?_
  rwa [← Cursor.next?_eq_head?]

/-- A repetition without a minimum ends where its child has a mismatch. -/
theorem reads_loop_of_misses {child : Parser} (hmiss : Misses scope (.apply child) c)
    (values : List Value) :
    Reads scope (.loop child 0 .identity values) c (.tagged .repetition (.list values)) c :=
  fun s => .loopEnd (hmiss s) (Nat.zero_le _) ((Formatter.identity_gives _).shapes c s)

end GrammarKit
