import GrammarKit.Binary.Basic
import GrammarKit.Fault
import GrammarKit.Store.Basic
import GrammarKit.Text.Numeral

/-!
# Values seen as a whole

Whoever prints, flattens or records a value goes through all of it from left to right, shared lists
included, and stops at the first thing that cannot be gone through: a container for which there is
no room left below the recursion limit, or an integer with too many digits to be printed. A
container that stands inside itself has no end, so only a printer, which writes dots there, gets
through it. More room makes no difference to what is gone through.

* `Store.snapshot` — a value without shared parts;
* `Store.spelledFrom`, `Store.display` — the unambiguous text of a value, and its plain text;
* `Store.matchedText` — the text that a result stands for, the payloads of its tags joined in order;
* `Value.spelled`, `Value.displayed` — the texts of a value without shared parts.
-/

namespace GrammarKit

/-- What a shared value is known by. -/
inductive Identity where
  | list (id : ListId)
  | labelled (label : Label)
deriving DecidableEq, Repr

/-- What a value is known by, if it is a shared one. -/
def Value.identity? : Value → Option Identity
  | .shared id => some (.list id)
  | .labelled label _ => some (.labelled label)
  | _ => none

namespace Store

/-- The least integer with too many digits to be printed. -/
def unprintable : Nat := Binary.tenPow Text.numeralLimit

/-- The text of an integer that is not too long. -/
def integerText (n : Int) : Except Fault String :=
  if unprintable ≤ n.natAbs then .error (.integerTooLong Text.numeralLimit)
  else .ok (Text.integerText n)

/-- A value without shared parts; `room` bounds the nesting. -/
def settledFrom (store : Store) : (room : Nat) → Value → Except Fault Value
  | 0, _ => .error .recursionLimit
  | room + 1, value =>
    match store.opened value with
    | .list items => return .list (← items.mapM (store.settledFrom room))
    | .tuple items => return .tuple (← items.mapM (store.settledFrom room))
    | .mapping entries =>
      return .mapping (← entries.mapM fun entry =>
        return (entry.1, ← store.settledFrom room entry.2))
    | value => return value

/-- The unambiguous text of a value. `around` are the shared values that it stands inside, in whose
place dots are written, and `room` bounds the nesting. -/
def spelledFrom (store : Store) : (room : Nat) → (around : List Identity) → Value →
    Except Fault String
  | 0, _, _ => .error .recursionLimit
  | room + 1, around, value =>
    if value.identity?.any (· ∈ around) then return value.ellipsis
    else
      let around := value.identity?.toList ++ around
      match store.opened value with
      | .list items => return Value.listText (← items.mapM (store.spelledFrom room around))
      | .tuple items => return Value.tupleText (← items.mapM (store.spelledFrom room around))
      | .mapping entries =>
        return Value.mappingText (← entries.mapM fun entry =>
          return Value.entryText (← store.spelledFrom room around entry.1)
            (← store.spelledFrom room around entry.2))
      | .int n => integerText n
      | value => return value.spelling

/-- The plain text of a value; `room` bounds the nesting. -/
def display (store : Store) (room : Nat) : Value → Except Fault String
  | .text s => .ok s
  | .absent => .ok Value.absent.display
  | .noMatch => .ok Value.noMatch.display
  | value => store.spelledFrom room [] value

/-- The text that a result stands for: strings as they are, lists and tuples joined in order, tagged
payloads without their tag, nothing for an absent one, and the plain text of any other value. `room`
bounds the nesting of calls. There is one for each value; the items of a list or a tuple are gone
through in a call of their own; and a call tells whether a value that is no text is tagged. -/
def matchedText (store : Store) : (room : Nat) → Value → Except Fault String
  | 0, _ => .error .recursionLimit
  | 1, value =>
    match store.opened value with
    | .absent => return ""
    | .text s => return s
    | _ => .error .recursionLimit
  | room + 2, value =>
    match store.opened value with
    | .absent => return ""
    | .text s => return s
    | .list items => return String.join (← items.mapM (store.matchedText room))
    | .tuple items => return String.join (← items.mapM (store.matchedText room))
    | contents =>
      match contents.payload? with
      | some payload => store.matchedText (room + 1) payload
      | none => store.display (room + 1) value

/-- A value as it is now, without shared parts. -/
def snapshot (store : Store) (value : Value) : Except Fault Value :=
  store.settledFrom recursionLimit value

/-! ### What cannot be written -/

section

variable (store : Store) (room : Nat)

/-- A value is not written if it nests too deeply, or if an integer in it is too long. -/
theorem spelledFrom_failsOnly (around : List Identity) (value : Value) :
    FailsOnly (fun f => f = .recursionLimit ∨ f = .integerTooLong Text.numeralLimit)
      (store.spelledFrom room around value) := by
  induction room generalizing around value with
  | zero => exact .error (Or.inl rfl)
  | succ room ih =>
    unfold spelledFrom
    split
    · exact .ok _
    · dsimp only
      split
      · exact (FailsOnly.mapM fun item _ => ih _ item).bind fun _ => .ok _
      · exact (FailsOnly.mapM fun item _ => ih _ item).bind fun _ => .ok _
      · refine (FailsOnly.mapM fun entry _ => ?_).bind fun _ => .ok _
        exact (ih _ entry.1).bind fun _ => (ih _ entry.2).bind fun _ => .ok _
      · unfold integerText
        split
        · exact .error (Or.inr rfl)
        · exact .ok _
      · exact .ok _

theorem display_failsOnly (value : Value) :
    FailsOnly (fun f => f = .recursionLimit ∨ f = .integerTooLong Text.numeralLimit)
      (store.display room value) := by
  unfold display
  split
  · exact .ok _
  · exact .ok _
  · exact .ok _
  · exact store.spelledFrom_failsOnly room [] _

end

/-! ### More room -/

variable (store : Store) {room room' : Nat}

theorem settledFrom_unlessExhausted (hle : room ≤ room') (value : Value) :
    UnlessExhausted (store.settledFrom room value) (store.settledFrom room' value) := by
  induction room generalizing room' value with
  | zero => exact .exhausted _
  | succ room ih =>
    obtain ⟨room', rfl⟩ : ∃ n, room' = n + 1 := ⟨room' - 1, by omega⟩
    have hbelow := ih (Nat.le_of_succ_le_succ hle)
    unfold settledFrom
    split
    · exact (UnlessExhausted.mapM hbelow _).bind fun _ => .refl _
    · exact (UnlessExhausted.mapM hbelow _).bind fun _ => .refl _
    · refine (UnlessExhausted.mapM (fun entry => ?_) _).bind fun _ => .refl _
      exact (hbelow entry.2).bind fun _ => .refl _
    · exact .refl _

theorem spelledFrom_unlessExhausted (hle : room ≤ room') (around : List Identity) (value : Value) :
    UnlessExhausted (store.spelledFrom room around value)
      (store.spelledFrom room' around value) := by
  induction room generalizing room' around value with
  | zero => exact .exhausted _
  | succ room ih =>
    obtain ⟨room', rfl⟩ : ∃ n, room' = n + 1 := ⟨room' - 1, by omega⟩
    have hbelow := fun around => ih (Nat.le_of_succ_le_succ hle) around
    unfold spelledFrom
    split
    · exact .refl _
    · dsimp only
      split
      · exact (UnlessExhausted.mapM (hbelow _) _).bind fun _ => .refl _
      · exact (UnlessExhausted.mapM (hbelow _) _).bind fun _ => .refl _
      · refine (UnlessExhausted.mapM (fun entry => ?_) _).bind fun _ => .refl _
        exact (hbelow _ entry.1).bind fun _ => (hbelow _ entry.2).bind fun _ => .refl _
      · exact .refl _
      · exact .refl _

theorem display_unlessExhausted (hle : room ≤ room') (value : Value) :
    UnlessExhausted (store.display room value) (store.display room' value) := by
  unfold display
  split
  · exact .refl _
  · exact .refl _
  · exact .refl _
  · exact store.spelledFrom_unlessExhausted hle [] _

theorem matchedText_unlessExhausted (hle : room ≤ room') (value : Value) :
    UnlessExhausted (store.matchedText room value) (store.matchedText room' value) := by
  induction room using Nat.strongRecOn generalizing room' value with
  | ind room ih =>
    match room, room', hle with
    | 0, _, _ => exact .exhausted _
    | 1, 1, _ => exact .refl _
    | 1, room' + 2, _ =>
      unfold matchedText
      cases store.opened value with
      | absent | text => exact .refl _
      | _ => exact .exhausted _
    | room + 2, room' + 2, hle =>
      unfold matchedText
      split
      · exact .refl _
      · exact .refl _
      · exact (UnlessExhausted.mapM (ih room (by omega) (by omega)) _).bind fun _ => .refl _
      · exact (UnlessExhausted.mapM (ih room (by omega) (by omega)) _).bind fun _ => .refl _
      · split
        · exact ih (room + 1) (by omega) (by omega) _
        · exact store.display_unlessExhausted (by omega) value

end Store

/-! ### Values without shared parts -/

namespace Value

/-- The unambiguous text of a value without shared parts; `room` bounds the nesting. -/
def spelled (room : Nat) (value : Value) : Except Fault String :=
  ({} : Store).spelledFrom room [] value

/-- The plain text of a value without shared parts; `room` bounds the nesting. -/
def displayed (room : Nat) (value : Value) : Except Fault String :=
  ({} : Store).display room value

theorem spelled_of_unprintable {n : Int} (h : Store.unprintable ≤ n.natAbs) (room : Nat) :
    (int n).spelled (room + 1) = .error (.integerTooLong Text.numeralLimit) := by
  simp only [spelled, Store.spelledFrom, identity?, Option.any_none, Bool.false_eq_true, if_false,
    Store.opened, bare, Store.integerText, if_pos h]

theorem displayed_of_unprintable {n : Int} (h : Store.unprintable ≤ n.natAbs) (room : Nat) :
    (int n).displayed (room + 1) = .error (.integerTooLong Text.numeralLimit) :=
  spelled_of_unprintable h room

end Value

end GrammarKit
