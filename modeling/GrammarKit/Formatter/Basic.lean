import GrammarKit.Formatter.Operators
import GrammarKit.Matcher.Basic
import GrammarKit.Store.View

/-!
# Formatters

A formatter turns the tagged result of a combinator into the value that the match has. The first
three are the ready-made ones; the others are the small functions that grammars attach.

* `Formatter.ofFormatting`, `Formatter.readingWithin` — formatters that need no room, and such as
  do;
* `Formatter.identity`, `Formatter.unwrap`, `Formatter.matchedText` — the ready-made formatters;
* `Formatter.andThen`, `Formatter.chain` — formatters one after the other;
* `Formatter.integer`, `Formatter.size`, `Formatter.truth`, `Formatter.display` — conversions;
* `Formatter.second`, `Formatter.foldChain` — what a parenthesised group and a chain of operators
  stand for;
* `Formatter.noted` — sets a mark with the value it sees.
-/

namespace GrammarKit.Formatter

/-- The formatter that needs no room worth speaking of. -/
def ofFormatting (f : Formatting) : Formatter where
  within _ := f
  stable _ _ _ := Or.inr rfl
  settles _ _ := ⟨0, fun _ _ => rfl⟩

/-- The formatter that looks at the shared lists and may fail. -/
def reading (f : Store → Value → Except Fault Value) : Formatter :=
  ofFormatting fun value store => ⟨[], f store value, store⟩

/-- The formatter that goes through the whole of a value, for which it needs room. -/
def readingWithin (f : (room : Nat) → Store → Value → Except Fault Value)
    (h : ∀ {room room' : Nat}, room ≤ room' → ∀ store value,
      UnlessExhausted (f room store value) (f room' store value)) : Formatter where
  within room value store := ⟨[], f room store value, store⟩
  stable hle value store := (h hle store value).imp_right fun h => by rw [h]
  settles value store := by
    obtain ⟨enough, henough⟩ := UnlessExhausted.exists_settled
      fun {room room'} (hle : room ≤ room') => h hle store value
    exact ⟨enough, fun room hle => by rw [henough room hle]⟩

/-- The formatter that computes a value. -/
def ofFunction (f : Value → Value) : Formatter :=
  ofFormatting fun value store => ⟨[], .ok (f value), store⟩

/-- The formatter that may change shared lists. -/
def ofAccumulation (f : Value → Accumulation Value) : Formatter :=
  ofFormatting fun value store =>
    let (result, store) := (f value).run.run store
    ⟨[], result, store⟩

/-- Leaves the result as it is. -/
def identity : Formatter := ofFunction fun value => value

/-- Takes one level of tagging away. -/
def unwrap : Formatter := ofFunction Value.unwrap

/-- The text that the result stands for. -/
def matchedText : Formatter :=
  readingWithin (fun room store value => (store.matchedText room value).map .text)
    fun hle store value => (store.matchedText_unlessExhausted hle value).map Value.text

/-- One formatter, then another on its value. -/
def andThen (f g : Formatter) : Formatter where
  within room value store :=
    let first := f.within room value store
    match first.result with
    | .ok value =>
      let second := g.within room value first.store
      ⟨first.marks ++ second.marks, second.result, second.store⟩
    | .error e => ⟨first.marks, .error e, first.store⟩
  stable {room room'} hle value store := by
    rcases f.stable hle value store with hfirst | hfirst
    · exact Or.inl (by simp only [hfirst])
    · rw [hfirst]
      cases hresult : (f.within room value store).result with
      | error e => exact Or.inr (by simp only [hresult])
      | ok v =>
        simp only [hresult]
        refine (g.stable hle v (f.within room value store).store).imp_right fun hsecond => ?_
        rw [hsecond]
  settles value store := by
    obtain ⟨enough, hfirst⟩ := f.settles value store
    cases hresult : (f.within enough value store).result with
    | error e => exact ⟨enough, fun room hle => by simp only [hfirst room hle, hresult]⟩
    | ok v =>
      obtain ⟨enough', hsecond⟩ := g.settles v (f.within enough value store).store
      refine ⟨max enough enough', fun room hle => ?_⟩
      have hle' := Nat.max_le.1 hle
      simp only [hfirst room hle'.1, hfirst _ (Nat.le_max_left ..), hresult,
        hsecond room hle'.2, hsecond _ (Nat.le_max_right ..)]

/-- Formatters applied first to last. -/
def chain (formatters : List Formatter) : Formatter :=
  formatters.foldl andThen identity

/-- The given value, whatever the result. -/
def constant (result : Value) : Formatter := ofFunction fun _ => result

/-- The result as the second item of a pair that says it was wrapped. -/
def wrapped : Formatter := ofFunction fun value => .tuple [.text "wrapped", value]

/-- The result under a key of a new mapping. -/
def labelled (key : Value) : Formatter := reading fun _ value =>
  match key.keyObstacle? with
  | some typeName => .error (.notKey typeName)
  | none => .ok (.mapping [(key, value)])

/-- The plain text of the result. -/
def display : Formatter :=
  readingWithin (fun room store value => (store.display room value).map .text)
    fun hle store value => (store.display_unlessExhausted hle value).map Value.text

/-- Whether the payload counts as true. -/
def truth : Formatter := reading fun store value =>
  .ok (.bool (store.countsAsTrue value.unwrap))

/-- The integer that a text denotes, with at most `digitLimit` digits. -/
def integerOf (digitLimit : Nat) (text : String) : Except Fault Value :=
  match Text.readInteger digitLimit text with
  | .ok n => .ok (.int n)
  | .error .malformed => .error (.notNumeral text)
  | .error (.tooLong digits) => .error (.numeralTooLong digitLimit digits)

/-- The integer that the matched text denotes, with at most `digitLimit` digits. -/
def integer (digitLimit : Nat) : Formatter :=
  readingWithin (fun room store value => store.matchedText room value >>= integerOf digitLimit)
    fun hle store value => (store.matchedText_unlessExhausted hle value).bind fun _ => .refl _

/-- The length of the payload. -/
def size : Formatter := reading fun store value =>
  let payload := value.unwrap
  match store.length? payload with
  | some n => .ok (.int n)
  | none => .error (.shape (.noLength payload))

/-- The second value of a sequence. -/
def second : Formatter := reading fun store value => do
  store.item (← value.entry Tag.sequence.key) 1

/-- The total after one more operator and operand; an unknown operator changes nothing. -/
def applyOperator (total : Total) (step : Value) : Accumulation Total := do
  let (operator, operand) ← ofExcept ((← get).pair step)
  match operator.unwrap with
  | .text "+" => total.plus operand
  | .text "-" => total.minus operand
  | .text "*" => total.times operand
  | _ => return total

/-- The most steps by which a chain may grow while it is gone through. -/
def maxGrowth : Nat := 10000000

/-- Applies the steps of a shared list from an index on, those that are added on the way included. A
chain that goes on growing never ends; `fuel` bounds the number of its steps. -/
def foldShared (id : ListId) : (fuel index : Nat) → Total → Accumulation Total
  | 0, _, _ => throw .endless
  | fuel + 1, index, total => do
    match ((← get).items id)[index]? with
    | none => return total
    | some step => foldShared id fuel (index + 1) (← applyOperator total step)

/-- Applies the steps of a chain to a total, from left to right. -/
def foldSteps (total : Total) (steps : Value) : Accumulation Total := do
  match steps with
  | .shared id => foldShared id (((← get).items id).size + maxGrowth) 0 total
  | steps => (← Accumulation.contents steps).foldlM applyOperator total

/-- The value of an operand and a chain of operators with their operands, from left to right. -/
def foldChain : Formatter := ofAccumulation fun value => do
  let parts ← ofExcept (value.entry Tag.sequence.key)
  let (first, rest) ← ofExcept ((← get).pair parts)
  return (← foldSteps (.ofValue first) rest.unwrap).toValue

/-- Fails. -/
def failing : Formatter := reading fun _ _ => .error .formatterFailed

/-- Exhausts the recursion limit. -/
def exhausting : Formatter := reading fun _ _ => .error .recursionLimit

/-- Sets a mark with the result and leaves it as it is. -/
def noted (label : String) : Formatter where
  within room value store :=
    match store.settledFrom room value with
    | .ok seen => ⟨[.seen label seen], .ok value, store⟩
    | .error f => ⟨[], .error f, store⟩
  stable hle value store := by
    rcases store.settledFrom_unlessExhausted hle value with h | h
    · exact Or.inl (by rw [h])
    · exact Or.inr (by rw [h])
  settles value store := by
    obtain ⟨enough, henough⟩ := UnlessExhausted.exists_settled
      fun {room room'} (hle : room ≤ room') => store.settledFrom_unlessExhausted hle value
    exact ⟨enough, fun room hle => by rw [henough room hle]⟩

end GrammarKit.Formatter
