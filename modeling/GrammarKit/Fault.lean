import GrammarKit.Diagnostic.Basic
import GrammarKit.Text.Grouped

/-!
# Faults

A mismatch is an ordinary outcome of matching. A fault is not: it reports that a grammar was built
or driven in a wrong way, that a bound was exceeded, or that a user's formatter or parser failed.
Each fault is a cause; its wording is in one place.

* `Notice` — what a misuse says: a diagnostic or plain words;
* `Misuse` — the families of misuse;
* `ShapeFault` — why a value does not have the shape that a formatter expects;
* `Fault` — the faults;
* `Fault.message` — the wording of a fault;
* `Fault.kind` — the family that a fault belongs to;
* `UnlessExhausted` — a result stays what it is with more room, unless the recursion limit was
  exhausted;
* `FailsOnly` — the faults that a result can be satisfy a condition.
-/

namespace GrammarKit

/-- What a misuse says. -/
inductive Notice where
  | plain (message : String)
  | diagnosed (diagnostic : Diagnostic)
deriving Repr

namespace Notice

/-- The words of a notice; a diagnostic is given in full. -/
def message : Notice → String
  | plain message => message
  | diagnosed diagnostic => diagnostic.render

/-- The diagnostic of a notice that has one. -/
def diagnostic? : Notice → Option Diagnostic
  | plain _ => none
  | diagnosed diagnostic => some diagnostic

end Notice

/-- The families of misuse. -/
inductive Misuse where
  /-- A misuse of no particular family. -/
  | general
  /-- A combinator or a rule built from wrong arguments. -/
  | construction
  /-- A reference applied while its name is not bound. -/
  | unbound (name : Value)
  /-- A match that nests too deeply. -/
  | depth
deriving Repr

/-- Why a value does not have the shape that a formatter expects. -/
inductive ShapeFault where
  | noLength (value : Value)
  | noItems (value : Value)
  | badIndex (container : Value)
  | outOfRange (container : Value)
  | notIterable (value : Value)
  | notPair (value : Value)
  | tooFew (count : Nat)
  | tooMany
  | badOperands (operator : String) (left right : Value)
  | notConcatenable (left right : Value)
  | notRepeatable (count : Value)
  /-- A character class was asked about something that is not text. -/
  | notSearchable (value : Value)
  /-- Lines were asked of something that has none. -/
  | noLines (value : Value)
deriving Repr

namespace ShapeFault

/-- What a message calls the index of a container. -/
def indexNoun : Value → String
  | .text _ => "string"
  | .bytes _ => "byte"
  | container => container.typeName

/-- What is wrong with the index of a container. -/
def badIndexMessage : Value → String
  | .text _ => "string indices must be integers, not 'str'"
  | container => s!"{indexNoun container} indices must be integers or slices, not str"

/-- What is said of an index past the end of a container. -/
def outOfRangeMessage : Value → String
  | .bytes _ => "index out of range"
  | container => s!"{indexNoun container} index out of range"

/-- What is said of two values that cannot be joined. -/
def notConcatenableMessage (left right : Value) : String :=
  match left with
  | .bytes _ => s!"can't concat {right.typeName} to bytes"
  | left => s!"can only concatenate {left.typeName} (not \"{right.typeName}\") to {left.typeName}"

/-- What is said of a value in which a text cannot be looked for. -/
def notSearchableMessage : Value → String
  | .bytes _ => "cannot use a string pattern on a bytes-like object"
  | value => s!"expected string or bytes-like object, got '{value.typeName}'"

/-- What is said of a value whose line breaks cannot be counted. -/
def noLinesMessage : Value → String
  | .bytes _ => "argument should be integer or bytes-like object, not 'str'"
  | .mapping entries => s!"'{(Value.mapping entries).typeName}' object has no attribute 'count'"
  | value => s!"{value.typeName}.count() takes exactly one argument (3 given)"

/-- The wording of a shape fault. -/
def message : ShapeFault → String
  | noLength value => s!"object of type '{value.typeName}' has no len()"
  | noItems value => s!"'{value.typeName}' object is not subscriptable"
  | badIndex container => badIndexMessage container
  | outOfRange container => outOfRangeMessage container
  | notIterable value => s!"'{value.typeName}' object is not iterable"
  | notPair value => s!"cannot unpack non-iterable {value.typeName} object"
  | tooFew count => s!"not enough values to unpack (expected 2, got {count})"
  | tooMany => "too many values to unpack (expected 2)"
  | badOperands operator left right =>
    s!"unsupported operand type(s) for {operator}=: '{left.typeName}' and '{right.typeName}'"
  | notConcatenable left right => notConcatenableMessage left right
  | notRepeatable count => s!"can't multiply sequence by non-int of type '{count.typeName}'"
  | notSearchable value => notSearchableMessage value
  | noLines value => noLinesMessage value

end ShapeFault

/-- The causes of failure. -/
inductive Fault where
  | misuse (family : Misuse) (notice : Notice)
  /-- The nesting of parser applications reached the recursion limit. -/
  | recursionLimit
  | literalNotText (got : Value)
  | classNotText (got : Value)
  | sourceNotText (got : Value)
  | ruleNotParser (name : String) (got : Value)
  | notApplicable (got : Value)
  | notKey (typeName : String)
  | notComparable (got : Value)
  | notNumeral (text : String)
  /-- A numeral has more digits than the limit allows. -/
  | numeralTooLong (limit digits : Nat)
  /-- An integer to be printed has more digits than the limit allows. -/
  | integerTooLong (limit : Nat)
  /-- An integer is beyond the floating-point numbers. -/
  | integerTooLarge
  /-- A number of repetitions is beyond the machine's integers. -/
  | countTooLarge
  /-- A repeated text or byte string would have too many places. -/
  | repetitionTooLong (value : Value)
  /-- A repeated value would not fit into memory. -/
  | outOfMemory
  | shape (fault : ShapeFault)
  | span (fault : SpanFault)
  | cursorOutside (pos : Int) (length : Nat)
  | sourceTooLong (length : Nat) (limit : String)
  | missingKey (key : Value)
  /-- The first rule was asked of a grammar that has none. -/
  | noRules
  | frozenField (name : String)
  /-- A field that is not there was to be set. -/
  | unknownField
  /-- A plain table was asked for something that only grammars have. -/
  | noAttribute (typeName name : String)
  | notMember (family : String) (value : Value)
  /-- A user's formatter failed. -/
  | formatterFailed
  /-- A user's parser failed. -/
  | parserFailed
  /-- A repetition came back to a position where it had been before, and would go on for ever. -/
  | endless
deriving Repr

/-- The families of faults. -/
inductive FaultKind where
  | misuse (family : Misuse)
  | recursion
  | wrongType
  | wrongValue
  | missingKey
  | missingIndex
  | missingAttribute
  | overflow
  | memory
  | frozen
  | endless
deriving Repr

/-- The bound on the nesting of applications. -/
def recursionLimit : Nat := 1000

/-- The most characters of a text that the message about a bad numeral shows, quotes included. -/
def numeralShown : Nat := 200

namespace Fault

/-- The wording of a fault. -/
def message : Fault → String
  | misuse _ notice => notice.message
  | recursionLimit => "maximum recursion depth exceeded"
  | literalNotText got => s!"literal() expects a str, got {got.typeName}"
  | classNotText got => s!"char_class() expects a str, got {got.typeName}"
  | sourceNotText got => s!"source must be a str, got {got.typeName}"
  | ruleNotParser name got =>
    s!"Rule '{name}' must be bound to a parser callable, got {got.typeName}"
  | notApplicable got => s!"'{got.typeName}' object is not callable"
  | notKey typeName => s!"unhashable type: '{typeName}'"
  | notComparable got =>
    s!"'>' not supported between instances of '{got.typeName}' and 'int'"
  | notNumeral text =>
    "invalid literal for int() with base 10: " ++
      String.ofList ((Text.quotedChars text.toList).take numeralShown)
  | numeralTooLong limit digits =>
    s!"Exceeds the limit ({limit} digits) for integer string conversion: value has {digits} " ++
      "digits; use sys.set_int_max_str_digits() to increase the limit"
  | integerTooLong limit =>
    s!"Exceeds the limit ({limit} digits) for integer string conversion; " ++
      "use sys.set_int_max_str_digits() to increase the limit"
  | integerTooLarge => "int too large to convert to float"
  | countTooLarge => "cannot fit 'int' into an index-sized integer"
  | repetitionTooLong (.bytes _) => "repeated bytes are too long"
  | repetitionTooLong _ => "repeated string is too long"
  | outOfMemory => ""
  | shape fault => fault.message
  | span fault => fault.message
  | cursorOutside pos length => s!"Cursor position {pos} outside source of length {length}"
  | sourceTooLong length limit =>
    s!"Source size ({Text.grouped length} characters) exceeds maximum ({limit} characters). " ++
      "Configure max_source_size in CombinatorParser constructor to increase limit."
  | missingKey key => key.spelling
  | noRules => ""
  | frozenField name => s!"cannot assign to field '{name}'"
  | unknownField => "super(type, obj): obj must be an instance or subtype of type"
  | noAttribute typeName name => s!"'{typeName}' object has no attribute '{name}'"
  | notMember family value => s!"{value.spelling} is not a valid {family}"
  | formatterFailed => "formatter failed"
  | parserFailed => "parser failed"
  | endless => "endless repetition"

/-- The family of a shape fault. -/
def shapeKind : ShapeFault → FaultKind
  | .outOfRange _ => .missingIndex
  | .tooFew _ => .wrongValue
  | .tooMany => .wrongValue
  | .noLines (.mapping _) => .missingAttribute
  | _ => .wrongType

/-- The family that a fault belongs to. -/
def kind : Fault → FaultKind
  | misuse family _ => .misuse family
  | recursionLimit => .recursion
  | literalNotText _ | classNotText _ | sourceNotText _ | ruleNotParser .. => .wrongType
  | notApplicable _ | notKey _ | notComparable _ => .wrongType
  | shape fault => shapeKind fault
  | notNumeral _ | numeralTooLong .. | integerTooLong _ => .wrongValue
  | integerTooLarge | countTooLarge | repetitionTooLong _ => .overflow
  | outOfMemory => .memory
  | span _ | cursorOutside .. | sourceTooLong .. | notMember .. => .wrongValue
  | formatterFailed | parserFailed => .wrongValue
  | missingKey _ | noRules => .missingKey
  | frozenField _ => .frozen
  | unknownField => .wrongType
  | noAttribute .. => .missingAttribute
  | endless => .endless

/-- The diagnostic of a misuse that has one. -/
def diagnostic? : Fault → Option Diagnostic
  | misuse _ notice => notice.diagnostic?
  | _ => none

/-- A construction fault with its diagnostic. -/
def construction (diagnostic : Diagnostic) : Fault :=
  misuse .construction (.diagnosed diagnostic)

/-- The fault that is reported with a diagnostic; if the diagnostic could not be written, the fault
that kept it from being written. -/
def reporting (report : Diagnostic → Fault) : Except Fault Diagnostic → Fault
  | .ok diagnostic => report diagnostic
  | .error f => f

end Fault

/-! ### Results within a recursion limit -/

/-- The later result, which had more room, is the same, unless the first one exhausted the recursion
limit. -/
def UnlessExhausted {α : Type} (result later : Except Fault α) : Prop :=
  result = .error .recursionLimit ∨ later = result

namespace UnlessExhausted

variable {α β : Type}

theorem refl (result : Except Fault α) : UnlessExhausted result result := Or.inr rfl

theorem exhausted (later : Except Fault α) : UnlessExhausted (.error .recursionLimit) later :=
  Or.inl rfl

/-- What follows on results is the same if they are, and then what is made of a value is. -/
theorem bind {result later : Except Fault α} {next after : α → Except Fault β}
    (h : UnlessExhausted result later) (hnext : ∀ a, UnlessExhausted (next a) (after a)) :
    UnlessExhausted (result >>= next) (later >>= after) := by
  rcases h with rfl | rfl
  · exact exhausted _
  · cases later with
    | error f => exact refl _
    | ok a => exact hnext a

theorem map {result later : Except Fault α} (f : α → β) (h : UnlessExhausted result later) :
    UnlessExhausted (result.map f) (later.map f) := by
  rcases h with rfl | rfl
  · exact exhausted _
  · exact refl _

/-- Items are gone through from left to right, up to the first fault. -/
theorem mapM {f g : α → Except Fault β} (h : ∀ a, UnlessExhausted (f a) (g a)) (items : List α) :
    UnlessExhausted (items.mapM f) (items.mapM g) := by
  induction items with
  | nil => exact refl _
  | cons a items ih =>
    rw [List.mapM_cons, List.mapM_cons]
    exact (h a).bind fun b => ih.bind fun bs => refl _

/-- Results that are the same with more room settle: on what is not exhausted, or on that. -/
theorem exists_settled {result : (room : Nat) → Except Fault α}
    (h : ∀ {room room' : Nat}, room ≤ room' → UnlessExhausted (result room) (result room')) :
    ∃ enough, ∀ room, enough ≤ room → result room = result enough := by
  by_cases hfinished : ∃ room, result room ≠ .error .recursionLimit
  · obtain ⟨enough, henough⟩ := hfinished
    exact ⟨enough, fun room hle => (h hle).resolve_left henough⟩
  · have hexhausted : ∀ room, result room = .error .recursionLimit := fun room =>
      Classical.not_not.1 fun hne => hfinished ⟨room, hne⟩
    exact ⟨0, fun room _ => (hexhausted room).trans (hexhausted 0).symm⟩

end UnlessExhausted

/-! ### The faults of results -/

/-- If the result is a fault, it satisfies `P`. -/
def FailsOnly {α : Type} (P : Fault → Prop) (result : Except Fault α) : Prop :=
  ∀ f, result = .error f → P f

namespace FailsOnly

variable {α β : Type} {P : Fault → Prop}

theorem ok (a : α) : FailsOnly P (.ok a) := nofun

theorem error {f : Fault} (h : P f) : FailsOnly P (.error f : Except Fault α) := by
  rintro _ ⟨⟩
  exact h

theorem bind {result : Except Fault α} {next : α → Except Fault β} (h : FailsOnly P result)
    (hnext : ∀ a, FailsOnly P (next a)) : FailsOnly P (result >>= next) := by
  cases result with
  | error f => exact error (h f rfl)
  | ok a => exact hnext a

theorem mapM {f : α → Except Fault β} {items : List α} (h : ∀ a ∈ items, FailsOnly P (f a)) :
    FailsOnly P (items.mapM f) := by
  induction items with
  | nil => exact ok _
  | cons a items ih =>
    obtain ⟨ha, hitems⟩ := List.forall_mem_cons.1 h
    rw [List.mapM_cons]
    exact ha.bind fun b => (ih hitems).bind fun bs => ok _

end FailsOnly

end GrammarKit
