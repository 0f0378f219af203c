import GrammarKit.Fault
import GrammarKit.Value.Equality

/-!
# The catalogue of constants

The named constants of the library, by family: the result tags, the two markers and the diagnostic
codes.

* `Family` — the families;
* `Member` — a constant with its name, its value and its texts;
* `Family.members` — the constants of a family, in order;
* `Family.find` — the constant with a given value.
-/

namespace GrammarKit

/-- The families of constants. -/
inductive Family where
  | tags
  | absent
  | noMatch
  | codes
deriving DecidableEq, Repr

/-- The name of a family. -/
def Family.name : Family → String
  | tags => "MatchKind"
  | absent => "Absent"
  | noMatch => "NoMatch"
  | codes => "DiagnosticCode"

/-- A constant. -/
structure Member where
  name : String
  value : Value
  display : String
  spelling : String
  truth : Bool

/-- The name of a tag as a constant. -/
def Tag.constantName : Tag → String
  | literal => "LITERAL"
  | charClass => "CHAR_CLASS"
  | sequence => "SEQUENCE"
  | repetition => "REPETITION"
  | optional => "OPTIONAL"
  | alternation => "ALTERNATION"

namespace Member

/-- A constant spelled with its family, name and value. -/
def spelled (family : Family) (name : String) (value : Value) : String :=
  s!"<{family.name}.{name}: {value.spelling}>"

/-- A tag as a constant; its plain text is its key. -/
def ofTag (tag : Tag) : Member where
  name := tag.constantName
  value := .text tag.key
  display := tag.key
  spelling := spelled .tags tag.constantName (.text tag.key)
  truth := true

/-- A marker as a constant. -/
def ofMarker (name value : String) (marker : Value) : Member where
  name := name
  value := .text value
  display := marker.display
  spelling := marker.spelling
  truth := marker.countsAsTrue

/-- A diagnostic code as a constant. -/
def ofCode (code : DiagnosticCode) : Member where
  name := code.name
  value := .int code.number
  display := s!"{Family.codes.name}.{code.name}"
  spelling := spelled .codes code.name (.int code.number)
  truth := true

end Member

namespace Family

/-- The constants of a family, in order. -/
def members : Family → List Member
  | tags => Tag.all.map .ofTag
  | absent => [.ofMarker "ABSENT" "absent" .absent]
  | noMatch => [.ofMarker "NO_MATCH" "no_match" .noMatch]
  | codes => DiagnosticCode.all.map .ofCode

/-- Whether a value is the marker of a family itself. -/
def isMarker : Family → Value → Bool
  | absent, .absent => true
  | noMatch, .noMatch => true
  | _, _ => false

/-- The constant with a given value; a marker stands for itself. -/
def find (family : Family) (value : Value) : Except Fault Member :=
  match family.members.find? fun m => m.value == value || family.isMarker value with
  | some m => .ok m
  | none => .error (.notMember family.name value)

end Family

end GrammarKit
