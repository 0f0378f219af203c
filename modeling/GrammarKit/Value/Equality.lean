import GrammarKit.Entries
import GrammarKit.Value.Number

/-!
# Equality of values

Values that are numbers are equal when their numeric values are; mappings are equal whatever the
order of their entries. A value can be a key unless it holds a list or a mapping.

* `Value.equals` — equality of values;
* `Value.coincides` — whether two values are one and the same;
* `Value.keyObstacle?` — the type that keeps a value from being a key;
* `Value.ofPairs` — the mapping made from pairs.
-/

namespace GrammarKit.Value

mutual

/-- Equality of values. -/
def equals : Value → Value → Bool
  | null, null => true
  | int m, int n => m == n
  | text s, text t => s == t
  | bytes bs, bytes cs => bs == cs
  | list items, list others => equalItems items others
  | shared id, shared other => id == other
  | labelled label _, labelled other _ => label == other
  | tuple items, tuple others => equalItems items others
  | mapping entries, mapping others =>
    entries.length == others.length && equalEntries entries others
  | absent, absent => true
  | noMatch, noMatch => true
  | value, other =>
    match other.number? with
    | some b => value.number?.any (·.equals b)
    | none => false

/-- Equality item by item. -/
def equalItems : List Value → List Value → Bool
  | [], [] => true
  | item :: items, other :: others => equals item other && equalItems items others
  | _, _ => false

/-- Whether each entry has an equal one among the others. -/
def equalEntries : List (Value × Value) → List (Value × Value) → Bool
  | [], _ => true
  | (key, value) :: entries, others =>
    (others.any fun other => equals key other.1 && equals value other.2) &&
      equalEntries entries others

end

mutual

/-- The name of the first type inside a value that keeps it from being a key. -/
def keyObstacle? : Value → Option String
  | list items => some (list items).typeName
  | shared id => some (shared id).typeName
  | labelled _ value => keyObstacle? value
  | mapping entries => some (mapping entries).typeName
  | tuple items => keyObstacleAmong? items
  | _ => none

/-- The first obstacle among several values. -/
def keyObstacleAmong? : List Value → Option String
  | [] => none
  | item :: items => keyObstacle? item <|> keyObstacleAmong? items

end

instance : BEq Value := ⟨equals⟩

/-- Whether a text is kept only once: it is empty, or a single character of the first 256. -/
def isSingular (s : String) : Bool :=
  s.length ≤ 1 && s.toList.all fun c => c.toNat < 0x100

/-- Whether two values made apart from each other are one and the same, not only equal. Of each
marker, truth value and small integer there is only one, likewise of the empty tuple and of texts
and byte strings of at most one place. -/
def coincides : Value → Value → Bool
  | null, null => true
  | bool b, bool c => b == c
  | int m, int n => m == n && (-5 ≤ m && m ≤ 256)
  | text s, text t => s == t && isSingular s
  | bytes bs, bytes cs => bs == cs && bs.length ≤ 1
  | tuple [], tuple [] => true
  | absent, absent => true
  | noMatch, noMatch => true
  | _, _ => false

/-- The mapping made from pairs. -/
def ofPairs (pairs : List (Value × Value)) : Value :=
  mapping (Entries.ofPairs pairs)

end GrammarKit.Value
