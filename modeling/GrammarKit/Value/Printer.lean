import GrammarKit.Text.Quoted
import GrammarKit.Value.Basic

/-!
# Values as text

* `Value.spelling` — the unambiguous text of a value, with quoted strings and bracketed containers;
* `Value.display` — its plain text: a string stands for itself;
* `Value.ellipsis` — what stands for a container inside itself.
-/

namespace GrammarKit.Value

open Text

/-- Texts joined by a comma and a space. -/
def commaJoined (texts : List String) : String :=
  ", ".intercalate texts

/-- The spelling of a list. -/
def listText (texts : List String) : String :=
  "[" ++ commaJoined texts ++ "]"

/-- The spelling of a tuple: a single item is followed by a comma. -/
def tupleText : List String → String
  | [single] => "(" ++ single ++ ",)"
  | texts => "(" ++ commaJoined texts ++ ")"

/-- The spelling of a mapping with the given entries. -/
def mappingText (entries : List String) : String :=
  "\x7b" ++ commaJoined entries ++ "\x7d"

/-- The spelling of an entry. -/
def entryText (key value : String) : String :=
  key ++ ": " ++ value

/-- What stands for a container inside itself. -/
def ellipsis (value : Value) : String :=
  match value.bare with
  | tuple _ => "(...)"
  | mapping _ => "\x7b...\x7d"
  | _ => "[...]"

mutual

/-- The unambiguous text of a value. A shared value is spelled where its contents are known;
elsewhere dots take its place. -/
def spelling : Value → String
  | null => "None"
  | bool b => if b then "True" else "False"
  | int n => toString n
  | decimal digits => digits
  | text s => quoted s
  | bytes bs => quotedBytes bs
  | list items => listText (spellings items)
  | shared id => (shared id).ellipsis
  | labelled label value => (labelled label value).ellipsis
  | tuple items => tupleText (spellings items)
  | mapping entries => mappingText (entrySpellings entries)
  | absent => "ABSENT"
  | noMatch => "NO_MATCH"

/-- The unambiguous texts of several values. -/
def spellings : List Value → List String
  | [] => []
  | item :: items => spelling item :: spellings items

/-- The texts of the entries of a mapping. -/
def entrySpellings : List (Value × Value) → List String
  | [] => []
  | (key, value) :: entries => entryText (spelling key) (spelling value) :: entrySpellings entries

end

/-- The plain text of a value. -/
def display : Value → String
  | text s => s
  | absent => "Absent.ABSENT"
  | noMatch => "NoMatch.NO_MATCH"
  | value => value.spelling

end GrammarKit.Value
