import GrammarKit.Cursor.Items
import GrammarKit.Parser

/-!
# Parsers over items

A parser can be applied at a position of a list, a tuple, a byte string or a mapping, too. Its
combinators work as on texts, for they deal in positions only. Its leaves see slices of the value:
no slice is equal to a text, so a literal matches only if it is empty, and a character class cannot
be asked about a slice. A reference that finds nothing cannot say in which line it stands.

* `Leaf.onItems` — a hand-written parser over items;
* `Parser.onItems` — a parser over items;
* `Scope.onItems` — what the references of such a parser find;
* `Parser.matcherOn` — the matcher of a parser for any source.
-/

namespace GrammarKit

namespace Matcher

/-- Looks at the next item and goes on with the slice that holds it; there is none at the end. -/
def withItem (source : Value) (next : Value → Matcher) : Matcher := fun c =>
  match source.peek c.pos 1 with
  | .error f => .fault f
  | .ok item => if c.atEnd then .mismatch else next item c

/-- Matches one item; at the end there is none. -/
def anyItem (source : Value) : Matcher := fun c =>
  if c.atEnd then .mismatch
  else withItem source (fun item c => .matched item (c.forward 1)) c

/-- Matches all items that are left. -/
def restItems (source : Value) : Matcher := fun c =>
  match source.peek c.pos c.remaining with
  | .error f => .fault f
  | .ok items => .matched items (c.forward c.remaining)

end Matcher

/-- A hand-written parser over items. -/
def Leaf.onItems (source : Value) : Leaf → Matcher
  | anyChar => Matcher.anyItem source
  | rest => Matcher.restItems source
  | leaf => leaf.matcher

namespace Parser

mutual

/-- A parser over items. -/
def onItems (source : Value) : Parser → Parser
  | literal text format =>
    if text.text = "" then literal text format
    else custom (Matcher.withItem source fun _ _ => .mismatch)
  | charClass _ _ =>
    custom (Matcher.withItem source fun _ _ => .fault (.shape (.notSearchable source)))
  | sequence children format => sequence (onItemsAll source children) format
  | alternation children format => alternation (onItemsAll source children) format
  | optional child format => optional (onItems source child) format
  | repetition child minimum format => repetition (onItems source child) minimum format
  | reference registry name => reference registry name
  | leaf l => custom (l.onItems source)
  | custom matcher => custom matcher
  | probe label inner => probe label (onItems source inner)
  | inert value => inert value

/-- Several parsers over items. -/
def onItemsAll (source : Value) : List Parser → List Parser
  | [] => []
  | child :: children => onItems source child :: onItemsAll source children

end

end Parser

/-- What references find when they are applied to items. -/
def Scope.onItems (source : Value) (scope : Scope) : Scope := fun registry name =>
  match scope registry name with
  | some parser => some (parser.onItems source)
  | none => some (.custom fun _ => .fault (.shape (.noLines source)))

/-- The matcher of a parser for a source that is applied to directly. -/
def Parser.matcherOn (source : Value) (scope : Scope) (limit : Nat) (parser : Parser) : Matcher :=
  match source with
  | .text _ => parser.run scope limit
  | _ => (parser.onItems source).run (scope.onItems source) limit

/-- A match from a given position of a source. -/
def Parser.applyAt (parser : Parser) (scope : Scope) (limit : Nat) (source : Value) (pos : Int) :
    Run Value :=
  match Cursor.ofValue source pos with
  | .ok c => parser.matcherOn source scope limit c
  | .error f => .fault f

end GrammarKit
