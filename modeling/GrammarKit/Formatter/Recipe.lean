import GrammarKit.Formatter.Basic

/-!
# Recipes

A recipe describes a formatter before it is built. The lists inside a constant are shared by all the
values that the formatter gives, so building puts them into the store.

* `Recipe` — the descriptions;
* `Recipe.build` — the formatter of a recipe;
* `Recipe.format` — the value that a recipe gives for another one.
-/

namespace GrammarKit

/-- A description of a formatter. -/
inductive Recipe where
  /-- A formatter that needs no building. -/
  | ready (format : Formatter)
  /-- The formatter that always gives the same value. -/
  | constant (value : Value)
  /-- Formatters applied first to last. -/
  | chain (recipes : List Recipe)

namespace Recipe

/-- Leaves the result as it is. -/
def identity : Recipe := ready Formatter.identity

mutual

/-- Builds the formatter of a recipe. -/
def build : Recipe → StateM Store Formatter
  | ready format => return format
  | constant value => return Formatter.constant (← Store.share value)
  | chain recipes => return Formatter.chain (← buildAll recipes)

/-- Builds the formatters of several recipes. -/
def buildAll : List Recipe → StateM Store (List Formatter)
  | [] => return []
  | recipe :: recipes => return (← build recipe) :: (← buildAll recipes)

end

/-- The value that a recipe gives for another one. -/
def format (recipe : Recipe) (value : Value) : Except Fault Value :=
  let (formatter, store) := recipe.build.run {}
  let formatted := formatter.within recursionLimit value store
  formatted.result.bind formatted.store.snapshot

end Recipe

end GrammarKit
