import GrammarKit.Value.Number

/-!
# Shared values

A list may be held by several values at once: a formatter that always gives the same list hands it
to every match. A formatter that accumulates into such a list changes it for all of them. The items
of shared lists are therefore kept in a store. All other lists belong to the one value that they are
part of. Tuples and mappings do not change, but one that holds a shared list can come to stand
inside itself, so it gets a label to be known by.

* `Store` — the items of each shared list;
* `Store.opened` — a value with the items of a shared list in its place;
* `Store.share` — a value all of whose lists are shared from now on.
-/

namespace GrammarKit

/-- The items of the shared lists, by their handles, and the number of labels given away. -/
structure Store where
  lists : Array (Array Value) := #[]
  labels : Nat := 0

namespace Value

/-- Whether a value is a shared one. -/
def isShared : Value → Bool
  | shared _ | labelled _ _ => true
  | _ => false

mutual

/-- Whether a value has to change to be shared: it is a list, or it holds one, shared or not. -/
def isOwned : Value → Bool
  | list _ => true
  | tuple items => anyOwned items
  | mapping entries => anyOwnedEntry entries
  | _ => false

/-- Whether one of several values is a shared one or has to change to be shared. -/
def anyOwned : List Value → Bool
  | [] => false
  | item :: items => item.isShared || isOwned item || anyOwned items

/-- Whether the value of an entry is a shared one or has to change to be shared. -/
def anyOwnedEntry : List (Value × Value) → Bool
  | [] => false
  | (_, value) :: entries => value.isShared || isOwned value || anyOwnedEntry entries

end

end Value

namespace Store

/-! ### Looking -/

/-- The items of a shared list. -/
def items (store : Store) (id : ListId) : Array Value :=
  store.lists.getD id #[]

/-- A value whose contents can be looked at: a shared list is replaced by a list of its items, and
other shared values lose their labels. -/
def opened (store : Store) : Value → Value
  | .shared id => .list (store.items id).toList
  | value => value.bare

/-- The length of a value that has one. -/
def length? (store : Store) : Value → Option Nat
  | .shared id => some (store.items id).size
  | value => value.length?

/-- Whether a value counts as true. -/
def countsAsTrue (store : Store) : Value → Bool
  | .shared id => !(store.items id).isEmpty
  | value => value.countsAsTrue

/-! ### Changing -/

/-- The store with other items in a shared list. -/
def setItems (store : Store) (id : ListId) (items : Array Value) : Store :=
  { store with lists := store.lists.setIfInBounds id items }

/-- The store with more items at the end of a shared list. -/
def append (store : Store) (id : ListId) (items : Array Value) : Store :=
  { store with lists := store.lists.modify id (· ++ items) }

/-- The handle of a new list. -/
def newList (items : Array Value) : StateM Store ListId :=
  modifyGet fun store => (store.lists.size, { store with lists := store.lists.push items })

/-- A tuple or a mapping with a new label. -/
def label (value : Value) : StateM Store Value :=
  modifyGet fun store => (.labelled store.labels value, { store with labels := store.labels + 1 })

mutual

/-- Makes every list inside a value a shared one. -/
def share : Value → StateM Store Value
  | .list items => do return .shared (← newList (← shareAll items).toArray)
  | .tuple items => do
    if Value.anyOwned items then label (.tuple (← shareAll items)) else return .tuple items
  | .mapping entries => do
    if Value.anyOwnedEntry entries then label (.mapping (← shareEntries entries))
    else return .mapping entries
  | value => return value

/-- Makes every list inside several values a shared one. -/
def shareAll : List Value → StateM Store (List Value)
  | [] => return []
  | item :: items => do return (← share item) :: (← shareAll items)

/-- Makes every list inside the values of a mapping a shared one; there are none in its keys. -/
def shareEntries : List (Value × Value) → StateM Store (List (Value × Value))
  | [] => return []
  | (key, value) :: entries => do return (key, ← share value) :: (← shareEntries entries)

end

/-- A value that need not change is shared as it is. -/
theorem share_eq_pure {value : Value} (h : value.isOwned = false) : share value = pure value := by
  cases value <;> simp_all [share, Value.isOwned]

/-- Makes every list inside the items of a row a shared one. -/
def shareItems (items : Array Value) : StateM Store (Array Value) := do
  if items.any (·.isOwned) then return (← shareAll items.toList).toArray else return items

end Store

end GrammarKit
