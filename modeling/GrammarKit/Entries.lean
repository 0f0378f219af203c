/-!
# Entries in order of insertion

A finite map kept as a list of entries with distinct keys, in the order in which the keys came in.

* `Entries.get?` — the value under a key;
* `Entries.insert` — sets a key; a present key keeps its place, a new one goes to the end;
* `Entries.erase` — takes a key away;
* `Entries.ofPairs` — the entries made from pairs, a repeated key keeping its first place and its
  last value.
-/

namespace GrammarKit.Entries

variable {κ α : Type} [BEq κ]

/-- The value under a key. -/
def get? (entries : List (κ × α)) (key : κ) : Option α :=
  (entries.find? fun entry => entry.1 == key).map (·.2)

/-- The entries after setting a key. -/
def insert (entries : List (κ × α)) (key : κ) (value : α) : List (κ × α) :=
  match entries with
  | [] => [(key, value)]
  | entry :: entries =>
    if entry.1 == key then (entry.1, value) :: entries else entry :: insert entries key value

/-- The entries without a key. -/
def erase (entries : List (κ × α)) (key : κ) : List (κ × α) :=
  entries.filter fun entry => !(entry.1 == key)

/-- The entries made from pairs. -/
def ofPairs (pairs : List (κ × α)) : List (κ × α) :=
  pairs.foldl (fun entries pair => insert entries pair.1 pair.2) []

/-- The keys in order. -/
def keys (entries : List (κ × α)) : List κ :=
  entries.map (·.1)

/-! ### What the operations do to look-up and order -/

theorem get?_cons (entry : κ × α) (entries : List (κ × α)) (key : κ) :
    get? (entry :: entries) key = if entry.1 == key then some entry.2 else get? entries key := by
  unfold get?
  rw [List.find?_cons]
  cases entry.1 == key <;> rfl

/-- When a present key gets another value, a look-up finds what it found before, unless that was the
value of this key. -/
theorem get?_insert_of_get? {entries : List (κ × α)} {key : κ} {value : α}
    (h : get? entries key = some value) (new : α) (other : κ) :
    get? (insert entries key new) other = get? entries other ∨
      (get? entries other = some value ∧ get? (insert entries key new) other = some new) := by
  induction entries with
  | nil => cases h
  | cons entry entries ih =>
    rw [get?_cons] at h
    by_cases hkey : (entry.1 == key) = true
    · rw [if_pos hkey] at h
      rw [insert, if_pos hkey, get?_cons, get?_cons, ← Option.some.inj h]
      by_cases hother : (entry.1 == other) = true
      · exact Or.inr ⟨if_pos hother, if_pos hother⟩
      · exact Or.inl (by rw [if_neg hother, if_neg hother])
    · rw [if_neg hkey] at h
      rw [insert, if_neg hkey, get?_cons, get?_cons]
      by_cases hother : (entry.1 == other) = true
      · exact Or.inl (by rw [if_pos hother, if_pos hother])
      · rw [if_neg hother, if_neg hother]
        exact ih h

variable [LawfulBEq κ]

@[simp] theorem get?_insert_self (entries : List (κ × α)) (key : κ) (value : α) :
    get? (insert entries key value) key = some value := by
  induction entries with
  | nil => simp [insert, get?]
  | cons entry entries ih =>
    by_cases h : entry.1 = key
    · simp [insert, get?, h]
    · simpa [insert, get?, h] using ih

theorem get?_insert_of_ne (entries : List (κ × α)) {key other : κ} (value : α)
    (h : key ≠ other) : get? (insert entries key value) other = get? entries other := by
  induction entries with
  | nil => simp [insert, get?, h]
  | cons entry entries ih =>
    by_cases hk : entry.1 = key
    · simp [insert, get?, hk, h]
    · by_cases ho : entry.1 = other
      · subst ho
        simp [insert, get?, hk]
      · simpa [insert, get?, hk, ho] using ih

@[simp] theorem get?_erase_self (entries : List (κ × α)) (key : κ) :
    get? (erase entries key) key = none := by
  simp [get?, erase]

theorem get?_erase_of_ne (entries : List (κ × α)) {key other : κ} (h : key ≠ other) :
    get? (erase entries key) other = get? entries other := by
  induction entries with
  | nil => rfl
  | cons entry entries ih =>
    by_cases hk : entry.1 = key
    · simpa [erase, get?, hk, h] using ih
    · by_cases ho : entry.1 = other
      · subst ho
        simp [erase, get?, hk]
      · simpa [erase, get?, hk, ho] using ih

/-- A present key keeps its place; a new one goes to the end. -/
theorem keys_insert (entries : List (κ × α)) (key : κ) (value : α) :
    keys (insert entries key value) =
      if key ∈ keys entries then keys entries else keys entries ++ [key] := by
  induction entries with
  | nil => simp [insert, keys]
  | cons entry entries ih =>
    by_cases hk : entry.1 = key
    · simp [insert, keys, hk]
    · have hk' : ¬key = entry.1 := fun e => hk e.symm
      have step : keys (insert (entry :: entries) key value) =
          entry.1 :: keys (insert entries key value) := by
        simp [insert, keys, hk]
      rw [step, ih]
      by_cases hm : key ∈ keys entries
      · simp [keys, hk', show key ∈ entries.map (·.1) from hm]
      · simp [keys, hk', show key ∉ entries.map (·.1) from hm]

end GrammarKit.Entries
