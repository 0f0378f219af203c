import GrammarKit.Proofs.Adequacy
import GrammarKit.Proofs.WholeSource

/-!
# Results as transcripts

The result of a match keeps the text that was matched: whatever mixture of tagged and unwrapped
values and of texts the ready-made formatters leave, joining its texts in order gives back the part
of the source between the cursors before and after the match. Only a result that nests more deeply
than the recursion limit allows cannot be joined.

* `Cursor.textTo` — the text between two cursors;
* `Value.joinDepth` — how many calls are nested while the texts of a value are joined;
* `Spells` — the texts inside a value make up a text;
* `Formatter.Faithful` — the compositions of the ready-made formatters;
* `Spells.matchedText` — joining the texts of a value gives the text that they make up;
* `Derives.spells` — a match spells the text it consumed;
* `matchedText_of_matched` — so joining the texts of its value gives this text back.
-/

namespace GrammarKit

/-! ### The text between two cursors -/

namespace Cursor

/-- The text from the cursor `c` up to the cursor `d`. -/
def textTo (c d : Cursor) : String :=
  String.ofList (c.source.chars.extract c.pos d.pos).toList

variable {c d e : Cursor}

@[simp] theorem textTo_self (c : Cursor) : c.textTo c = "" := by
  simp [textTo]

/-- Texts in a row are one text. -/
theorem Before.textTo_append (hcd : c.Before d) (hde : d.Before e) :
    c.textTo d ++ d.textTo e = c.textTo e := by
  unfold textTo
  rw [hcd.1, ← String.ofList_append, ← Array.toList_append, Array.extract_append_extract,
    Nat.min_eq_left hcd.2, Nat.max_eq_right hde.2]

/-- What is seen ahead is the text up to the cursor behind it. -/
theorem textTo_forward (c : Cursor) (n : Nat) :
    c.textTo (c.forward n) = String.ofList (c.peek n) := by
  rw [textTo, peek, forward_pos, ← c.source.size_chars]
  congr 2
  apply Array.ext
  · simp
  · simp

/-- The next character is what is seen one character ahead. -/
theorem peek_one {char : Char} (h : c.next? = some char) : c.peek 1 = [char] := by
  rw [next?, ← Array.getElem?_toList] at h
  rw [peek_eq_take, List.take_one, List.head?_drop, h]
  rfl

end Cursor

/-! ### Values that spell a text -/

namespace Value

mutual

/-- How many calls are nested while the texts inside a value are joined: one for each value, and one
more for going through the items of a list. -/
def joinDepth : Value → Nat
  | list items | tuple items => joinDepthIn items + 2
  | mapping entries => joinDepthUnder entries + 1
  | labelled _ value => joinDepth value
  | null | bool _ | int _ | decimal _ | text _ | bytes _ | shared _ | absent | noMatch => 1

/-- How many calls are nested while the texts of some item are joined. -/
def joinDepthIn : List Value → Nat
  | [] => 0
  | item :: items => max (joinDepth item) (joinDepthIn items)

/-- How many calls are nested while the texts of some value of a mapping are joined. -/
def joinDepthUnder : List (Value × Value) → Nat
  | [] => 0
  | (_, value) :: entries => max (joinDepth value) (joinDepthUnder entries)

end

theorem joinDepth_nil : (list []).joinDepth = 2 := rfl

theorem joinDepth_list_cons (item : Value) (items : List Value) :
    (list (item :: items)).joinDepth = max (item.joinDepth + 2) (list items).joinDepth := by
  simp only [joinDepth, joinDepthIn]
  omega

theorem joinDepth_tagged (tag : Tag) (payload : Value) :
    (tagged tag payload).joinDepth = payload.joinDepth + 1 := by
  simp [tagged, joinDepth, joinDepthUnder]

end Value

/-- The texts of a list are those of its first item and those of the others, which are a list with
the same room for its items. -/
theorem Store.matchedText_list_cons (store : Store) (room : Nat) (v : Value) (vs : List Value) :
    store.matchedText (room + 2) (.list (v :: vs)) = (do
      let t ← store.matchedText room v
      let u ← store.matchedText (room + 2) (.list vs)
      return t ++ u) := by
  rw [matchedText, matchedText]
  simp only [opened, Value.bare, List.mapM_cons]
  cases store.matchedText room v with
  | error f => rfl
  | ok t =>
    cases vs.mapM (store.matchedText room) with
    | error f => rfl
    | ok texts => exact congrArg Except.ok (String.join_cons ..)

/-- The texts inside the value make up the text, in order: lists are gone through, tags and absent
payloads add nothing. -/
inductive Spells : Value → String → Prop
  | text (t : String) : Spells (.text t) t
  | absent : Spells .absent ""
  | tagged {v : Value} {t : String} (tag : Tag) : Spells v t → Spells (.tagged tag v) t
  | nil : Spells (.list []) ""
  | cons {v : Value} {vs : List Value} {t u : String} :
      Spells v t → Spells (.list vs) u → Spells (.list (v :: vs)) (t ++ u)

namespace Spells

variable {v : Value} {vs : List Value} {t u : String}

theorem concat (hvs : Spells (.list vs) t) (hv : Spells v u) :
    Spells (.list (vs ++ [v])) (t ++ u) := by
  induction vs generalizing t with
  | nil =>
    cases hvs
    simpa using Spells.cons hv .nil
  | cons w ws ih =>
    cases hvs with
    | cons hw hws => exact String.append_assoc ▸ Spells.cons hw (ih hws)

/-- Taking a tag away keeps the text. -/
theorem unwrap (h : Spells v t) : Spells v.unwrap t := by
  cases h with
  | tagged tag h => simpa using h
  | text t => exact .text t
  | absent => exact .absent
  | nil => exact .nil
  | cons hv hvs => exact .cons hv hvs

theorem one_le_joinDepth (h : Spells v t) : 1 ≤ v.joinDepth := by
  cases h with
  | text | absent => exact Nat.le_refl _
  | tagged => exact Value.joinDepth_tagged .. ▸ Nat.le_add_left ..
  | nil | cons => exact Nat.le_trans (by decide) (Nat.le_add_left 2 _)

/-- Joining the texts of a value gives the text that it spells, if there is room for the calls. -/
theorem matchedText (h : Spells v t) (store : Store) (room : Nat) :
    store.matchedText room v = if v.joinDepth ≤ room then .ok t else .error .recursionLimit := by
  induction h generalizing room with
  | text t =>
    match room with
    | 0 | 1 | room + 2 => rfl
  | absent =>
    match room with
    | 0 | 1 | room + 2 => rfl
  | nil =>
    match room with
    | 0 | 1 | room + 2 => rfl
  | @tagged v t tag hv ih =>
    have hpos := hv.one_le_joinDepth
    rw [Value.joinDepth_tagged]
    match room with
    | 0 => rfl
    | 1 => rw [if_neg (by omega)]; rfl
    | room + 2 =>
      rw [Store.matchedText]
      simp only [Store.opened, Value.tagged, Value.bare]
      rw [← Value.tagged, Value.payload?_tagged]
      simpa using ih (room + 1)
  | @cons v vs t u hv hvs ih ihs =>
    have hpos := hvs.one_le_joinDepth
    rw [Value.joinDepth_list_cons]
    match room with
    | 0 | 1 =>
      rw [if_neg (by omega)]
      rfl
    | room + 2 =>
      rw [Store.matchedText_list_cons, ih room, ihs (room + 2)]
      by_cases hv : v.joinDepth ≤ room
      · by_cases hvs : (Value.list vs).joinDepth ≤ room + 2
        · rw [if_pos hv, if_pos hvs, if_pos (by omega)]
          rfl
        · rw [if_pos hv, if_neg hvs, if_neg (by omega)]
          rfl
      · have hmax : ¬ max (v.joinDepth + 2) (Value.list vs).joinDepth ≤ room + 2 := by omega
        rw [if_neg hv, if_neg hmax]
        rfl

end Spells

/-! ### Faithful formatters -/

/-- The compositions of the ready-made formatters. -/
inductive Formatter.Faithful : Formatter → Prop
  | identity : Faithful Formatter.identity
  | unwrap : Faithful Formatter.unwrap
  | matchedText : Faithful Formatter.matchedText
  | andThen {f g : Formatter} : Faithful f → Faithful g → Faithful (f.andThen g)

/-- A value that a faithful formatter gives spells what the value before spelled. -/
theorem Formatter.Faithful.spells {format : Formatter} (hformat : format.Faithful) {v w : Value}
    {t : String} {room : Nat} {s : Store} (hv : Spells v t)
    (h : (format.within room v s).result = .ok w) : Spells w t := by
  induction hformat generalizing v w s with
  | identity =>
    cases h
    exact hv
  | unwrap =>
    cases h
    exact hv.unwrap
  | matchedText =>
    simp only [Formatter.matchedText, Formatter.readingWithin, hv.matchedText s room] at h
    split at h
    · cases h
      exact .text t
    · cases h
  | @andThen f g _ _ ihf ihg =>
    simp only [Formatter.andThen] at h
    cases hf : (f.within room v s).result with
    | ok u =>
      rw [hf] at h
      exact ihg (ihf hv hf) h
    | error e =>
      rw [hf] at h
      cases h

/-- A parser whose formatter, if it has one, is faithful. -/
def Parser.IsFaithful (p : Parser) : Prop :=
  ∀ format, p.format? = some format → format.Faithful

/-! ### Matches as transcripts -/

variable {scope : Scope}

/-- The values that a task has collected before. -/
def Task.values : Task → List Value
  | apply _ | choice .. => []
  | row _ _ values | loop _ _ _ values => values

/-- All formatters that a task can come to are faithful. -/
def Task.IsFaithful (scope : Scope) : Task → Prop
  | apply p => scope.Everywhere Parser.IsFaithful p
  | row children format _ | choice children format =>
    format.Faithful ∧ ∀ p ∈ children, scope.Everywhere Parser.IsFaithful p
  | loop child _ format _ => format.Faithful ∧ scope.Everywhere Parser.IsFaithful child

theorem Shapes.spells {format : Formatter} {tag : Tag} {payload v : Value} {t : String}
    {rest rest' : Cursor} {s s' : Store} (hformat : format.Faithful) (hpayload : Spells payload t)
    (h : Shapes format tag payload rest s (.matched v rest') s') : Spells v t := by
  obtain ⟨room, hroom⟩ := h.exists
  cases hroom with
  | value hvalue => exact hformat.spells (.tagged tag hpayload) hvalue

theorem Spells.eq_empty {t : String} (h : Spells (.list []) t) : t = "" := by
  cases h
  rfl

theorem Spells.nil_textTo (c : Cursor) : Spells (.list []) (c.textTo c) := by
  simpa using Spells.nil

/-- Where nothing was collected yet, no text lies behind. -/
theorem Spells.textTo_eq {b c d : Cursor} (h : Spells (.list []) (b.textTo c)) (hbc : b.Before c)
    (hcd : c.Before d) : b.textTo d = c.textTo d := by
  rw [← hbc.textTo_append hcd, h.eq_empty, String.empty_append]

/-- A match spells the text from where its task began: the values so far spell the text from `b` to
the cursor, and the result spells the text from `b` to the end of the match. -/
theorem Derives.spells_from {t : Task} {b c rest : Cursor} {s s' : Store} {o : Outcome Value}
    {v : Value} (h : Derives scope t c s o s') (ht : t.IsFaithful scope) (hbc : b.Before c)
    (hvalues : Spells (.list t.values) (b.textTo c)) (ho : o = .matched v rest) :
    Spells v (b.textTo rest) := by
  induction h generalizing b v rest with
  | @literal text format c s o s' hahead hshape =>
    subst ho
    cases hshape.rest_eq
    rw [hvalues.textTo_eq hbc (.forward _ _), Cursor.textTo_forward, hahead,
      IndexedText.ofList_chars]
    exact hshape.spells (ht.self format rfl) (.text _)
  | @charClass cls format c s o s' char hnext hin hshape =>
    subst ho
    cases hshape.rest_eq
    rw [hvalues.textTo_eq hbc (.forward _ _), Cursor.textTo_forward, Cursor.peek_one hnext]
    exact hshape.spells (ht.self format rfl) (.text _)
  | sequence _ ih =>
    exact ih ⟨ht.self _ rfl, fun p hp => ht.part hp⟩ hbc hvalues ho
  | rowEnd hshape =>
    subst ho
    cases hshape.rest_eq
    exact hshape.spells ht.1 hvalues
  | @rowNext p ps format values c v₁ rest₁ s s₁ o s' hchild _ ih ihnext =>
    have hchildSpells := ih (ht.2 p (List.mem_cons_self ..)) (.refl c) (.nil_textTo c) rfl
    have hmove := hchild.before rfl
    refine ihnext ⟨ht.1, fun q hq => ht.2 q (List.mem_cons_of_mem _ hq)⟩ (hbc.trans hmove) ?_ ho
    rw [← hbc.textTo_append hmove]
    exact hvalues.concat hchildSpells
  | alternation _ ih =>
    exact ih ⟨ht.self _ rfl, fun p hp => ht.part hp⟩ hbc hvalues ho
  | @choiceMatch p ps format c v₁ rest₁ s s₁ o s' _ hshape ih =>
    subst ho
    cases hshape.rest_eq
    exact hshape.spells ht.1 (ih (ht.2 p (List.mem_cons_self ..)) hbc hvalues rfl)
  | choiceNext _ _ _ ihnext =>
    exact ihnext ⟨ht.1, fun q hq => ht.2 q (List.mem_cons_of_mem _ hq)⟩ hbc hvalues ho
  | optionalMatch _ hshape ih =>
    subst ho
    cases hshape.rest_eq
    exact hshape.spells (ht.self _ rfl)
      (ih (ht.part (List.mem_singleton_self _)) hbc hvalues rfl)
  | optionalMiss _ hshape =>
    subst ho
    cases hshape.rest_eq
    rw [hvalues.textTo_eq hbc (.refl _), Cursor.textTo_self]
    exact hshape.spells (ht.self _ rfl) .absent
  | repetition _ ih =>
    exact ih ⟨ht.self _ rfl, ht.part (List.mem_singleton_self _)⟩ hbc hvalues ho
  | loopEnd _ _ hshape =>
    subst ho
    cases hshape.rest_eq
    exact hshape.spells ht.1 hvalues
  | @loopZero child minimum format values c v₁ rest₁ s s₁ o s' hchild hzero hshape ih =>
    subst ho
    cases hshape.rest_eq
    have hchildSpells := ih ht.2 (.refl c) (.nil_textTo c) rfl
    rw [(hchild.before rfl).eq_of_pos hzero, Cursor.textTo_self] at hchildSpells
    have hall := hvalues.concat hchildSpells
    rw [String.append_empty] at hall
    exact hshape.spells ht.1 hall
  | @loopNext child minimum format values c v₁ rest₁ s s₁ o s' hchild _ _ ih ihnext =>
    have hchildSpells := ih ht.2 (.refl c) (.nil_textTo c) rfl
    have hmove := hchild.before rfl
    refine ihnext ht (hbc.trans hmove) ?_ ho
    rw [← hbc.textTo_append hmove]
    exact hvalues.concat hchildSpells
  | reference _ hbound _ ih => exact ih (ht.rule hbound) hbc hvalues ho
  | literalMiss | charClassMiss | rowMiss | choiceEnd | loopShort => cases ho
  | rowRaise | choiceRaise | optionalRaise | loopRaise | referenceMissing | referenceKey => cases ho

/-- A match spells the text that it consumed. -/
theorem Derives.spells {p : Parser} {c rest : Cursor} {s s' : Store} {v : Value}
    (h : Derives scope (.apply p) c s (.matched v rest) s')
    (hp : scope.Everywhere Parser.IsFaithful p) : Spells v (c.textTo rest) :=
  h.spells_from hp (.refl c) (.nil_textTo c) rfl

/-- The text between the start of a source and its end is the source. -/
theorem Cursor.textTo_of_atEnd {text : IndexedText} {rest : Cursor}
    (h : (Cursor.start text).Before rest) (hend : rest.atEnd = true) :
    (Cursor.start text).textTo rest = text.text := by
  have hpos : rest.pos = text.chars.size := by
    rw [atEnd_iff, h.1] at hend
    rw [hend, text.size_chars]
    rfl
  rw [textTo, hpos]
  simp only [Cursor.start, Array.extract_size]
  exact text.ofList_chars

/-- **Results are transcripts.** If all formatters that a plain parser can come to are compositions
of the ready-made ones, then joining the texts of the value of a match gives the text between the
cursors, with room for all the calls that are nested, and exhausts any smaller room. The result for
a whole source gives the source. -/
theorem matchedText_of_matched {p : Parser}
    (hp : scope.Everywhere (fun q => q.isPlain = true ∧ q.IsFaithful) p) :
    (∀ limit c s v rest, (p.run scope limit c s).outcome = .matched v rest →
      c.Before rest ∧ ∀ (store : Store) (room : Nat), store.matchedText room v =
        if v.joinDepth ≤ room then .ok (c.textTo rest) else .error .recursionLimit) ∧
    (∀ (engine : Engine) limit text s v,
      (engine.matchAll limit (p.run scope limit) (.text text) s).result = .ok v → v ≠ .noMatch →
      ∀ (store : Store) (room : Nat), store.matchedText room v =
        if v.joinDepth ≤ room then .ok text else .error .recursionLimit) := by
  have hderives : ∀ limit c s v rest, (p.run scope limit c s).outcome = .matched v rest →
      Derives scope (.apply p) c s (.matched v rest) (p.run scope limit c s).store :=
    fun limit c s v rest h => .of_run (fun q hq => (hp q hq).1) ⟨h, rfl⟩ nofun
  have hfaithful : scope.Everywhere Parser.IsFaithful p := fun q hq => (hp q hq).2
  constructor
  · intro limit c s v rest h
    have hmatch := hderives limit c s v rest h
    exact ⟨hmatch.before rfl, (hmatch.spells hfaithful).matchedText⟩
  · intro engine limit text s v h hv
    obtain ⟨rest, hrest, hend⟩ := Engine.exists_matched_of_matchAll h hv
    have hmatch := hderives limit _ s v rest hrest
    have hspells := hmatch.spells hfaithful
    rw [Cursor.textTo_of_atEnd (hmatch.before rfl) hend] at hspells
    exact hspells.matchedText

theorem matchedText_of_matched_groups :
    let scope : Scope := fun _ _ => some groups
    ∃ v rest, (groups.run scope 30 (.start "(1())2") {}).outcome = .matched v rest ∧
      ({} : Store).matchedText 20 v = .ok "(1())2" := by
  intro scope
  have hnodes : ∀ q ∈ groups.subtrees, q.isPlain = true ∧ q.IsFaithful := by
    simp only [groups, Parser.subtrees, Parser.subtreesIn, List.cons_append, List.nil_append,
      List.append_nil, List.forall_mem_cons, List.not_mem_nil, false_implies, implies_true,
      and_true, Parser.isPlain, true_and, Parser.IsFaithful, Parser.format?, Option.some.injEq,
      forall_eq', reduceCtorEq]
    exact ⟨.identity, .identity, .unwrap, .identity, .identity, .matchedText, .identity⟩
  have hgroups : scope.Everywhere (fun q => q.isPlain = true ∧ q.IsFaithful) groups :=
    Scope.everywhere_of_subtrees hnodes fun _ _ r hr => Option.some.inj hr ▸ hnodes
  obtain ⟨hmatch, -⟩ := matchedText_of_matched hgroups
  exact ⟨_, _, rfl, (hmatch 30 (.start "(1())2") {} _ _ rfl).2 {} 20⟩

/-! ### Results that nest too deeply -/

/-- Sequences of one child inside each other, around a letter. -/
def nestedSequences : Nat → Parser
  | 0 => .literal "x" .identity
  | n + 1 => .sequence [nestedSequences n] .identity

/-- The value of a match of such sequences. -/
def nestedLists : Nat → Value
  | 0 => .tagged .literal (.text "x")
  | n + 1 => .tagged .sequence (.list [nestedLists n])

theorem joinDepth_nestedLists (n : Nat) : (nestedLists n).joinDepth = 3 * n + 2 := by
  induction n with
  | zero => rfl
  | succ n ih =>
    rw [nestedLists, Value.joinDepth_tagged, Value.joinDepth_list_cons, Value.joinDepth_nil, ih]
    omega

theorem spells_nestedLists (n : Nat) : Spells (nestedLists n) "x" := by
  induction n with
  | zero => exact .tagged _ (.text "x")
  | succ n ih => exact .tagged _ (by simpa using Spells.cons ih .nil)

/-- A recursion limit above their depth is enough to match nested sequences. -/
theorem ends_nestedSequences {n limit : Nat} (h : n < limit) (s : Store) :
    ((nestedSequences n).run scope limit (.start "x")).Ends s
      (.matched (nestedLists n) ((Cursor.start "x").forward 1)) s := by
  obtain ⟨limit, rfl⟩ := Nat.exists_eq_add_one_of_ne_zero (Nat.ne_zero_of_lt h)
  induction n generalizing limit with
  | zero => exact Matcher.ends_literal_iff.2 (Or.inl ⟨rfl, .value rfl⟩)
  | succ n ih =>
    obtain ⟨limit, rfl⟩ := Nat.exists_eq_add_one_of_ne_zero (n := limit) (by omega)
    rw [nestedSequences, Parser.run_sequence, Matcher.sequence_eq_row, Matcher.row_cons,
      Run.ends_branch_iff]
    refine Or.inl ⟨_, _, s, ih limit (by omega), ?_⟩
    rw [Matcher.row_nil, Run.ends_formatted_iff]
    exact .value rfl

/-- Nested sequences can be matched under the usual recursion limit, and still the texts of the
result cannot be joined under it. -/
theorem matchedText_nestedSequences :
    let scope : Scope := fun _ _ => none
    scope.Everywhere (fun q => q.isPlain = true ∧ q.IsFaithful) (nestedSequences 400) ∧
      ∃ v rest,
        ((nestedSequences 400).run scope recursionLimit (.start "x") {}).outcome =
          .matched v rest ∧
        (Cursor.start "x").textTo rest = "x" ∧
        ({} : Store).matchedText recursionLimit v = .error .recursionLimit := by
  intro scope
  constructor
  · have h : scope.Everywhere (fun q => ∃ n, q = nestedSequences n) (nestedSequences 400) := by
      refine .of_closed ⟨400, rfl⟩ ?_ (fun _ _ _ _ hr => by cases hr)
      rintro _ ⟨n, rfl⟩ r hr
      cases n with
      | zero => cases hr
      | succ n => exact ⟨n, List.mem_singleton.1 hr⟩
    intro q hq
    obtain ⟨n, rfl⟩ := h q hq
    cases n with
    | zero => exact ⟨rfl, fun _ hf => Option.some.inj hf ▸ .identity⟩
    | succ n => exact ⟨rfl, fun _ hf => Option.some.inj hf ▸ .identity⟩
  · refine ⟨_, _, (ends_nestedSequences (by decide) _).1, rfl, ?_⟩
    rw [(spells_nestedLists 400).matchedText, if_neg]
    rw [joinDepth_nestedLists]
    decide

end GrammarKit
