import GrammarKit.Proofs.Arithmetic.Formatting

/-!
# How the parsers of arithmetic read

Each parser of arithmetic, in terms of the parsers inside it: when it reads a text as an integer,
and when it has a mismatch.

* `Phrase.parser` — the parser for a kind of phrases;
* `Phrase.IsRead` — it reads a text as an integer;
* `isRead_zero`, `isRead_digits`, `misses_number` — numbers;
* `isRead_factor_of_number`, `isRead_group` — factors;
* `isRead_chain`, `isRead_step`, `isRead_done` — chains and their steps.
-/

namespace GrammarKit.Arithmetic

open Formatter (identity unwrap integer foldChain second)

variable {digitLimit : Nat} {c : Cursor}

/-! ### The characters -/

theorem contains_digitClass (char : Char) :
    digitClass.contains char = true ↔ char.isDigit = true := by
  rw [Text.isDigit_iff]
  simp [digitClass, CharClass.contains, ClassItem.contains]

theorem contains_leadingClass (char : Char) :
    leadingClass.contains char = true ↔ char.isDigit = true ∧ char ≠ '0' := by
  have hzero : char ≠ '0' ↔ char.toNat ≠ 48 := Char.toNat_inj.symm.not
  rw [Text.isDigit_iff, hzero]
  simp [leadingClass, CharClass.contains, ClassItem.contains]
  omega

/-- The class of the operators of a chain. -/
def Chain.symbols : Chain → CharClass
  | product => productClass
  | sum => sumClass

theorem Chain.contains_symbols (chain : Chain) (char : Char) :
    chain.symbols.contains char = true ↔ ∃ op : Operator, op.chain = chain ∧ op.symbol = char := by
  have hchar (other : Char) : other = char ↔ char.toNat = other.toNat := by
    rw [eq_comm, ← Char.toNat_inj]
  constructor
  · intro h
    cases chain with
    | product =>
      refine ⟨.times, rfl, (hchar _).2 ?_⟩
      simp [Chain.symbols, productClass, CharClass.contains, ClassItem.contains] at h
      exact Nat.le_antisymm h.2 h.1
    | sum =>
      simp [Chain.symbols, sumClass, CharClass.contains, ClassItem.contains] at h
      rcases h with h | h
      · exact ⟨.plus, rfl, (hchar _).2 (Nat.le_antisymm h.2 h.1)⟩
      · exact ⟨.minus, rfl, (hchar _).2 (Nat.le_antisymm h.2 h.1)⟩
  · rintro ⟨op, rfl, rfl⟩
    cases op <;> rfl

/-! ### The parsers of phrases -/

/-- The name of the rule for the operands of a chain. -/
def Chain.operandName : Chain → String
  | product => "factor"
  | sum => "term"

/-- The parser for one step of a chain. -/
def Chain.step (chain : Chain) : Parser :=
  .sequence [.charClass chain.symbols identity, ref chain.operandName] unwrap

/-- The parser for a kind of phrases. -/
def Phrase.parser (digitLimit : Nat) : Phrase → Parser
  | number => Arithmetic.number digitLimit
  | factor => Arithmetic.factor digitLimit
  | chain .product => Arithmetic.term
  | chain .sum => Arithmetic.expr
  | steps kind _ => .repetition kind.step 0 identity

/-- The parser for a kind of phrases reads the text `u` as the integer `n`. Steps are read as a
list, which leads from their total to `n`. -/
def Phrase.IsRead (digitLimit : Nat) (c : Cursor) (u : List Char) (n : Int) : Phrase → Prop
  | steps kind total => ∃ values, applySteps total values = n ∧ ∀ before,
    Reads (scope digitLimit) (.loop kind.step 0 identity before) c
      (.tagged .repetition (.list (before ++ values.map stepValue))) (c.forward u.length)
  | number =>
    Reads (scope digitLimit) (.apply (Arithmetic.number digitLimit)) c (.int n) (c.forward u.length)
  | factor =>
    Reads (scope digitLimit) (.apply (Arithmetic.factor digitLimit)) c (.int n) (c.forward u.length)
  | chain kind =>
    Reads (scope digitLimit) (.apply ((Phrase.chain kind).parser digitLimit)) c (.int n)
      (c.forward u.length)

/-- A reference to the operands of a chain is their parser. -/
theorem Chain.derives_operand {chain : Chain} {s s' : Store} {o : Outcome Value}
    (h : Derives (scope digitLimit) (.apply (chain.operand.parser digitLimit)) c s o s') :
    Derives (scope digitLimit) (.apply (ref chain.operandName)) c s o s' := by
  cases chain with
  | product => exact .reference rfl rfl h
  | sum => exact .reference rfl rfl h

theorem Chain.reads_operand {chain : Chain} {u : List Char} {n : Int}
    (h : chain.operand.IsRead digitLimit c u n) :
    Reads (scope digitLimit) (.apply (ref chain.operandName)) c (.int n) (c.forward u.length) := by
  cases chain with
  | product => exact fun s => .reference rfl rfl (h s)
  | sum => exact fun s => .reference rfl rfl (h s)

/-! ### Numbers -/

/-- The value of a single character. -/
def charValue (char : Char) : Value :=
  .tagged .charClass (.text (String.singleton char))

theorem spells_charValues (ds : List Char) :
    Spells (.list (ds.map charValue)) (String.ofList ds) := by
  induction ds with
  | nil => exact .nil
  | cons d ds ih =>
    have h := Spells.cons (.tagged .charClass (.text (String.singleton d))) ih
    rwa [String.singleton_eq_ofList, ← String.ofList_append] at h

/-- A row of digits is read to its end. -/
theorem reads_digits (digitLimit : Nat) {ds w : List Char} (hahead : c.ahead = ds ++ w)
    (hds : ∀ d ∈ ds, d.isDigit = true) (hw : Phrase.number.EndsBefore w) (before : List Value) :
    Reads (scope digitLimit) (.loop digit 0 identity before) c
      (.tagged .repetition (.list (before ++ ds.map charValue))) (c.forward ds.length) := by
  induction ds generalizing c before with
  | nil =>
    have hmiss : Misses (scope digitLimit) (.apply digit) c := by
      refine misses_charClass fun char hchar => ?_
      rw [Bool.eq_false_iff, ne_eq, contains_digitClass]
      exact hw char (by rwa [hahead] at hchar)
    simpa using reads_loop_of_misses hmiss before
  | cons d ds ih =>
    intro s
    have hd : Reads (scope digitLimit) (.apply digit) c (charValue d) (c.forward 1) :=
      reads_charClass hahead ((contains_digitClass d).2 (hds d (List.mem_cons_self ..)))
        (Formatter.identity_gives _)
    have hmove : (c.forward 1).pos ≠ c.pos := by
      refine Cursor.forward_pos_ne Nat.one_pos ?_
      rw [← Cursor.length_ahead, hahead]
      exact Nat.succ_pos _
    have hrest := ih (Cursor.ahead_forward_cons hahead)
      (fun e he => hds e (List.mem_cons_of_mem _ he)) (before ++ [charValue d])
    rw [Cursor.forward_forward, List.append_assoc, Nat.add_comm] at hrest
    exact .loopNext (hd s) hmove (hrest s)

/-- Zero is read without a look at what follows. -/
theorem isRead_zero {w : List Char} (hahead : c.ahead = '0' :: w) (hlimit : 0 < digitLimit) :
    Phrase.number.IsRead digitLimit c ['0'] 0 := by
  intro s
  have hzero : Reads (scope digitLimit) (.apply (.literal "0" identity)) c
      (.tagged .literal (.text "0")) (c.forward 1) :=
    reads_literal (w := w) (by rw [hahead]; rfl) (Formatter.identity_gives _)
  have hvalue : (integer digitLimit).Gives
      (.tagged .alternation (.tagged .literal (.text "0"))) (.int (Nat.ofDigitChars 10 ['0'] 0)) :=
    integer_gives (.tagged _ (.tagged _ (.text "0"))) (by simp) hlimit
  exact .alternation (.choiceMatch (hzero s) (hvalue.shapes _ s))

theorem misses_zero {char : Char} {w : List Char} (hahead : c.ahead = char :: w)
    (hchar : char ≠ '0') : Misses (scope digitLimit) (.apply (.literal "0" identity)) c := by
  refine misses_literal ?_
  rw [hahead]
  simpa using hchar.symm

/-- A row of digits is read as the number that it is, where no digit follows. -/
theorem isRead_digits {d : Char} {ds w : List Char} (hahead : c.ahead = d :: (ds ++ w))
    (hd : d.isDigit = true) (hzero : d ≠ '0') (hds : ∀ e ∈ ds, e.isDigit = true)
    (hw : Phrase.number.EndsBefore w) (hlimit : (d :: ds).length ≤ digitLimit) :
    Phrase.number.IsRead digitLimit c (d :: ds) (Nat.ofDigitChars 10 (d :: ds) 0) := by
  intro s
  have hfirst : Reads (scope digitLimit) (.apply (.charClass leadingClass identity)) c
      (charValue d) (c.forward 1) :=
    reads_charClass hahead ((contains_leadingClass d).2 ⟨hd, hzero⟩) (Formatter.identity_gives _)
  have hrest : Reads (scope digitLimit) (.loop digit 0 identity []) (c.forward 1)
      (.tagged .repetition (.list (ds.map charValue))) (c.forward (d :: ds).length) := by
    have h := reads_digits digitLimit (Cursor.ahead_forward_cons hahead) hds hw []
    rwa [Cursor.forward_forward, Nat.add_comm, List.nil_append] at h
  have hvalue : (integer digitLimit).Gives
      (.tagged .alternation (.tagged .sequence
        (.list [charValue d, .tagged .repetition (.list (ds.map charValue))])))
      (.int (Nat.ofDigitChars 10 (d :: ds) 0)) := by
    refine integer_gives (.tagged _ (.tagged _ ?_)) (List.forall_mem_cons.2 ⟨hd, hds⟩) hlimit
    have h := (spells_charValues [d]).concat (.tagged .repetition (spells_charValues ds))
    rwa [← String.ofList_append] at h
  refine .alternation (.choiceNext (misses_zero hahead hzero s) (.choiceMatch (.sequence
    (.rowNext (hfirst s) (.rowNext (.repetition (hrest s)) (.rowEnd ?_)))) (hvalue.shapes _ s)))
  exact (Formatter.identity_gives _).shapes _ s

/-- Without a digit ahead there is no number. -/
theorem misses_number (h : ∀ char, c.ahead.head? = some char → char.isDigit = false) :
    Misses (scope digitLimit) (.apply (number digitLimit)) c := by
  intro s
  have hzero : Misses (scope digitLimit) (.apply (.literal "0" identity)) c := by
    refine misses_literal fun ⟨w, hw⟩ => ?_
    have hdigit := h '0' (by rw [← hw]; rfl)
    cases hdigit
  have hleading : Misses (scope digitLimit) (.apply (.charClass leadingClass identity)) c := by
    refine misses_charClass fun char hchar => Bool.eq_false_iff.2 fun hin => ?_
    rw [contains_leadingClass, h char hchar] at hin
    cases hin.1
  exact .alternation (.choiceNext (hzero s)
    (.choiceNext (.sequence (.rowMiss (hleading s))) .choiceEnd))

/-! ### Factors -/

theorem isRead_factor_of_number {u : List Char} {n : Int}
    (h : Phrase.number.IsRead digitLimit c u n) : Phrase.factor.IsRead digitLimit c u n :=
  fun s => .alternation (.choiceMatch (h s) ((Formatter.unwrap_gives _ _).shapes _ s))

theorem reads_open {w : List Char} (hahead : c.ahead = '(' :: w) :
    Reads (scope digitLimit) (.apply (.literal "(" identity)) c (.tagged .literal (.text "("))
      (c.forward 1) :=
  reads_literal (w := w) (by rw [hahead]; rfl) (Formatter.identity_gives _)

/-- An expression in parentheses is read as the expression. -/
theorem isRead_group {u w : List Char} {n : Int} (hahead : c.ahead = '(' :: (u ++ ')' :: w))
    (h : Phrase.expr.IsRead digitLimit (c.forward 1) u n) :
    Phrase.factor.IsRead digitLimit c ('(' :: (u ++ [')'])) n := by
  intro s
  have hnumber : Misses (scope digitLimit) (.apply (number digitLimit)) c := by
    refine misses_number fun char hchar => ?_
    rw [hahead, List.head?_cons, Option.some.injEq] at hchar
    subst hchar
    rfl
  have hclose : Reads (scope digitLimit) (.apply (.literal ")" identity))
      ((c.forward 1).forward u.length) (.tagged .literal (.text ")"))
      (c.forward ('(' :: (u ++ [')'])).length) := by
    have hrest := Cursor.ahead_forward_append (Cursor.ahead_forward_cons hahead)
    have hend : c.forward ('(' :: (u ++ [')'])).length =
        ((c.forward 1).forward u.length).forward 1 := by
      simp [Nat.add_comm, Nat.add_left_comm]
    rw [hend]
    exact reads_literal (w := w) (by rw [hrest]; rfl) (Formatter.identity_gives _)
  have hgroup : Derives (scope digitLimit) (.apply group) c s (.matched (.int n)
      (c.forward ('(' :: (u ++ [')'])).length)) s :=
    .sequence (.rowNext (reads_open hahead s) (.rowNext (.reference rfl rfl (h s))
      (.rowNext (hclose s) (.rowEnd ((second_gives _ _ _).shapes _ s)))))
  exact .alternation (.choiceNext (hnumber s)
    (.choiceMatch hgroup ((Formatter.unwrap_gives _ _).shapes _ s)))

/-! ### Chains -/

/-- A chain is read as the first operand, to which the steps are applied. -/
theorem isRead_chain {chain : Chain} {u v : List Char} {m n : Int}
    (h : chain.operand.IsRead digitLimit c u m)
    (hsteps : (Phrase.steps chain m).IsRead digitLimit (c.forward u.length) v n) :
    (Phrase.chain chain).IsRead digitLimit c (u ++ v) n := by
  intro s
  obtain ⟨values, rfl, hloop⟩ := hsteps
  have hrest := hloop [] s
  rw [Cursor.forward_forward, ← List.length_append, List.nil_append] at hrest
  have hrow : Derives (scope digitLimit) (.apply (chainOf chain.operandName chain.symbols)) c s
      (.matched (.int (applySteps m values)) (c.forward (u ++ v).length)) s :=
    .sequence (.rowNext (Chain.reads_operand h s) (.rowNext (.repetition hrest)
      (.rowEnd ((foldChain_gives m values).shapes _ s))))
  cases chain with
  | product => exact hrow
  | sum => exact hrow

/-- Where no step follows, the chain is over. -/
theorem isRead_done {chain : Chain} {m : Int}
    (hmiss : Misses (scope digitLimit) (.apply chain.step) c) :
    (Phrase.steps chain m).IsRead digitLimit c [] m := by
  refine ⟨[], rfl, fun before => ?_⟩
  simpa using reads_loop_of_misses hmiss before

theorem reads_symbol {op : Operator} {w : List Char} (hahead : c.ahead = op.symbol :: w) :
    Reads (scope digitLimit) (.apply (.charClass op.chain.symbols identity)) c
      (charValue op.symbol) (c.forward 1) :=
  reads_charClass hahead ((Chain.contains_symbols _ _).2 ⟨op, rfl, rfl⟩)
    (Formatter.identity_gives _)

/-- An operator and its operand are a step, after which the chain goes on. -/
theorem isRead_step {op : Operator} {u v w : List Char} {m k n : Int}
    (hahead : c.ahead = op.symbol :: (u ++ w))
    (h : op.chain.operand.IsRead digitLimit (c.forward 1) u k)
    (hsteps : (Phrase.steps op.chain (op.apply m k)).IsRead digitLimit
      (c.forward (op.symbol :: u).length) v n) :
    (Phrase.steps op.chain m).IsRead digitLimit c (op.symbol :: (u ++ v)) n := by
  obtain ⟨values, rfl, hloop⟩ := hsteps
  refine ⟨(op, k) :: values, rfl, fun before s => ?_⟩
  have hoperand := Chain.reads_operand h s
  rw [Cursor.forward_forward, Nat.add_comm] at hoperand
  have hstep : Derives (scope digitLimit) (.apply op.chain.step) c s
      (.matched (stepValue (op, k)) (c.forward (op.symbol :: u).length)) s :=
    .sequence (.rowNext (reads_symbol hahead s) (.rowNext hoperand
      (.rowEnd ((Formatter.unwrap_gives _ _).shapes _ s))))
  have hmove : (c.forward (op.symbol :: u).length).pos ≠ c.pos := by
    refine Cursor.forward_pos_ne (Nat.succ_pos _) ?_
    rw [← Cursor.length_ahead, hahead]
    exact Nat.succ_pos _
  have hrest := hloop (before ++ [stepValue (op, k)]) s
  rw [Cursor.forward_forward, ← List.length_append, List.append_assoc] at hrest
  exact .loopNext hstep hmove hrest

theorem misses_step_of_symbol {chain : Chain}
    (h : ∀ op : Operator, op.chain = chain → c.ahead.head? ≠ some op.symbol) :
    Misses (scope digitLimit) (.apply chain.step) c := by
  intro s
  have hsymbol : Misses (scope digitLimit) (.apply (.charClass chain.symbols identity)) c := by
    refine misses_charClass fun char hchar => Bool.eq_false_iff.2 fun hin => ?_
    obtain ⟨op, hop, rfl⟩ := (Chain.contains_symbols _ _).1 hin
    exact h op hop hchar
  exact .sequence (.rowMiss (hsymbol s))

/-- A dangling operator is not part of the chain. -/
theorem misses_step_of_operand {op : Operator} {w : List Char} (hahead : c.ahead = op.symbol :: w)
    (h : Misses (scope digitLimit) (.apply (op.chain.operand.parser digitLimit)) (c.forward 1)) :
    Misses (scope digitLimit) (.apply op.chain.step) c :=
  fun s => .sequence (.rowNext (reads_symbol hahead s) (.rowMiss (Chain.derives_operand (h s))))

end GrammarKit.Arithmetic
