import GrammarKit.Proofs.Arithmetic.Parsing
import GrammarKit.Proofs.Adequacy
import GrammarKit.Proofs.WholeSource

/-!
# Arithmetic is evaluated as it denotes

The parser of expressions reads exactly the texts that are expressions, and gives the integers that
they denote.

* `Denotes.isRead` — a phrase is read as what it denotes, wherever it could not go on;
* `Phrase.IsDecided` — the parser reads a phrase as what it denotes, or has a mismatch;
* `isDecided_expr` — at each cursor one of the two is the case for expressions;
* `Denotes.unique` — an expression denotes one integer only;
* `exprVerdict` — what the default engine says of a whole source;
* `exprVerdict_result` — the integer that the source denotes, or the marker for no match.
-/

namespace GrammarKit.Arithmetic

open Formatter (identity)

variable {digitLimit : Nat} {c : Cursor}

/-! ### Phrases are read -/

/-- **A phrase is read as what it denotes**, wherever it could not go on. -/
theorem Denotes.isRead {p : Phrase} {u w : List Char} {n : Int} (h : Denotes p u n)
    (hahead : c.ahead = u ++ w) (hw : p.EndsBefore w) (hlimit : c.remaining ≤ digitLimit) :
    p.IsRead digitLimit c u n := by
  induction h generalizing c w with
  | zero => exact isRead_zero hahead (Nat.le_trans (Cursor.length_le_remaining hahead) hlimit)
  | digits hd hzero hds =>
    exact isRead_digits hahead hd hzero hds hw
      (Nat.le_trans (Cursor.length_le_remaining hahead) hlimit)
  | number _ ih => exact isRead_factor_of_number (ih hahead hw hlimit)
  | @group u n _ ih =>
    have hgroup : c.ahead = '(' :: (u ++ ')' :: w) := by simpa using hahead
    have hinside := Nat.le_trans (c.remaining_forward_le 1) hlimit
    exact isRead_group hgroup
      (ih (Cursor.ahead_forward_cons hgroup) (Phrase.endsBefore_close _ _) hinside)
  | @chain chain u v m n _ hsteps ih ihsteps =>
    have hends : (Phrase.steps chain m).EndsBefore w := Phrase.endsBefore_steps_iff.2 hw
    have hrest := Nat.le_trans (c.remaining_forward_le u.length) hlimit
    rw [List.append_assoc] at hahead
    exact isRead_chain (ih hahead (hsteps.operand_endsBefore hends) hlimit)
      (ihsteps (Cursor.ahead_forward_append hahead) hends hrest)
  | done =>
    refine isRead_done (misses_step_of_symbol fun op hop => ?_)
    rw [hahead]
    exact Chain.symbol_ne_head hw hop
  | @step chain op u v m k n hop _ hsteps ih ihsteps =>
    subst hop
    have hends : (Phrase.steps op.chain (op.apply m k)).EndsBefore w :=
      Phrase.endsBefore_steps_iff.2 (Phrase.endsBefore_steps_iff.1 hw)
    have hstep : c.ahead = op.symbol :: (u ++ (v ++ w)) := by simpa using hahead
    have hoperand := Cursor.ahead_forward_cons hstep
    have hinside := Nat.le_trans (c.remaining_forward_le 1) hlimit
    have hrest := Nat.le_trans (c.remaining_forward_le (op.symbol :: u).length) hlimit
    exact isRead_step hstep (ih hoperand (hsteps.operand_endsBefore hends) hinside)
      (ihsteps (Cursor.ahead_forward_append hstep) hends hrest)

/-! ### Every outcome is a phrase or a mismatch -/

/-- The parser for a kind of phrases has a mismatch, or reads a phrase that lies ahead as what it
denotes. -/
def Phrase.IsDecided (digitLimit : Nat) (p : Phrase) (c : Cursor) : Prop :=
  Misses (scope digitLimit) (.apply (p.parser digitLimit)) c ∨
    ∃ u w n, c.ahead = u ++ w ∧ Denotes p u n ∧ p.IsRead digitLimit c u n

theorem isDecided_number (hlimit : c.remaining ≤ digitLimit) :
    Phrase.number.IsDecided digitLimit c := by
  cases hahead : c.ahead with
  | nil => exact Or.inl (misses_number (by simp [hahead]))
  | cons d rest =>
    by_cases hd : d.isDigit = true
    · by_cases hzero : d = '0'
      · subst hzero
        have hpos := Nat.le_trans (Cursor.length_le_remaining (u := ['0']) hahead) hlimit
        exact Or.inr ⟨['0'], rest, 0, hahead, .zero, isRead_zero hahead hpos⟩
      · -- The digits go on as long as they can.
        have hsplit : c.ahead =
            d :: (rest.takeWhile Char.isDigit ++ rest.dropWhile Char.isDigit) := by
          rw [hahead, List.takeWhile_append_dropWhile]
        have hds : ∀ e ∈ rest.takeWhile Char.isDigit, e.isDigit = true :=
          List.all_eq_true.1 List.all_takeWhile
        have hends : Phrase.number.EndsBefore (rest.dropWhile Char.isDigit) := by
          intro char hchar
          have h : char.isDigit = false := by
            simpa [hchar] using List.head?_dropWhile_not Char.isDigit rest
          exact Bool.eq_false_iff.1 h
        refine Or.inr ⟨_, _, _, hsplit, .digits hd hzero hds, ?_⟩
        exact isRead_digits hsplit hd hzero hds hends
          (Nat.le_trans (Cursor.length_le_remaining hsplit) hlimit)
    · refine Or.inl (misses_number fun char hchar => ?_)
      rw [hahead, List.head?_cons, Option.some.injEq] at hchar
      exact hchar ▸ Bool.eq_false_iff.2 hd

theorem isDecided_factor (hlimit : c.remaining ≤ digitLimit)
    (hexpr : ∀ w, c.ahead = '(' :: w → Phrase.expr.IsDecided digitLimit (c.forward 1)) :
    Phrase.factor.IsDecided digitLimit c := by
  rcases isDecided_number hlimit with hnumber | ⟨u, w, n, hahead, hdenotes, hread⟩
  · -- Without a number there is a group, or nothing.
    have hfactor (hgroup : Misses (scope digitLimit) (.apply group) c) :
        Phrase.factor.IsDecided digitLimit c :=
      Or.inl fun s => .alternation (.choiceNext (hnumber s) (.choiceNext (hgroup s) .choiceEnd))
    by_cases hopen : ∃ w, c.ahead = '(' :: w
    · obtain ⟨w, hahead⟩ := hopen
      rcases hexpr w hahead with hmiss | ⟨u, v, n, hinside, hdenotes, hread⟩
      · exact hfactor fun s => .sequence
          (.rowNext (reads_open hahead s) (.rowMiss (.reference rfl rfl (hmiss s))))
      · by_cases hclose : ∃ w, v = ')' :: w
        · obtain ⟨w, rfl⟩ := hclose
          rw [← Cursor.ahead_forward_cons hahead, hinside] at hahead
          refine Or.inr ⟨'(' :: (u ++ [')']), w, n, by simpa using hahead, .group hdenotes, ?_⟩
          exact isRead_group hahead hread
        · have hmiss : Misses (scope digitLimit) (.apply (.literal ")" identity))
              ((c.forward 1).forward u.length) := by
            refine misses_literal fun ⟨w, hw⟩ => hclose ⟨w, ?_⟩
            rw [← Cursor.ahead_forward_append hinside, ← hw]
            rfl
          exact hfactor fun s => .sequence (.rowNext (reads_open hahead s)
            (.rowNext (.reference rfl rfl (hread s)) (.rowMiss (hmiss s))))
    · have hmiss : Misses (scope digitLimit) (.apply (.literal "(" identity)) c :=
        misses_literal fun ⟨w, hw⟩ => hopen ⟨w, hw.symm⟩
      exact hfactor fun s => .sequence (.rowMiss (hmiss s))
  · exact Or.inr ⟨u, w, n, hahead, .number hdenotes, isRead_factor_of_number hread⟩

/-- The steps that lie ahead are read as far as they go, provided that operands are decided. -/
theorem exists_isRead_steps {chain : Chain} (m : Int)
    (hoperand : ∀ d : Cursor, d.remaining ≤ c.remaining →
      chain.operand.IsDecided digitLimit d) :
    ∃ u w n, c.ahead = u ++ w ∧ Denotes (.steps chain m) u n ∧
      (Phrase.steps chain m).IsRead digitLimit c u n := by
  induction hn : c.remaining using Nat.strong_induction_on generalizing c m with
  | _ k ih =>
    by_cases hsymbol : ∃ op : Operator, op.chain = chain ∧ ∃ w, c.ahead = op.symbol :: w
    · obtain ⟨op, rfl, w, hahead⟩ := hsymbol
      have hless : (c.forward 1).remaining < c.remaining := by
        rw [← Cursor.length_ahead c, Cursor.remaining_forward, ← Cursor.length_ahead, hahead]
        simp
      rcases hoperand (c.forward 1) hless.le with hmiss | ⟨u, v, k, hinside, hdenotes, hread⟩
      · exact ⟨[], c.ahead, m, rfl, .done, isRead_done (misses_step_of_operand hahead hmiss)⟩
      · rw [Cursor.ahead_forward_cons hahead] at hinside
        subst hinside
        have hrest : (c.forward (op.symbol :: u).length).remaining < c.remaining := by
          rw [Cursor.remaining_forward] at hless ⊢
          rw [List.length_cons]
          omega
        obtain ⟨u', w, n, hahead', hsteps, hread'⟩ :=
          ih _ (hn ▸ hrest) (op.apply m k) (fun d hd => hoperand d (hd.trans hrest.le)) rfl
        rw [← List.cons_append] at hahead
        rw [Cursor.ahead_forward_append hahead] at hahead'
        subst hahead'
        exact ⟨op.symbol :: (u ++ u'), w, n, by simpa using hahead, .step rfl hdenotes hsteps,
          isRead_step hahead hread hread'⟩
    · have hmiss : Misses (scope digitLimit) (.apply chain.step) c := by
        refine misses_step_of_symbol fun op hop hhead => ?_
        exact hsymbol ⟨op, hop, List.head?_eq_some_iff.1 hhead⟩
      exact ⟨[], c.ahead, m, rfl, .done, isRead_done hmiss⟩

theorem isDecided_chain {chain : Chain}
    (hoperand : ∀ d : Cursor, d.remaining ≤ c.remaining → chain.operand.IsDecided digitLimit d) :
    (Phrase.chain chain).IsDecided digitLimit c := by
  rcases hoperand c (Nat.le_refl _) with hmiss | ⟨u, w, m, hahead, hdenotes, hread⟩
  · have hrow : Misses (scope digitLimit) (.apply (chainOf chain.operandName chain.symbols)) c :=
      fun s => .sequence (.rowMiss (Chain.derives_operand (hmiss s)))
    cases chain with
    | product => exact Or.inl hrow
    | sum => exact Or.inl hrow
  · have hrest := c.remaining_forward_le u.length
    obtain ⟨v, w', n, hahead', hsteps, hread'⟩ :=
      exists_isRead_steps m fun d hd => hoperand d (hd.trans hrest)
    rw [Cursor.ahead_forward_append hahead] at hahead'
    subst hahead'
    exact Or.inr ⟨u ++ v, w', n, by rw [hahead, List.append_assoc], .chain hdenotes hsteps,
      isRead_chain hread hread'⟩

/-- **The parser of expressions is decided everywhere.** The induction goes over what is left of the
source, which is less inside a group. -/
theorem isDecided_expr (hlimit : c.remaining ≤ digitLimit) :
    Phrase.expr.IsDecided digitLimit c := by
  induction hn : c.remaining using Nat.strong_induction_on generalizing c with
  | _ k ih =>
    have hfactor : ∀ d : Cursor, d.remaining ≤ c.remaining →
        Phrase.factor.IsDecided digitLimit d := by
      intro d hd
      refine isDecided_factor (hd.trans hlimit) fun w hahead => ?_
      have hpos : 0 < d.remaining := by
        rw [← Cursor.length_ahead, hahead]
        exact Nat.succ_pos _
      have hinside := Cursor.remaining_forward d 1
      exact ih (d.forward 1).remaining (by omega) (by omega) rfl
    have hterm : ∀ d : Cursor, d.remaining ≤ c.remaining → Phrase.term.IsDecided digitLimit d :=
      fun d hd => isDecided_chain fun e he => hfactor e (he.trans hd)
    exact isDecided_chain hterm

/-! ### Whole expressions -/

/-- A text denotes at most one integer as an expression. -/
theorem Denotes.unique {u : List Char} {m n : Int} (hm : Denotes .expr u m)
    (hn : Denotes .expr u n) : m = n := by
  let c := Cursor.start (String.ofList u)
  have hahead : c.ahead = u ++ [] := by
    rw [Cursor.ahead_start, String.toList_ofList, List.append_nil]
  have hread := hm.isRead hahead (Phrase.endsBefore_nil _) (Nat.le_refl c.remaining)
  have hread' := hn.isRead hahead (Phrase.endsBefore_nil _) (Nat.le_refl c.remaining)
  obtain ⟨heq, -⟩ := (hread {}).unique (hread' {})
  cases heq
  rfl

/-- What the default engine says of a whole source, taken as an expression. -/
def exprVerdict (digitLimit limit : Nat) (text : String) (s : Store) : Verdict :=
  ({} : Engine).matchAll limit (expr.run (scope digitLimit) limit) (.text text) s

/-- Under large recursion limits the result is the integer that the source denotes, or the marker
for no match if it denotes none. -/
theorem eventually_result {text : String} (hlimit : text.length ≤ digitLimit)
    (hsize : text.length ≤ defaultMaxSourceSize) (s : Store) :
    (∃ n, Denotes .expr text.toList n ∧
      ∀ᶠ limit in Filter.atTop, (exprVerdict digitLimit limit text s).result = .ok (.int n)) ∨
    ((∀ n, ¬ Denotes .expr text.toList n) ∧
      ∀ᶠ limit in Filter.atTop, (exprVerdict digitLimit limit text s).result = .ok .noMatch) := by
  have haccepted : ({} : Engine).checkSize text.length = .ok () := by
    rw [Engine.checkSize_default, if_pos hsize]
  have hahead := Cursor.ahead_start text
  have hremaining : (Cursor.start text).remaining ≤ digitLimit := by
    rwa [← Cursor.length_ahead, hahead, String.length_toList]
  -- If the source denotes an integer, then that integer is read, up to the end.
  have hwhole : ∀ n, Denotes .expr text.toList n →
      Phrase.expr.IsRead digitLimit (.start text) text.toList n := fun n hn =>
    hn.isRead (by rw [hahead, List.append_nil]) (Phrase.endsBefore_nil _) hremaining
  rcases isDecided_expr hremaining with hmiss | ⟨u, w, n, hsplit, hdenotes, hread⟩
  · refine Or.inr ⟨fun n hn => ?_, ?_⟩
    · obtain ⟨heq, -⟩ := (hmiss s).unique (hwhole n hn s)
      cases heq
    · filter_upwards [(hmiss s).eventually_ends] with limit hends
      exact Engine.matchAll_of_mismatch haccepted hends
  · have hrest := Cursor.ahead_forward_append hsplit
    by_cases hw : w = []
    · subst hw
      have htext : text.toList = u := by rw [← hahead, hsplit, List.append_nil]
      refine Or.inl ⟨n, htext ▸ hdenotes, ?_⟩
      filter_upwards [(hread s).eventually_ends] with limit hends
      exact (Engine.matchAll_of_matched haccepted hends).trans
        (by rw [if_pos (Cursor.atEnd_iff_ahead.2 hrest)])
    · refine Or.inr ⟨fun m hm => hw ?_, ?_⟩
      · obtain ⟨heq, -⟩ := (hread s).unique (hwhole m hm s)
        rw [Outcome.matched.injEq] at heq
        rw [← hrest, heq.2, Cursor.ahead_forward, hahead, List.drop_length]
      · filter_upwards [(hread s).eventually_ends] with limit hends
        refine (Engine.matchAll_of_matched haccepted hends).trans ?_
        rw [if_neg fun hend => hw (hrest ▸ Cursor.atEnd_iff_ahead.1 hend)]

/-- **The value of a source.** Let integers of as many digits as the source has characters be read.
If the source is not too long for the engine, then under every recursion limit that is large enough
the result is the integer `n` exactly if the source is an expression that denotes `n`, and the
marker for no match if it is no expression. A longer source is refused. -/
theorem exprVerdict_result (text : String) (s : Store) (digitLimit : Nat)
    (hlimit : text.length ≤ digitLimit) :
    (text.length ≤ defaultMaxSourceSize → ∃ L, ∀ limit, L ≤ limit →
      (∀ n, (exprVerdict digitLimit limit text s).result = .ok (.int n) ↔
        Denotes .expr text.toList n) ∧
      ((∀ n, ¬ Denotes .expr text.toList n) →
        (exprVerdict digitLimit limit text s).result = .ok .noMatch)) ∧
    (defaultMaxSourceSize < text.length → ∀ limit,
      (exprVerdict digitLimit limit text s).result =
        .error (.sourceTooLong text.length "10,485,760")) := by
  constructor
  · intro hsize
    rcases eventually_result hlimit hsize s with ⟨n, hn, h⟩ | ⟨hnone, h⟩
    · obtain ⟨L, hL⟩ := Filter.eventually_atTop.1 h
      refine ⟨L, fun limit hlarge => ⟨fun m => ?_, fun hnone => absurd hn (hnone n)⟩⟩
      rw [hL limit hlarge]
      constructor
      · intro heq
        cases heq
        exact hn
      · intro hm
        rw [hn.unique hm]
    · obtain ⟨L, hL⟩ := Filter.eventually_atTop.1 h
      refine ⟨L, fun limit hlarge => ⟨fun m => ?_, fun _ => hL limit hlarge⟩⟩
      rw [hL limit hlarge]
      exact ⟨nofun, fun hm => absurd hm (hnone m)⟩
  · intro hsize limit
    refine Engine.matchAll_of_refused ?_
    rw [Engine.checkSize_default, if_neg (Nat.not_le.2 hsize)]

theorem exprVerdict_result_seven :
    ∃ L, ∀ limit, L ≤ limit → (exprVerdict 4300 limit "1+2*3" {}).result = .ok (.int 7) := by
  obtain ⟨h, -⟩ := exprVerdict_result "1+2*3" {} 4300 (by decide)
  obtain ⟨L, hL⟩ := h (by decide)
  refine ⟨L, fun limit hlarge => ((hL limit hlarge).1 7).2 ?_⟩
  have hone : Denotes .term ['1'] 1 := (denotes_digit (by decide) (by decide)).term
  have htwo : Denotes .factor ['2'] 2 := denotes_digit (by decide) (by decide)
  have hthree : Denotes .factor ['3'] 3 := denotes_digit (by decide) (by decide)
  have htimes : Denotes (.steps .product 2) (Operator.times.symbol :: (['3'] ++ [])) 6 :=
    .step rfl hthree .done
  have hproduct : Denotes .term (['2'] ++ Operator.times.symbol :: (['3'] ++ [])) 6 :=
    .chain htwo htimes
  have hplus : Denotes (.steps .sum 1)
      (Operator.plus.symbol :: ((['2'] ++ Operator.times.symbol :: (['3'] ++ [])) ++ [])) 7 :=
    .step rfl hproduct .done
  have hsum : Denotes .expr (['1'] ++ Operator.plus.symbol ::
      ((['2'] ++ Operator.times.symbol :: (['3'] ++ [])) ++ [])) 7 := .chain hone hplus
  exact hsum

/-! ### Sources that are too long -/

/-- A sum of ones. -/
def sumOfOnes (additions : Nat) : List Char :=
  '1' :: (List.replicate additions ['+', '1']).flatten

theorem length_sumOfOnes (additions : Nat) : (sumOfOnes additions).length = 2 * additions + 1 := by
  simp [sumOfOnes, Nat.mul_comm]

theorem denotes_sumOfOnes (additions : Nat) :
    Denotes .expr (sumOfOnes additions) (1 + additions) := by
  have hone : Denotes .term ['1'] 1 := (denotes_digit (by decide) (by decide)).term
  have hsteps : ∀ total : Int, Denotes (.steps .sum total)
      (List.replicate additions ['+', '1']).flatten (total + additions) := by
    induction additions with
    | zero =>
      intro total
      simpa using Denotes.done
    | succ additions ih =>
      intro total
      have hnext := ih (Operator.plus.apply total 1)
      have hvalue : Operator.plus.apply total 1 + additions = total + (additions + 1 : Nat) := by
        rw [Operator.apply]
        omega
      rw [hvalue] at hnext
      have hstep : Denotes (.steps .sum total)
          (Operator.plus.symbol :: (['1'] ++ (List.replicate additions ['+', '1']).flatten))
          (total + (additions + 1 : Nat)) := .step rfl hone hnext
      exact hstep
  have hsum : Denotes .expr (['1'] ++ (List.replicate additions ['+', '1']).flatten)
      (1 + additions) := .chain hone (hsteps 1)
  exact hsum

/-- A long sum of ones is an expression and is refused all the same. -/
theorem exprVerdict_sumOfOnes :
    Denotes .expr (sumOfOnes 5242880) 5242881 ∧ ∀ digitLimit limit s,
      (exprVerdict digitLimit limit (String.ofList (sumOfOnes 5242880)) s).result =
        .error (.sourceTooLong 10485761 "10,485,760") := by
  refine ⟨denotes_sumOfOnes 5242880, fun digitLimit limit s => ?_⟩
  have hlength : (String.ofList (sumOfOnes 5242880)).length = 10485761 := by
    rw [String.length_ofList, length_sumOfOnes]
  refine Engine.matchAll_of_refused ?_
  rw [hlength, Engine.checkSize_default, if_neg (by decide)]

end GrammarKit.Arithmetic
