/-!
# The language of arithmetic

Which texts are expressions, and which integers they denote. An expression is a sum of terms, a term
is a product of factors, and a factor is a number or an expression in parentheses. The operators of
a chain are applied from left to right.

* `Operator` — the operators, with their symbols and what they compute;
* `Chain` — sums and products;
* `Phrase` — the kinds of texts;
* `Denotes` — a text is a phrase of a kind and denotes an integer;
* `Phrase.EndsBefore` — a phrase would not go on with the text that follows.
-/

namespace GrammarKit.Arithmetic

/-- The operators. -/
inductive Operator where
  | plus
  | minus
  | times
deriving DecidableEq

/-- The kinds of chains: the operands of a product are factors, those of a sum are products. -/
inductive Chain where
  | product
  | sum
deriving DecidableEq

namespace Operator

/-- The character that stands for the operator. -/
def symbol : Operator → Char
  | plus => '+'
  | minus => '-'
  | times => '*'

/-- What the operator computes. -/
def apply : Operator → Int → Int → Int
  | plus, m, n => m + n
  | minus, m, n => m - n
  | times, m, n => m * n

/-- The chains in which the operator stands. -/
def chain : Operator → Chain
  | plus | minus => .sum
  | times => .product

end Operator

/-- The kinds of texts. -/
inductive Phrase where
  | number
  | factor
  | chain (chain : Chain)
  /-- The operators of a chain that are left, with their operands, after those that gave `total`. -/
  | steps (chain : Chain) (total : Int)

/-- A product of factors. -/
abbrev Phrase.term : Phrase := chain .product

/-- A sum of terms. -/
abbrev Phrase.expr : Phrase := chain .sum

/-- The kind of the operands of a chain. -/
def Chain.operand : Chain → Phrase
  | product => .factor
  | sum => .term

/-- The text is a phrase of the kind, and the integer is what it denotes. -/
inductive Denotes : Phrase → List Char → Int → Prop
  -- A number is zero, or a row of digits that does not start with zero.
  | zero : Denotes .number ['0'] 0
  | digits {d ds} (hd : d.isDigit = true) (hzero : d ≠ '0') (hds : ∀ e ∈ ds, e.isDigit = true) :
      Denotes .number (d :: ds) (Nat.ofDigitChars 10 (d :: ds) 0)
  -- A factor is a number, or an expression in parentheses.
  | number {u n} (h : Denotes .number u n) : Denotes .factor u n
  | group {u n} (h : Denotes .expr u n) : Denotes .factor ('(' :: (u ++ [')'])) n
  -- A chain is an operand and any number of steps, and each step goes on with the value so far.
  | chain {chain u v m n} (h : Denotes (Chain.operand chain) u m)
      (hsteps : Denotes (.steps chain m) v n) : Denotes (.chain chain) (u ++ v) n
  | done {chain m} : Denotes (.steps chain m) [] m
  | step {chain op u v m k n} (hop : Operator.chain op = chain)
      (h : Denotes (Chain.operand chain) u k)
      (hsteps : Denotes (.steps chain (op.apply m k)) v n) :
      Denotes (.steps chain m) (op.symbol :: (u ++ v)) n

/-- A single digit other than zero is a number. -/
theorem denotes_digit {d : Char} (hd : d.isDigit = true) (hzero : d ≠ '0') :
    Denotes .factor [d] (Nat.ofDigitChars 10 [d] 0) :=
  .number (.digits hd hzero fun _ he => absurd he List.not_mem_nil)

/-- A factor is a term. -/
theorem Denotes.term {u : List Char} {n : Int} (h : Denotes .factor u n) : Denotes .term u n := by
  have hterm : Denotes .term (u ++ []) n := .chain h .done
  rwa [List.append_nil] at hterm

/-! ### Where phrases end -/

/-- A phrase of the kind could go on with the character. -/
def Phrase.GoesOnWith : Phrase → Char → Prop
  | number, char | factor, char => char.isDigit = true
  | chain .product, char | steps .product _, char => char.isDigit = true ∨ char = '*'
  | chain .sum, char | steps .sum _, char =>
    char.isDigit = true ∨ char = '*' ∨ char = '+' ∨ char = '-'

/-- A phrase of the kind could not go on with the text. -/
def Phrase.EndsBefore (p : Phrase) (w : List Char) : Prop :=
  ∀ char, w.head? = some char → ¬ p.GoesOnWith char

theorem Phrase.endsBefore_nil (p : Phrase) : p.EndsBefore [] := nofun

theorem Phrase.endsBefore_cons {p : Phrase} {char : Char} {w : List Char} :
    p.EndsBefore (char :: w) ↔ ¬ p.GoesOnWith char := by
  simp [EndsBefore]

/-- Nothing goes on with a closing parenthesis. -/
theorem Phrase.endsBefore_close (p : Phrase) (w : List Char) : p.EndsBefore (')' :: w) := by
  rw [endsBefore_cons]
  rcases p with _ | _ | (_ | _) | ⟨_ | _, _⟩ <;> simp [GoesOnWith]

/-- Where steps end does not depend on the total. -/
theorem Phrase.endsBefore_steps_iff {kind : Chain} {m : Int} {w : List Char} :
    (steps kind m).EndsBefore w ↔ (chain kind).EndsBefore w := by
  cases kind with
  | product => exact Iff.rfl
  | sum => exact Iff.rfl

/-- Where a chain ends, its last operand ends. -/
theorem Chain.operand_endsBefore {chain : Chain} {m : Int} {w : List Char}
    (h : (Phrase.steps chain m).EndsBefore w) : chain.operand.EndsBefore w := by
  intro char hchar hgoes
  cases chain with
  | product => exact h char hchar (Or.inl hgoes)
  | sum => exact h char hchar (hgoes.imp_right Or.inl)

/-- Where a chain ends, none of its operators follows. -/
theorem Chain.symbol_ne_head {chain : Chain} {m : Int} {w : List Char}
    (h : (Phrase.steps chain m).EndsBefore w) {op : Operator} (hop : op.chain = chain) :
    w.head? ≠ some op.symbol := by
  intro hhead
  refine h _ hhead ?_
  subst hop
  cases op <;> simp [Operator.chain, Operator.symbol, Phrase.GoesOnWith]

/-- An operand ends before the operators of its chain. -/
theorem Chain.operand_endsBefore_symbol {op : Operator} (w : List Char) :
    op.chain.operand.EndsBefore (op.symbol :: w) := by
  rw [Phrase.endsBefore_cons]
  cases op <;> simp [Operator.chain, Operator.symbol, Chain.operand, Phrase.GoesOnWith]

/-- An operand ends before the steps after it. -/
theorem Denotes.operand_endsBefore {chain : Chain} {m n : Int} {v w : List Char}
    (h : Denotes (.steps chain m) v n) (hw : (Phrase.steps chain m).EndsBefore w) :
    chain.operand.EndsBefore (v ++ w) := by
  cases h with
  | done => exact Chain.operand_endsBefore hw
  | step hop =>
    subst hop
    exact Chain.operand_endsBefore_symbol _

end GrammarKit.Arithmetic
