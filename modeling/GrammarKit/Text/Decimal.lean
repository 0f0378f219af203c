/-!
# Decimal digits of long numbers

Reading and writing in base ten with a number of steps on large numbers that grows slowly with the
number of digits.

* `positional` — the number that a row of digits denotes;
* `pairwise` — the same number, found by joining neighbouring digits again and again;
* `decimal`, `integerText` — the digits of a number, written block by block.
-/

namespace GrammarKit.Text

/-! ### Reading -/

/-- The number that digits in a base denote, the last one first. -/
def positional (base : Nat) (digits : List Nat) : Nat :=
  digits.foldr (fun digit value => base * value + digit) 0

/-- The digits in the square of a base. -/
def paired (base : Nat) : List Nat → List Nat
  | low :: high :: digits => (base * high + low) :: paired base digits
  | digits => digits

/-- Pairing the digits keeps the number. -/
theorem positional_paired (base : Nat) (digits : List Nat) :
    positional (base * base) (paired base digits) = positional base digits := by
  fun_induction paired base digits with
  | case1 low high digits ih =>
    simp only [positional, List.foldr_cons] at ih ⊢
    rw [ih, Nat.mul_add, Nat.mul_assoc, Nat.add_assoc]
  | case2 digits h =>
    match digits, h with
    | [], _ => rfl
    | [d], _ => simp [positional]
    | a :: b :: r, h => exact absurd rfl (h a b r)

/-- The number that digits in a base denote. Each of the `rounds` leaves half as many digits in the
square of the base, so that few products of large numbers are needed. -/
def pairwise : (rounds base : Nat) → List Nat → Nat
  | 0, base, digits => positional base digits
  | _ + 1, _, [] => 0
  | _ + 1, _, [digit] => digit
  | rounds + 1, base, digits => pairwise rounds (base * base) (paired base digits)

/-- Any number of rounds gives the number. -/
theorem pairwise_eq (rounds base : Nat) (digits : List Nat) :
    pairwise rounds base digits = positional base digits := by
  fun_induction pairwise rounds base digits with
  | case1 => rfl
  | case2 => rfl
  | case3 => simp [positional]
  | case4 rounds base digits _ _ ih => rw [ih, positional_paired]

/-! ### Writing -/

/-- The last `width` decimal digits of a number, with zeros in front if it has fewer. -/
def lastDigits : (width n : Nat) → List Char
  | 0, _ => []
  | width + 1, n => lastDigits width (n / 10) ++ [Nat.digitChar (n % 10)]

/-- The digits of a number are those of its upper part and the last ones of its lower part. -/
theorem toDigits_append_lastDigits (width : Nat) {n : Nat} (hn : 0 < n) (r : Nat)
    (hr : r < Nat.pow 10 width) :
    Nat.toDigits 10 n ++ lastDigits width r = Nat.toDigits 10 (Nat.pow 10 width * n + r) := by
  induction width generalizing r with
  | zero =>
    have : r = 0 := by simpa using hr
    simp [lastDigits, this]
  | succ width ih =>
    have hpow : Nat.pow 10 (width + 1) = 10 * Nat.pow 10 width := by
      rw [Nat.mul_comm]
      rfl
    have hr' : r / 10 < Nat.pow 10 width := by omega
    have hpos : 0 < Nat.pow 10 width * n + r / 10 :=
      Nat.add_pos_left (Nat.mul_pos (Nat.pow_pos (by decide)) hn) _
    rw [lastDigits, ← List.append_assoc, ih _ hr',
      ← Nat.toDigits_of_lt_base (Nat.mod_lt r (by decide : 0 < 10)),
      Nat.toDigits_append_toDigits (by decide) hpos (Nat.mod_lt _ (by decide)), hpow,
      Nat.mul_add, Nat.mul_assoc, Nat.add_assoc, Nat.div_add_mod]

/-- The number of digits that are written at a time. -/
def blockWidth : Nat := 18

/-- The least number with more digits than a block. -/
def blockSize : Nat := Nat.pow 10 blockWidth

/-- The decimal text of a number, of which up to `blocks` blocks are taken from the end. -/
def decimalFrom : (blocks n : Nat) → String
  | 0, n => toString n
  | blocks + 1, n =>
    if n < blockSize then toString n
    else decimalFrom blocks (n / blockSize) ++ String.ofList (lastDigits blockWidth (n % blockSize))

/-- Any number of blocks gives the decimal text. -/
theorem decimalFrom_eq (blocks n : Nat) : decimalFrom blocks n = toString n := by
  induction blocks generalizing n with
  | zero => rfl
  | succ blocks ih =>
    unfold decimalFrom
    split
    · rfl
    · next h =>
      have hpos : 0 < blockSize := Nat.pow_pos (by decide)
      rw [ih, Nat.toString_eq_repr, Nat.toString_eq_repr, Nat.repr_eq_ofList_toDigits,
        Nat.repr_eq_ofList_toDigits, ← String.ofList_append, toDigits_append_lastDigits]
      · rw [← blockSize, Nat.div_add_mod]
      · exact Nat.div_pos (by omega) hpos
      · exact Nat.mod_lt _ hpos

/-- The decimal text of a natural number. -/
def decimal (n : Nat) : String :=
  decimalFrom n.log2 n

/-- The decimal text of an integer. -/
def integerText : Int → String
  | .ofNat n => decimal n
  | .negSucc n => "-" ++ decimal (n + 1)

@[simp] theorem decimal_eq (n : Nat) : decimal n = toString n :=
  decimalFrom_eq _ n

@[simp] theorem integerText_eq (n : Int) : integerText n = toString n := by
  cases n <;> simp [integerText] <;> rfl

end GrammarKit.Text
