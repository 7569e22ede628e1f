import WordMachine.Proofs.Machine.Arithmetic

/-! Words as integers modulo 2^16. Every operator commutes with the reduction of integers to words,
so an expression of any depth can be computed in integers and reduced once, at the end. A shift is
a division by a power of two, whichever way it goes, and of all quotients only that of the lowest
word by -1 is reduced. -/

set_option autoImplicit false

namespace WordMachine

/-! ## Expressions -/

inductive Expression where
  | leaf (value : Int)
  | add (left right : Expression)
  | sub (left right : Expression)
  | mul (left right : Expression)
  | neg (operand : Expression)
  | complement (operand : Expression)

namespace Expression

/-- The exact value, of any size. -/
def integer : Expression → Int
  | leaf value => value
  | add left right => left.integer + right.integer
  | sub left right => left.integer - right.integer
  | mul left right => left.integer * right.integer
  | neg operand => -operand.integer
  | complement operand => -1 - operand.integer

/-- The value in which every leaf and every intermediate result is a word. -/
def word : Expression → Word
  | leaf value => Word.ofInt value
  | add left right => left.word + right.word
  | sub left right => left.word - right.word
  | mul left right => left.word * right.word
  | neg operand => -operand.word
  | complement operand => ~~~operand.word

private theorem word_eq_ofInt (expression : Expression) :
    expression.word = Word.ofInt expression.integer := by
  induction expression with
  | leaf value => rfl
  | add left right leftIH rightIH => rw [word, integer, leftIH, rightIH, Word.ofInt_add]
  | sub left right leftIH rightIH => rw [word, integer, leftIH, rightIH, Word.ofInt_sub]
  | mul left right leftIH rightIH => rw [word, integer, leftIH, rightIH, Word.ofInt_mul]
  | neg operand ih => rw [word, integer, ih, Word.ofInt_neg]
  | complement operand ih => rw [word, integer, ih, Word.ofInt_complement]

private theorem toInt_word (expression : Expression) :
    expression.word.toInt = Table.signed 0x10000 expression.integer := by
  rw [word_eq_ofInt, Table.toInt_ofInt_eq_signed]

end Expression

/-! ## Shifts -/

/-- To the right, the division is rounded down; to the left, it comes out even. -/
theorem Table.State.shifted_eq_floor (value amount : Int) :
    Table.State.shifted value amount = ⌊(value : ℚ) / 2 ^ amount⌋ := by
  rw [Table.State.shifted]
  split
  next right =>
    obtain ⟨places, rfl⟩ := Int.eq_ofNat_of_zero_le right
    have power : (2 : ℚ) ^ (places : ℤ) = ((2 ^ places : ℕ) : ℚ) := by
      rw [zpow_natCast, Nat.cast_pow, Nat.cast_ofNat]
    rw [power, Rat.floor_intCast_div_natCast, Int.toNat_natCast]
    norm_cast
  next left =>
    obtain ⟨places, flipped⟩ := Int.eq_ofNat_of_zero_le (show 0 ≤ -amount by omega)
    have power : (2 : ℚ) ^ amount = (2 ^ places)⁻¹ := by
      rw [← neg_neg amount, flipped, zpow_neg, zpow_natCast]
    have product : (value : ℚ) / (2 ^ places)⁻¹ = ((value * 2 ^ places : ℤ) : ℚ) := by
      rw [div_inv_eq_mul]
      push_cast
      rfl
    rw [power, product, Int.floor_intCast, flipped, Int.toNat_natCast]

namespace Word

variable (word : Word)

private theorem toInt_shift (amount : Word) : (word.shift amount).toInt =
    Table.signed 0x10000 (Table.State.shifted word.toInt amount.toInt) := by
  rw [← Table.ofInt_shifted, Table.toInt_ofInt_eq_signed]

section

variable {amount : Word}

/-- From fifteen places on, every bit is a copy of the sign. -/
theorem toInt_shift_of_right (far : 15 ≤ amount.toInt) :
    (word.shift amount).toInt = if word.toInt < 0 then -1 else 0 := by
  have power : (2 : Int) ^ 15 ≤ 2 ^ amount.toInt.toNat :=
    pow_le_pow_right₀ (by decide) (by omega)
  have below := word.toInt_lt
  have above := word.le_toInt
  rw [toInt_shift, Table.State.shifted, if_pos (by omega)]
  split
  next negative =>
    rw [Int.ediv_eq_neg_one_of_neg_of_le negative (by omega)]
    rfl
  next nonnegative =>
    rw [Int.ediv_eq_zero_of_lt (by omega) (by omega)]
    rfl

private theorem shift_of_left (far : amount.toInt ≤ -16) : word.shift amount = zero := by
  rw [shift, if_neg (by omega)]
  exact ext_bits (BitVec.shiftLeft_eq_zero (by omega))

end

/-- Fifteen places to the right and sixteen to the left are as good as all that lie beyond. -/
theorem shift_eq_clamped (amount : Word) :
    word.shift amount = word.shift (ofInt (max (-16) (min amount.toInt 15))) := by
  rcases lt_or_ge amount.toInt 15 with near | right
  · rcases lt_or_ge (-16) amount.toInt with inside | left
    · rw [min_eq_left near.le, max_eq_right inside.le, ofInt_toInt]
    · rw [min_eq_left near.le, max_eq_left left, shift_of_left word left]
      exact (shift_of_left word (by decide)).symm
  · apply toInt_injective
    rw [min_eq_right right, toInt_shift_of_right word right]
    exact (toInt_shift_of_right word (by decide)).symm

/-! ## Quotients -/

private theorem div?_eq_none_iff (dividend divisor : Word) :
    dividend.div? divisor = none ↔ divisor.toInt = 0 := by
  rw [div?, ← Table.isZero_iff]
  cases divisor.isZero <;> simp

private theorem div?_of_ne_zero (dividend : Word) {divisor : Word} (nonzero : divisor.toInt ≠ 0) :
    dividend.div? divisor = some (ofInt (dividend.toInt.tdiv divisor.toInt)) := by
  rw [div?, if_neg]
  rwa [Table.isZero_iff]

/-- Only the quotient of the lowest word by -1 has no word of its own. -/
theorem signed_tdiv_eq_iff (dividend divisor : Word) :
    Table.signed 0x10000 (dividend.toInt.tdiv divisor.toInt) = dividend.toInt.tdiv divisor.toInt ↔
      ¬(dividend.toInt = -0x8000 ∧ divisor.toInt = -1) := by
  have below := dividend.toInt_lt
  have above := dividend.le_toInt
  have size : (dividend.toInt.tdiv divisor.toInt).natAbs =
      dividend.toInt.natAbs / divisor.toInt.natAbs := Int.natAbs_tdiv _ _
  rw [Table.signed_eq_iff, and_iff_left (Int.ModEq.refl _)]
  by_cases unit : divisor.toInt.natAbs ≤ 1
  · have known : divisor.toInt = 0 ∨ divisor.toInt = 1 ∨ divisor.toInt = -1 := by omega
    rcases known with zero | one | minusOne
    · rw [zero, Int.tdiv_zero]
      omega
    · rw [one, Int.tdiv_one]
      omega
    · rw [minusOne, Int.tdiv_neg, Int.tdiv_one]
      omega
  · have half : dividend.toInt.natAbs / divisor.toInt.natAbs ≤ dividend.toInt.natAbs / 2 :=
      Nat.div_le_div_left (by omega) (by decide)
    omega

end Word

/-- Words compute as integers do that are reduced to the one representative from -32768 to 32767:
whole expressions, shifts by any amount, and quotients truncated toward zero, which exist for every
divisor but zero. -/
theorem words_are_reduced_integers :
    (∀ value representative : Int, Table.signed 0x10000 value = representative ↔
      -0x8000 ≤ representative ∧ representative < 0x8000 ∧
        representative ≡ value [ZMOD 0x10000]) ∧
    (∀ expression : Expression,
      expression.word.toInt = Table.signed 0x10000 expression.integer) ∧
    (∀ word amount : Word,
      (word.shift amount).toInt = Table.signed 0x10000 ⌊(word.toInt : ℚ) / 2 ^ amount.toInt⌋ ∧
      (amount.toInt < 0 → (word.shift amount).toInt =
        Table.signed 0x10000 (word.toInt * 2 ^ (-amount.toInt).toNat)) ∧
      word.shift amount = word.shift (Word.ofInt (max (-16) (min amount.toInt 15)))) ∧
    ∀ dividend divisor : Word,
      (dividend.div? divisor = none ↔ divisor.toInt = 0) ∧
      (divisor.toInt ≠ 0 → ∃ quotient, dividend.div? divisor = some quotient ∧
        quotient.toInt = Table.signed 0x10000 (dividend.toInt.tdiv divisor.toInt) ∧
        (quotient.toInt = dividend.toInt.tdiv divisor.toInt ↔
          ¬(dividend.toInt = -0x8000 ∧ divisor.toInt = -1))) := by
  refine ⟨fun _ _ => Table.signed_eq_iff, Expression.toInt_word, ?_, ?_⟩
  · intro word amount
    have reduced := word.toInt_shift amount
    refine ⟨?_, ?_, word.shift_eq_clamped amount⟩
    · rw [reduced, Table.State.shifted_eq_floor]
    · intro left
      rw [reduced, Table.State.shifted, if_neg (Int.not_le.mpr left)]
  · intro dividend divisor
    refine ⟨dividend.div?_eq_none_iff divisor, ?_⟩
    intro nonzero
    refine ⟨_, dividend.div?_of_ne_zero nonzero, Table.toInt_ofInt_eq_signed _, ?_⟩
    rw [Table.toInt_ofInt_eq_signed, Word.signed_tdiv_eq_iff]

/-- A product that is far outside the range of a word, with every other operator around it. -/
def lowestSquared : Expression :=
  .complement (.sub (.neg (.mul (.leaf 0x8000) (.leaf (-0x8000)))) (.add (.leaf 0x7FFF) (.leaf 2)))

theorem lowest_is_reduced_integer :
    lowestSquared.integer = -0x3FFF8000 ∧ lowestSquared.word.toInt = -0x8000 ∧
    (Word.ofInt (-15)).toInt < 0 ∧ ((Word.ofInt 3).shift (Word.ofInt (-15))).toInt = -0x8000 ∧
    (Word.ofInt (-1)).toInt ≠ 0 ∧ ∃ quotient,
      (Word.ofInt (-0x8000)).div? (Word.ofInt (-1)) = some quotient ∧ quotient.toInt = -0x8000 := by
  obtain ⟨-, expressions, shifts, quotients⟩ := words_are_reduced_integers
  have left : (Word.ofInt (-15)).toInt < 0 := by decide
  have nonzero : (Word.ofInt (-1)).toInt ≠ 0 := by decide
  obtain ⟨-, product, -⟩ := shifts (Word.ofInt 3) (Word.ofInt (-15))
  obtain ⟨-, divides⟩ := quotients (Word.ofInt (-0x8000)) (Word.ofInt (-1))
  obtain ⟨quotient, found, reduced, -⟩ := divides nonzero
  exact ⟨by decide, expressions lowestSquared, left, (product left).trans (by decide), nonzero,
    quotient, found, reduced⟩

end WordMachine
