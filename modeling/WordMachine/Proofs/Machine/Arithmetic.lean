import WordMachine.Proofs.Fields
import WordMachine.Proofs.Machine.Table

/-! Operations on words are operations on integers, reduced once. -/

set_option autoImplicit false

namespace WordMachine.Table

/-! ## Reduction -/

theorem toInt_ofInt_eq_signed (value : Int) : (Word.ofInt value).toInt = signed 0x10000 value := by
  rw [Word.toInt_ofInt, signed, Int.bmod]
  omega

/-- The representative is the one congruent number in the range of a word. -/
theorem signed_eq_iff {value representative : Int} :
    signed 0x10000 value = representative ↔
      -0x8000 ≤ representative ∧ representative < 0x8000 ∧
        representative ≡ value [ZMOD 0x10000] := by
  rw [signed, Int.ModEq]
  omega

theorem isZero_iff (word : Word) : word.isZero = true ↔ word.toInt = 0 := by
  rw [Word.isZero, decide_eq_true_iff]
  constructor
  · intro zero
    rw [zero]
    rfl
  · intro zero
    exact Word.toInt_injective zero

/-! ## Bits -/

private theorem getLsbD_ofInt (value : Int) (index : Nat) :
    (BitVec.ofInt 16 value).getLsbD index = (decide (index < 16) && value.testBit index) := by
  cases value with
  | ofNat value =>
    rw [Int.ofNat_eq_natCast, BitVec.ofInt_natCast, BitVec.getLsbD_ofNat]
    rfl
  | negSucc value =>
    rw [BitVec.ofInt_negSucc_eq_not_ofNat, BitVec.getLsbD_not, BitVec.getLsbD_ofNat]
    cases decide (index < 16) <;> rfl

private theorem testBit_toInt (word : Word) {index : Nat} (inside : index < 16) :
    word.toInt.testBit index = word.bits.getLsbD index := by
  have bits := getLsbD_ofInt word.bits.toInt index
  rw [BitVec.ofInt_toInt, decide_eq_true inside, Bool.true_and] at bits
  exact bits.symm

/-- An integer is reduced to the word with the same bits. -/
theorem ofInt_eq_of_testBit {value : Int} {word : Word}
    (same : ∀ index < 16, value.testBit index = word.bits.getLsbD index) :
    Word.ofInt value = word := by
  apply Word.ext_bits
  apply BitVec.eq_of_getLsbD_eq
  intro index inside
  rw [Word.ofInt, getLsbD_ofInt, same index inside, decide_eq_true inside, Bool.true_and]

theorem ofInt_land (left right : Word) :
    Word.ofInt (Int.land left.toInt right.toInt) = left &&& right := by
  apply ofInt_eq_of_testBit
  intro index inside
  rw [Int.testBit_land, testBit_toInt left inside, testBit_toInt right inside]
  exact BitVec.getLsbD_and.symm

theorem ofInt_lor (left right : Word) :
    Word.ofInt (Int.lor left.toInt right.toInt) = left ||| right := by
  apply ofInt_eq_of_testBit
  intro index inside
  rw [Int.testBit_lor, testBit_toInt left inside, testBit_toInt right inside]
  exact BitVec.getLsbD_or.symm

theorem ofInt_xor (left right : Word) :
    Word.ofInt (Int.xor left.toInt right.toInt) = left ^^^ right := by
  apply ofInt_eq_of_testBit
  intro index inside
  rw [Int.testBit_lxor, testBit_toInt left inside, testBit_toInt right inside]
  exact BitVec.getLsbD_xor.symm

theorem ofInt_complement (word : Word) : Word.ofInt (-word.toInt - 1) = ~~~word := by
  have swapped : -word.toInt - 1 = -1 - word.toInt := by omega
  rw [swapped, Word.ofInt_complement, Word.ofInt_toInt]

/-! ## Arithmetic -/

theorem ofInt_add_toInt (left right : Word) :
    Word.ofInt (left.toInt + right.toInt) = left + right := by
  rw [Word.ofInt_add, Word.ofInt_toInt, Word.ofInt_toInt]

theorem ofInt_mul_toInt (left right : Word) :
    Word.ofInt (left.toInt * right.toInt) = left * right := by
  rw [Word.ofInt_mul, Word.ofInt_toInt, Word.ofInt_toInt]

theorem ofInt_sub_toInt (left right : Word) :
    Word.ofInt (left.toInt - right.toInt) = left - right := by
  rw [Word.ofInt_sub, Word.ofInt_toInt, Word.ofInt_toInt]

theorem ofInt_shifted (word amount : Word) :
    Word.ofInt (State.shifted word.toInt amount.toInt) = word.shift amount := by
  rw [State.shifted, Word.shift]
  by_cases right : 0 ≤ amount.toInt
  · rw [if_pos right, if_pos right]
    have magnitude : amount.toInt.natAbs = amount.toInt.toNat := by omega
    apply Word.ext_bits
    show BitVec.ofInt 16 _ = _
    rw [magnitude, ← BitVec.ofInt_toInt (x := word.bits.sshiftRight amount.toInt.toNat),
      BitVec.toInt_sshiftRight, Int.shiftRight_eq_div_pow]
    rfl
  · rw [if_neg right, if_neg right]
    have magnitude : amount.toInt.natAbs = (-amount.toInt).toNat := by omega
    apply Word.ext_bits
    show BitVec.ofInt 16 _ = _
    rw [magnitude, BitVec.ofInt_mul, Word.toInt, BitVec.ofInt_toInt,
      BitVec.shiftLeft_eq_mul_twoPow]
    congr 1
    apply BitVec.eq_of_toNat_eq
    rw [BitVec.toNat_twoPow, BitVec.toNat_ofInt]
    norm_cast

theorem ofInt_sign (left right : Word) :
    Word.ofInt (left.toInt - right.toInt).sign = left.comparison right := by
  have order : compare left right = compare left.toInt right.toInt := rfl
  rw [Word.comparison, order]
  rcases Int.lt_trichotomy left.toInt right.toInt with less | equal | greater
  · rw [Int.compare_eq_lt.mpr less, Int.sign_eq_neg_one_of_neg (by omega)]
  · rw [Int.compare_eq_eq.mpr equal, equal, Int.sub_self]
    rfl
  · rw [Int.compare_eq_gt.mpr greater, Int.sign_eq_one_of_pos (by omega)]

end WordMachine.Table
