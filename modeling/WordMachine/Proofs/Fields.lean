import Mathlib
import WordMachine.ExitCode
import WordMachine.Instruction

/-! The bit fields of words as arithmetic. -/

set_option autoImplicit false

namespace WordMachine

private theorem toNat_append_eq_add {high low : Nat} (left : BitVec high) (right : BitVec low) :
    (left ++ right).toNat = left.toNat * 2 ^ low + right.toNat := by
  rw [BitVec.toNat_append, ← Nat.shiftLeft_add_eq_or_of_lt right.isLt, Nat.shiftLeft_eq]

theorem Word.toNat_injective {left right : Word} (same : left.toNat = right.toNat) :
    left = right := ext_bits (BitVec.eq_of_toNat_eq same)

theorem Word.toNat_lt (word : Word) : word.toNat < 0x10000 := word.bits.isLt

theorem Word.toNat_ofNat (value : Nat) : (ofNat value).toNat = value % 0x10000 :=
  BitVec.toNat_ofNat value 16

theorem Word.toNat_ofInt (value : Int) : (ofInt value).toNat = (value % 0x10000).toNat :=
  BitVec.toNat_ofInt value

theorem Word.toNat_extractLsb' (word : Word) (start length : Nat) :
    (word.bits.extractLsb' start length).toNat = word.toNat / 2 ^ start % 2 ^ length := by
  rw [BitVec.extractLsb'_toNat, Nat.shiftRight_eq_div_pow]
  rfl

namespace Instruction

theorem encode_ofRegisters {opcode : Opcode} (form : opcode.form = .registers)
    (r1 r2 r3 : Register) :
    (ofRegisters opcode r1 r2 r3).encode =
      Word.ofNat (0x1000 * r3.val + 0x100 * r2.val + 0x10 * r1.val + opcode.code.toNat) := by
  have first := r1.isLt
  have second := r2.isLt
  have third := r3.isLt
  have code := opcode.code.isLt
  apply Word.toNat_injective
  rw [Word.toNat_ofNat]
  simp only [encode, ofRegisters, form, Word.toNat, toNat_append_eq_add, Register.toBits,
    BitVec.toNat_ofFin]
  omega

/-- The word of an operation on a register and an immediate: a byte and two fields of four bits. -/
theorem encode_ofImmediate {opcode : Opcode} (form : opcode.form = .immediate)
    (register : Register) (value : Int) :
    (ofImmediate opcode register (Word.ofInt value)).encode =
      Word.ofInt (0x100 * value + 0x10 * (register.val : Int) + (opcode.code.toNat : Int)) := by
  have selector := register.isLt
  have code := opcode.code.isLt
  apply Word.toNat_injective
  rw [Word.toNat_ofInt]
  simp only [encode, ofImmediate, form, Word.toNat, toNat_append_eq_add, Register.toBits,
    BitVec.toNat_ofFin, BitVec.extractLsb'_toNat, Nat.shiftRight_zero, Word.ofInt,
    BitVec.toNat_ofInt]
  omega

private theorem byte_fits (byte : BitVec 8) :
    -128 ≤ (Word.mk (byte.signExtend 16)).toInt ∧ (Word.mk (byte.signExtend 16)).toInt ≤ 127 := by
  have same : (byte.signExtend 16).toInt = byte.toInt :=
    BitVec.toInt_signExtend_of_le (by decide)
  have lower := BitVec.le_toInt byte
  have upper := BitVec.toInt_lt (x := byte)
  rw [Word.toInt, same]
  omega

/-- Every word is an operation on registers or one with an immediate that fits. -/
theorem decode_cases (word : Word) :
    (∃ opcode r1 r2 r3, opcode.form = .registers ∧ decode word = ofRegisters opcode r1 r2 r3) ∨
      ∃ opcode register value, opcode.form = .immediate ∧ (-128 ≤ value ∧ value ≤ 127) ∧
        decode word = ofImmediate opcode register (Word.ofInt value) := by
  rw [decode]
  cases form : (Opcode.ofCode (word.bits.extractLsb' 0 4)).form with
  | registers => exact .inl ⟨_, _, _, _, form, rfl⟩
  | immediate =>
    refine .inr ⟨Opcode.ofCode (word.bits.extractLsb' 0 4),
      Register.ofBits (word.bits.extractLsb' 4 4), _, form,
      byte_fits (word.bits.extractLsb' 8 8), ?_⟩
    rw [Word.ofInt_toInt]

end Instruction

namespace ExitCode

/-- The codes that a word can stand for, by the digit in its highest four bits. -/
theorem ofWord?_eq (word : Word) :
    ofWord? word =
      if word.toNat % 0x1000 = 0 then
        match word.toNat / 0x1000 with
        | 0 => some .noInstructions
        | 1 => some .divisionByZero
        | digit => custom? digit
      else none := by
  have bound := word.toNat_lt
  have low : word.bits.extractLsb' 0 12 = 0 ↔ word.toNat % 0x1000 = 0 := by
    rw [← BitVec.toNat_inj, word.toNat_extractLsb']
    simp
  have high : (word.bits.extractLsb' 12 4).toNat = word.toNat / 0x1000 := by
    rw [word.toNat_extractLsb']
    omega
  unfold ofWord?
  exact ite_congr (propext low) (fun _ => high ▸ rfl) fun _ => rfl

/-- The word that a code is read from has the code's digit and zeros below it. -/
theorem toNat_of_ofWord? {word : Word} {code : ExitCode} (found : ofWord? word = some code) :
    word.toNat = 0x1000 * code.digit ∧
      ∀ digit, code = .custom digit → 2 ≤ digit.toNat ∧ digit.toNat ≤ 9 := by
  have bound := word.toNat_lt
  rw [ofWord?_eq] at found
  split at found
  next zeros =>
    split at found
    next high =>
      cases found
      exact ⟨by simp only [digit]; omega, nofun⟩
    next high =>
      cases found
      exact ⟨by simp only [digit]; omega, nofun⟩
    next =>
      unfold custom? at found
      split at found
      next inside =>
        cases found
        have digit : (UInt8.ofNat (word.toNat / 0x1000)).toNat = word.toNat / 0x1000 := by
          rw [UInt8.toNat_ofNat']
          omega
        refine ⟨?_, ?_⟩
        · rw [ExitCode.digit, digit]
          omega
        · intro other same
          cases same
          rw [digit]
          exact inside
      next => cases found
  next => cases found

/-- Exactly ten words stand for a code. -/
theorem ofWord?_isSome_iff (word : Word) :
    (ofWord? word).isSome = true ↔ ∃ digit ≤ 9, word = Word.ofNat (0x1000 * digit) := by
  have bound := word.toNat_lt
  constructor
  · intro found
    rw [ofWord?_eq] at found
    split at found
    next zeros =>
      refine ⟨word.toNat / 0x1000, ?_, ?_⟩
      · split at found
        next digit => omega
        next digit => omega
        next =>
          unfold custom? at found
          split at found
          next inside => exact inside.2
          next => cases found
      · apply Word.toNat_injective
        rw [Word.toNat_ofNat]
        omega
    next => cases found
  · intro known
    obtain ⟨digit, most, rfl⟩ := known
    have known : ∀ digit : Fin 10, (ofWord? (Word.ofNat (0x1000 * digit.val))).isSome = true := by
      decide
    exact known ⟨digit, by omega⟩

end ExitCode

end WordMachine
