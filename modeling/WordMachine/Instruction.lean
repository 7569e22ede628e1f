import WordMachine.Opcode
import WordMachine.Register

/-!
Instructions and their one-word encoding. The low four bits hold the operation's code. An operation
on registers has its three selectors above it, first to third; the others have one selector and a
signed byte. Main statements: decoding a word and encoding the instruction gives the word back, and
an instruction in the form of its operation is decoded from its word.
-/

set_option autoImplicit false

namespace WordMachine

/-- An operation with its operands. Operands that its form does not use are zero in a decoded
instruction and are ignored by the encoding. -/
structure Instruction where
  opcode : Opcode
  r1 : Register
  r2 : Register
  r3 : Register
  immediate : Word
deriving DecidableEq

namespace Instruction

def ofRegisters (opcode : Opcode) (r1 r2 r3 : Register) : Instruction :=
  ⟨opcode, r1, r2, r3, Word.zero⟩

def ofImmediate (opcode : Opcode) (r2 : Register) (immediate : Word) : Instruction :=
  ⟨opcode, Register.first, r2, Register.first, immediate⟩

def immediateFits (value : Int) : Bool := -128 ≤ value && value ≤ 127

def decode (word : Word) : Instruction :=
  let opcode := Opcode.ofCode (word.bits.extractLsb' 0 4)
  match opcode.form with
  | .registers =>
    ofRegisters opcode (Register.ofBits (word.bits.extractLsb' 4 4))
      (Register.ofBits (word.bits.extractLsb' 8 4)) (Register.ofBits (word.bits.extractLsb' 12 4))
  | .immediate =>
    ofImmediate opcode (Register.ofBits (word.bits.extractLsb' 4 4))
      ⟨(word.bits.extractLsb' 8 8).signExtend 16⟩

/-- The word that stands for an instruction; of the immediate only the low byte counts. -/
def encode (instruction : Instruction) : Word :=
  match instruction.opcode.form with
  | .registers =>
    ⟨instruction.r3.toBits ++ instruction.r2.toBits ++ instruction.r1.toBits
      ++ instruction.opcode.code⟩
  | .immediate =>
    ⟨instruction.immediate.bits.extractLsb' 0 8 ++ instruction.r2.toBits
      ++ instruction.opcode.code⟩

/-- The instruction in assembly text. A complement is written with two registers when its third
is `r0`. -/
def render (instruction : Instruction) : Text :=
  let name := instruction.opcode.mnemonic ++ [' ']
  let operands := match instruction.opcode.form with
    | .registers =>
      if instruction.opcode = .not ∧ instruction.r3 = Register.first then
        [instruction.r1.name, instruction.r2.name]
      else [instruction.r1.name, instruction.r2.name, instruction.r3.name]
    | .immediate => [instruction.r2.name, instruction.immediate.decimal]
  name ++ Text.joinWith [',', ' '] operands

private theorem append_selectors (bits : BitVec 16) :
    (bits.extractLsb' 12 4 ++ bits.extractLsb' 8 4 ++ bits.extractLsb' 4 4
      ++ bits.extractLsb' 0 4 : BitVec 16) = bits := by
  rw [BitVec.extractLsb'_append_extractLsb'_eq_extractLsb' (show 12 = 8 + 4 by rfl),
    BitVec.extractLsb'_append_extractLsb'_eq_extractLsb' (show 8 = 4 + 4 by rfl)]
  exact BitVec.extractLsb'_append_extractLsb'

private theorem append_byte (bits : BitVec 16) :
    (bits.extractLsb' 8 8 ++ bits.extractLsb' 4 4 ++ bits.extractLsb' 0 4 : BitVec 16) = bits := by
  rw [BitVec.extractLsb'_append_extractLsb'_eq_extractLsb' (show 8 = 4 + 4 by rfl)]
  exact BitVec.extractLsb'_append_extractLsb'

private theorem signExtend_low (byte : BitVec 8) : (byte.signExtend 16).extractLsb' 0 8 = byte := by
  revert byte
  decide

theorem encode_decode (word : Word) : (decode word).encode = word := by
  apply Word.ext_bits
  unfold decode
  cases form : (Opcode.ofCode (word.bits.extractLsb' 0 4)).form with
  | registers =>
    simp only [form, encode, ofRegisters, Opcode.code_ofCode, Register.toBits_ofBits]
    exact append_selectors word.bits
  | immediate =>
    have byte : (BitVec.signExtend 16 (word.bits.extractLsb' 8 8)).extractLsb' 0 8 =
        word.bits.extractLsb' 8 8 := signExtend_low _
    simp only [form, encode, ofImmediate, Opcode.code_ofCode, Register.toBits_ofBits, byte]
    exact append_byte word.bits

theorem decode_encode_ofRegisters {opcode : Opcode} (form : opcode.form = .registers)
    (r1 r2 r3 : Register) :
    decode (ofRegisters opcode r1 r2 r3).encode = ofRegisters opcode r1 r2 r3 := by
  have word : (ofRegisters opcode r1 r2 r3).encode =
      ⟨r3.toBits ++ r2.toBits ++ r1.toBits ++ opcode.code⟩ := by
    simp [encode, ofRegisters, form]
  have code : (r3.toBits ++ r2.toBits ++ r1.toBits ++ opcode.code).extractLsb' 0 4 =
      opcode.code := BitVec.extractLsb'_append_eq_right
  have first : (r3.toBits ++ r2.toBits ++ r1.toBits ++ opcode.code).extractLsb' 4 4 =
      r1.toBits :=
    (BitVec.extractLsb'_append_eq_of_le (by decide)).trans BitVec.extractLsb'_append_eq_right
  have second : (r3.toBits ++ r2.toBits ++ r1.toBits ++ opcode.code).extractLsb' 8 4 =
      r2.toBits :=
    ((BitVec.extractLsb'_append_eq_of_le (by decide)).trans
      (BitVec.extractLsb'_append_eq_of_le (by decide))).trans BitVec.extractLsb'_append_eq_right
  have third : (r3.toBits ++ r2.toBits ++ r1.toBits ++ opcode.code).extractLsb' 12 4 =
      r3.toBits :=
    ((BitVec.extractLsb'_append_eq_of_le (by decide)).trans
      (BitVec.extractLsb'_append_eq_of_le (by decide))).trans BitVec.extractLsb'_append_eq_left
  rw [word]
  simp only [decode, code, first, second, third, Opcode.ofCode_code, form, Register.ofBits_toBits]

private theorem signExtend_extractLsb' {value : Int} (fits : immediateFits value = true) :
    ((BitVec.ofInt 16 value).extractLsb' 0 8).signExtend 16 = BitVec.ofInt 16 value := by
  simp only [immediateFits, Bool.and_eq_true, decide_eq_true_eq] at fits
  have low : (BitVec.ofInt 16 value).extractLsb' 0 8 = BitVec.ofInt 8 value := by
    apply BitVec.eq_of_toNat_eq
    simp only [BitVec.extractLsb'_toNat, BitVec.toNat_ofInt, Nat.shiftRight_zero]
    omega
  apply BitVec.eq_of_toInt_eq
  have byte : value.bmod 256 = value := Int.bmod_eq_of_le (by omega) (by omega)
  have whole : value.bmod 65536 = value := Int.bmod_eq_of_le (by omega) (by omega)
  rw [low, BitVec.toInt_signExtend, BitVec.toInt_ofInt, BitVec.toInt_ofInt]
  show (value.bmod 256).bmod 256 = value.bmod 65536
  rw [byte, byte, whole]

theorem decode_encode_ofImmediate {opcode : Opcode} (form : opcode.form = .immediate)
    (register : Register) {value : Int} (fits : immediateFits value = true) :
    decode (ofImmediate opcode register (Word.ofInt value)).encode =
      ofImmediate opcode register (Word.ofInt value) := by
  have word : (ofImmediate opcode register (Word.ofInt value)).encode =
      ⟨(BitVec.ofInt 16 value).extractLsb' 0 8 ++ register.toBits ++ opcode.code⟩ := by
    simp [encode, ofImmediate, form, Word.ofInt]
  have code : ((BitVec.ofInt 16 value).extractLsb' 0 8 ++ register.toBits ++
      opcode.code).extractLsb' 0 4 = opcode.code := BitVec.extractLsb'_append_eq_right
  have selector : ((BitVec.ofInt 16 value).extractLsb' 0 8 ++ register.toBits ++
      opcode.code).extractLsb' 4 4 = register.toBits :=
    (BitVec.extractLsb'_append_eq_of_le (by decide)).trans BitVec.extractLsb'_append_eq_right
  have byte : ((BitVec.ofInt 16 value).extractLsb' 0 8 ++ register.toBits ++
      opcode.code).extractLsb' 8 8 = (BitVec.ofInt 16 value).extractLsb' 0 8 :=
    (BitVec.extractLsb'_append_eq_of_le (by decide)).trans BitVec.extractLsb'_append_eq_left
  rw [word]
  simp only [decode, code, selector, byte, Opcode.ofCode_code, form, Register.ofBits_toBits,
    signExtend_extractLsb' fits, Word.ofInt]

end Instruction

end WordMachine
