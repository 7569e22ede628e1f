import WordMachine.Proofs.Console.ReadBack
import WordMachine.Proofs.Machine.MemoryReport

/-! What is printed of numbers, words and instructions. All of it consists of upright characters, so
on a screen it takes one place for each character. -/

set_option autoImplicit false

namespace WordMachine

open Numeral (WritesHex writesHex_padded)
open Text (Upright upright_of_ascii)

private theorem Text.upright_of_isAlphanum {char : Char} (alphanumeric : char.isAlphanum = true) :
    Upright char := by
  simp only [Char.isAlphanum, Char.isAlpha, Char.isUpper, Char.isLower, Char.isDigit,
    Bool.or_eq_true, Bool.and_eq_true, decide_eq_true_eq, ge_iff_le, UInt32.le_iff_toNat_le,
    Char.toNat_val, UInt32.reduceToNat, Char.reduceVal] at alphanumeric
  exact upright_of_ascii (by omega) (by omega)

private theorem Text.upright_of_isDigit {char : Char} (digit : char.isDigit = true) :
    Upright char :=
  upright_of_isAlphanum (by rw [Char.isAlphanum, digit, Bool.or_true])

theorem Numeral.upright_hex4 (value : Nat) : ∀ char ∈ hex4 value, Upright char := by
  intro char member
  have digit := (writesHex_padded 4 value).digits char member
  rw [isHexDigit, Bool.or_eq_true, Bool.and_eq_true, decide_eq_true_eq, decide_eq_true_eq] at digit
  rcases digit with digit | ⟨least, most⟩
  · exact Text.upright_of_isDigit digit
  · exact upright_of_ascii (Nat.le_trans (by decide) least) (Nat.lt_of_le_of_lt most (by decide))

private theorem Numeral.upright_decimal (value : Int) : ∀ char ∈ decimal value, Upright char := by
  intro char member
  rcases mem_decimal member with rfl | digit
  · exact upright_of_ascii (by decide) (by decide)
  · exact Text.upright_of_isDigit digit

private theorem Register.upright_name (register : Register) :
    ∀ char ∈ register.name, Upright char := by
  intro char member
  unfold name at member
  split at member
  next =>
    rw [List.mem_singleton.mp member]
    exact Text.upright_of_isAlphanum rfl
  next =>
    rcases List.mem_cons.mp member with rfl | digit
    · exact Text.upright_of_isAlphanum rfl
    · exact Text.upright_of_isDigit (Nat.isDigit_of_mem_toDigits (by decide) (by decide) digit)

private theorem Opcode.upright_mnemonic (opcode : Opcode) :
    ∀ char ∈ opcode.mnemonic, Upright char := by
  have known : opcode.mnemonic.all Char.isAlphanum = true := by cases opcode <;> decide +kernel
  exact fun char member => Text.upright_of_isAlphanum (List.all_eq_true.mp known char member)

private theorem Instruction.upright_render (instruction : Instruction) :
    ∀ char ∈ instruction.render, Upright char := by
  have joined {operands : List Text} (each : ∀ operand ∈ operands, ∀ char ∈ operand, Upright char)
      {char : Char} (member : char ∈ Text.joinWith [',', ' '] operands) : Upright char := by
    rcases Text.mem_joinWith member with between | ⟨operand, listed, inside⟩
    · simp only [List.mem_cons, List.not_mem_nil, or_false] at between
      rcases between with rfl | rfl <;> exact upright_of_ascii (by decide) (by decide)
    · exact each operand listed char inside
  intro char member
  simp only [render, List.mem_append] at member
  rcases member with (name | space) | operands
  · exact Opcode.upright_mnemonic _ char name
  · rw [List.mem_singleton.mp space]
    exact upright_of_ascii (by decide) (by decide)
  · refine joined ?_ operands
    intro operand listed
    split at listed
    next =>
      split at listed <;>
        simp only [List.mem_cons, List.not_mem_nil, or_false] at listed
      next => rcases listed with rfl | rfl <;> exact Register.upright_name _
      next => rcases listed with rfl | rfl | rfl <;> exact Register.upright_name _
    next =>
      simp only [List.mem_cons, List.not_mem_nil, or_false] at listed
      rcases listed with rfl | rfl
      · exact Register.upright_name _
      · exact Numeral.upright_decimal _

theorem Listing.upright_line (word : Word) : ∀ char ∈ line word, Upright char := by
  have plain {text : Text} (shown : text.all (fun char => decide (0x20 ≤ char.toNat ∧
      char.toNat < 0x7F)) = true) : ∀ char ∈ text, Upright char := by
    intro char member
    have bounds := of_decide_eq_true (List.all_eq_true.mp shown char member)
    exact upright_of_ascii bounds.1 bounds.2
  unfold line
  split
  next => exact plain (by decide +kernel)
  next => exact plain (by decide +kernel)
  next =>
    have directive : ∀ char ∈ "exit ".toList, Upright char := plain (by decide +kernel)
    intro char member
    rcases List.mem_append.mp member with name | number
    · exact directive char name
    · exact Text.upright_of_isDigit (Nat.isDigit_of_mem_toDigits (by decide) (by decide) number)
  next => exact Instruction.upright_render _

theorem Word.upright_format (word : Word) (radix : Radix) :
    ∀ char ∈ word.format radix, Upright char := by
  by_cases raw : radix = .decimal
  · subst raw
    exact Numeral.upright_decimal word.toInt
  · have sixteen : radix.base ≤ 16 := by cases radix <;> decide
    have alphanumeric := (word.writesDigits_format raw).isAlphanum sixteen
    exact fun char member => Text.upright_of_isAlphanum (alphanumeric char member)

end WordMachine
