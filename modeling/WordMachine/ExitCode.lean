import WordMachine.Word

/-!
Exit codes. Ten words stop the machine when they are fetched as instructions: those with a decimal
digit in the highest four bits and zeros below. Main statement: a custom exit is
recognized in the word that stands for it.
-/

set_option autoImplicit false

namespace WordMachine

inductive ExitCode where
  /-- An empty cell was fetched. -/
  | noInstructions
  /-- A division had a zero divisor. -/
  | divisionByZero
  /-- The program asked to halt; the digit is meant to lie between 2 and 9. -/
  | custom (digit : UInt8)
deriving DecidableEq

namespace ExitCode

def custom? (digit : Nat) : Option ExitCode :=
  if 2 ≤ digit ∧ digit ≤ 9 then some (.custom (UInt8.ofNat digit)) else none

def ofWord? (word : Word) : Option ExitCode :=
  if word.bits.extractLsb' 0 12 = 0 then
    match (word.bits.extractLsb' 12 4).toNat with
    | 0 => some .noInstructions
    | 1 => some .divisionByZero
    | digit => custom? digit
  else none

def digit : ExitCode → Nat
  | noInstructions => 0
  | divisionByZero => 1
  | custom digit => digit.toNat

def toWord (code : ExitCode) : Word := Word.ofNat (code.digit * 0x1000)

def reason : ExitCode → String
  | noInstructions => "No instructions left to execute."
  | divisionByZero => "Division by zero."
  | custom digit =>
    s!"Custom I/O exit code 0x{String.ofList (Numeral.upperDigits 16 digit.toNat)}000."

def render (code : ExitCode) : String := s!"0x{String.ofList code.toWord.hex}: {code.reason}"

def inspect : ExitCode → String
  | noInstructions => "NoInstructions"
  | divisionByZero => "DivisionByZero"
  | custom digit => s!"Custom({digit.toNat})"

theorem ofWord?_toWord_custom {digit : Nat} (least : 2 ≤ digit) (most : digit ≤ 9) :
    ofWord? (toWord (.custom (UInt8.ofNat digit))) = some (.custom (UInt8.ofNat digit)) := by
  have : digit = 2 ∨ digit = 3 ∨ digit = 4 ∨ digit = 5 ∨ digit = 6 ∨ digit = 7 ∨ digit = 8 ∨
      digit = 9 := by omega
  rcases this with rfl | rfl | rfl | rfl | rfl | rfl | rfl | rfl <;> decide

end ExitCode

end WordMachine
