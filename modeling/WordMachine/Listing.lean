import WordMachine.ExitCode
import WordMachine.Instruction

/-!
Words as assembly text. Every word has a line of text that assembles to it: exit codes are written
as directives, all other words as instructions.
-/

set_option autoImplicit false

namespace WordMachine.Listing

def line (word : Word) : Text :=
  match ExitCode.ofWord? word with
  | some .noInstructions => "halt".toList
  | some .divisionByZero => ".word 0x1000".toList
  | some (.custom digit) => "exit ".toList ++ Numeral.digits 10 digit.toNat
  | none => (Instruction.decode word).render

def header : Text := "; Zedecim Disassembly\n; -------------------\n\n".toList

/-- An address, the text of its word, and the word itself as a comment. -/
def row (address : Nat) (word : Word) : Text :=
  Numeral.hex4 address ++ ": ".toList ++ (line word).padRight 20 ++ " ; ".toList ++ word.hex
    ++ ['\n']

def render (words : List Word) : Text :=
  header ++ words.zipIdx.flatMap fun (word, address) => row address word

end WordMachine.Listing
