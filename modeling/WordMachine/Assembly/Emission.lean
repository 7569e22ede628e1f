import WordMachine.Assembly.Layout
import WordMachine.ExitCode

/-!
The words of a program. Once every label is known each statement puts its word after the words so
far, and an origin fills up with zeros. An instruction may not come out as an exit code.
-/

set_option autoImplicit false

namespace WordMachine.Assembly

def resize (output : Array Word) (size : Nat) : Array Word :=
  output.take size ++ Array.replicate (size - output.size) Word.zero

/-- The word of a data value, signed or unsigned. -/
def dataWord (value : Int) : Except Cause Word :=
  if -0x8000 ≤ value ∧ value < 0x10000 then .ok (Word.ofInt value)
  else .error (.valueOutOfRange value)

def exitWord (value : Int) : Except Cause Word :=
  match if 0 ≤ value then ExitCode.custom? value.toNat else none with
  | some code => .ok code.toWord
  | none => .error (.valueOutOfRange value)

/-- The word of an instruction, unless it is an exit code. -/
def instructionWord (instruction : Instruction) : Except Cause Word :=
  let word := instruction.encode
  match ExitCode.ofWord? word with
  | none => .ok word
  | some _ => .error (.reservedEncoding word)

def emit (symbols : Symbols) (output : Array Word) : Statement Nat → Except Cause (Array Word)
  | .origin target => .ok (resize output target)
  | .halt => .ok (output.push ExitCode.noInstructions.toWord)
  | .data operand => do
    let value ← operandValue symbols operand
    let word ← dataWord value
    .ok (output.push word)
  | .exit operand => do
    let value ← operandValue symbols operand
    let word ← exitWord value
    .ok (output.push word)
  | .instruction opcode operands => do
    let instruction ← instructionOf symbols output.size opcode operands
    let word ← instructionWord instruction
    .ok (output.push word)

/-- The words after a placed statement; the number of its line goes with the error. -/
def emitPlaced (symbols : Symbols) (output : Array Word) (placed : Placed) :
    Except Error (Array Word) :=
  (emit symbols output placed.statement).mapError fun cause => ⟨placed.line, cause⟩

def Layout.emit (layout : Layout) : Except Error (Array Word) :=
  layout.placed.foldlM (emitPlaced layout.symbols) #[]

end WordMachine.Assembly
