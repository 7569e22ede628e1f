import WordMachine.Assembly.Statement
import WordMachine.Assembly.Symbols
import WordMachine.Instruction

/-!
The meaning of operands once the labels are known.
-/

set_option autoImplicit false

namespace WordMachine.Assembly

def labelAddress (symbols : Symbols) (operand : Text) : Except Cause Nat :=
  if isName operand then
    match symbols.address? operand with
    | some address => .ok address
    | none => .error (.undefinedLabel operand)
  else .error (.malformed (.operand operand))

/-- The number that an operand is, or what it stands for if it is none. -/
def numberOr (operand : Text) (other : Except Cause Int) : Except Cause Int := do
  match ← number? operand with
  | some value => .ok value
  | none => other

/-- The number that an operand is, or the address of the label that it names. -/
def operandValue (symbols : Symbols) (operand : Text) : Except Cause Int :=
  numberOr operand ((labelAddress symbols operand).map Int.ofNat)

def registerOperand (operand : Text) : Except Cause Register :=
  match Register.ofName operand with
  | .ok register => .ok register
  | .error _ => .error (.unknownRegister operand)

/-- The number that the immediate of an instruction at an address stands for, whether or not it
fits. A branch may name a label in place of a number; it stands for the distance from the branch. -/
def immediateValue (symbols : Symbols) (address : Nat) (opcode : Opcode) (operand : Text) :
    Except Cause Int :=
  numberOr operand <|
    if opcode = .apceq then
      (labelAddress symbols operand).map fun target : Nat => (target : Int) - address
    else .error (.malformed (.immediate operand))

def immediateOperand (symbols : Symbols) (address : Nat) (opcode : Opcode) (operand : Text) :
    Except Cause Word := do
  let value ← immediateValue symbols address opcode operand
  if Instruction.immediateFits value then .ok (Word.ofInt value)
  else .error (.valueOutOfRange value)

/-- The instruction at an address. A complement may leave out its third register. -/
def instructionOf (symbols : Symbols) (address : Nat) (opcode : Opcode) (operands : List Text) :
    Except Cause Instruction :=
  let onRegisters (r1 r2 r3 : Text) : Except Cause Instruction := do
    let r1 ← registerOperand r1
    let r2 ← registerOperand r2
    let r3 ← registerOperand r3
    .ok (Instruction.ofRegisters opcode r1 r2 r3)
  match opcode.form with
  | .registers =>
    match opcode, operands with
    | .not, [r1, r2] => onRegisters r1 r2 Register.first.name
    | _, [r1, r2, r3] => onRegisters r1 r2 r3
    | _, _ => .error (.malformed (.registers opcode))
  | .immediate =>
    match operands with
    | [register, immediate] => do
      let register ← registerOperand register
      let immediate ← immediateOperand symbols address opcode immediate
      .ok (Instruction.ofImmediate opcode register immediate)
    | _ => .error (.malformed (.registerAndImmediate opcode))

end WordMachine.Assembly
