import WordMachine.Opcode
import WordMachine.Word
import WordMachine.Text.Quoted

/-!
Why a text does not assemble. Every error has a line, counted from one, and a cause. All causes but
one are reported; at a number that has too many bits with its sign the assembler just stops.
-/

set_option autoImplicit false

namespace WordMachine.Assembly

/-- The words of the language that are not operations of the machine. -/
inductive Directive where
  | origin
  | data
  | exit
  | halt
deriving DecidableEq

def Directive.title : Directive → String
  | origin => "ORG"
  | data => "DAT"
  | exit => "EXIT"
  | halt => "HALT"

/-- A line that is not formed as the language asks. -/
inductive Malformed where
  | labelName (name : Text)
  | operandCount (directive : Directive)
  | originTarget (target : Text)
  | originBackwards (target address : Nat)
  | registers (opcode : Opcode)
  | registerAndImmediate (opcode : Opcode)
  | operand (text : Text)
  | immediate (text : Text)
deriving DecidableEq

def Malformed.message : Malformed → String
  | labelName name => s!"invalid label name {String.ofList name.quoted}"
  | operandCount .halt => "HALT takes no operands"
  | operandCount directive => s!"{directive.title} takes exactly one operand"
  | originTarget target =>
    s!"ORG target {String.ofList target} must be a number or a label defined above"
  | originBackwards target address => s!"ORG {target} would move backwards from {address}"
  | registers opcode => s!"{String.ofList opcode.mnemonic.upper} expects 3 registers"
  | registerAndImmediate opcode =>
    s!"{String.ofList opcode.mnemonic.upper} expects a register and an immediate"
  | operand text => s!"invalid operand {String.ofList text.quoted}"
  | immediate text => s!"invalid immediate {String.ofList text.quoted}"

inductive Cause where
  /-- A number that does not fit 64 bits once its sign is taken. It is a stop and no report. -/
  | overflow
  | malformed (reason : Malformed)
  | unknownMnemonic (name : Text)
  | unknownRegister (name : Text)
  | undefinedLabel (label : Text)
  | duplicateLabel (label : Text)
  | valueOutOfRange (value : Int)
  | reservedEncoding (word : Word)
deriving DecidableEq

structure Error where
  line : Nat
  cause : Cause
deriving DecidableEq

/-- The report of an error. -/
def Error.message? (error : Error) : Option String :=
  let line := error.line
  match error.cause with
  | .overflow => none
  | .malformed reason => s!"syntax error on line {line}: {reason.message}"
  | .unknownMnemonic name => s!"unknown mnemonic on line {line}: {String.ofList name}"
  | .unknownRegister name => s!"unknown register on line {line}: {String.ofList name}"
  | .undefinedLabel label => s!"undefined label on line {line}: {String.ofList label}"
  | .duplicateLabel label => s!"duplicate label on line {line}: {String.ofList label}"
  | .valueOutOfRange value => s!"value out of range on line {line}: {value}"
  | .reservedEncoding word =>
    s!"instruction on line {line} encodes to the halt sentinel 0x{String.ofList word.hex}"

end WordMachine.Assembly
