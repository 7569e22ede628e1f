import WordMachine.Assembly.Error
import WordMachine.Assembly.Literal

/-!
The lines of an assembly text. What follows a semicolon is a comment. A name before the first
colon labels the line. The first word of what is left is a directive or a mnemonic, and commas
separate the operands after it. Operands stay text here, because their meaning depends on all
labels.
-/

set_option autoImplicit false

namespace WordMachine.Assembly

/-- What a line puts into the program; an origin goes on at a target. -/
inductive Statement (Target : Type) where
  | instruction (opcode : Opcode) (operands : List Text)
  | data (operand : Text)
  | halt
  | exit (operand : Text)
  | origin (target : Target)

def Directive.ofName? (name : Text) : Option Directive :=
  let key := name.lower
  if key = ".org".toList ∨ key = "org".toList then some .origin
  else if key = ".word".toList ∨ key = "dat".toList ∨ key = "data".toList then some .data
  else if key = "exit".toList then some .exit
  else if key = "halt".toList ∨ key = "hlt".toList then some .halt
  else none

def operandsOf (text : Text) : List Text :=
  if text.isEmpty then [] else (text.splitOn ',').map Text.trim

/-- A directive with its operands. All but the one that halts take exactly one, which is not
empty. -/
def Directive.statement (directive : Directive) (operands : List Text) :
    Except Cause (Statement Text) :=
  match directive, operands with
  | .halt, [] => .ok .halt
  | .origin, [first :: rest] => .ok (.origin (first :: rest))
  | .data, [first :: rest] => .ok (.data (first :: rest))
  | .exit, [first :: rest] => .ok (.exit (first :: rest))
  | directive, _ => .error (.malformed (.operandCount directive))

def Statement.parse (text : Text) : Except Cause (Statement Text) :=
  let (mnemonic, rest) := text.splitWord
  let operands := operandsOf rest
  match Directive.ofName? mnemonic with
  | some directive => directive.statement operands
  | none =>
    match Opcode.ofMnemonic? mnemonic with
    | some opcode => .ok (.instruction opcode operands)
    | none => .error (.unknownMnemonic mnemonic)

def stripComment (line : Text) : Text := Text.trim (line.takeWhile (· != ';'))

/-- The label of a line, if it has one, and the text after it. -/
def splitLabel (text : Text) : Option Text × Text :=
  match text.dropWhile (· != ':') with
  | [] => (none, text)
  | _ :: rest => (some (Text.trim (text.takeWhile (· != ':'))), Text.trim rest)

end WordMachine.Assembly
