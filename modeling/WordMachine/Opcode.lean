import WordMachine.Text

/-!
The sixteen operations. Each has a four-bit code, a mnemonic and one of two operand forms. Main
statements: codes and opcodes correspond one to one, and every mnemonic names its opcode.
-/

set_option autoImplicit false

namespace WordMachine

inductive OperandForm where
  /-- Three registers. -/
  | registers
  /-- One register and a signed byte. -/
  | immediate
deriving DecidableEq

inductive Opcode where
  | and | or | xor | not | sh | add | sub | mul | div | comp
  | li | amc | lwmc | swmc | piu | apceq
deriving DecidableEq

structure InvalidOpcode where
  tag : Nat
deriving DecidableEq

def InvalidOpcode.message (error : InvalidOpcode) : String := s!"invalid opcode: {error.tag}"

namespace Opcode

def table : Vector Opcode 16 :=
  #v[and, or, xor, not, sh, add, sub, mul, div, comp, li, amc, lwmc, swmc, piu, apceq]

def all : List Opcode := table.toList

def code : Opcode → BitVec 4
  | and => 0
  | or => 1
  | xor => 2
  | not => 3
  | sh => 4
  | add => 5
  | sub => 6
  | mul => 7
  | div => 8
  | comp => 9
  | li => 10
  | amc => 11
  | lwmc => 12
  | swmc => 13
  | piu => 14
  | apceq => 15

/-- The operation that four bits stand for; all sixteen patterns are taken. -/
def ofCode (code : BitVec 4) : Opcode := table.get code.toFin

def ofTag (tag : Nat) : Except InvalidOpcode Opcode :=
  if tag < 16 then .ok (ofCode (BitVec.ofNat 4 tag)) else .error ⟨tag⟩

def mnemonic : Opcode → Text
  | and => "and".toList
  | or => "or".toList
  | xor => "xor".toList
  | not => "not".toList
  | sh => "sh".toList
  | add => "add".toList
  | sub => "sub".toList
  | mul => "mul".toList
  | div => "div".toList
  | comp => "comp".toList
  | li => "li".toList
  | amc => "amc".toList
  | lwmc => "lwmc".toList
  | swmc => "swmc".toList
  | piu => "piu".toList
  | apceq => "apceq".toList

def ofMnemonic? (name : Text) : Option Opcode :=
  all.find? fun opcode => opcode.mnemonic.sameName name

def form : Opcode → OperandForm
  | li | amc | lwmc | swmc | piu | apceq => .immediate
  | _ => .registers

theorem ofCode_code (opcode : Opcode) : ofCode opcode.code = opcode := by cases opcode <;> rfl

theorem code_ofCode (code : BitVec 4) : (ofCode code).code = code := by revert code; decide

theorem ofMnemonic?_mnemonic (opcode : Opcode) : ofMnemonic? opcode.mnemonic = some opcode := by
  cases opcode <;> decide +kernel

end Opcode

end WordMachine
