import Mathlib
import WordMachine.Machine.Step

/-! The documented table of instructions. Each row says in integers what its instruction leaves
behind: words are read as signed numbers, and a result is reduced once, when it is written. -/

set_option autoImplicit false

namespace WordMachine.Table

/-! ## Fields of a word -/

/-- The field of four bits at a position, counted from the lowest. -/
def nibble (word : Word) (position : Nat) : Nat := word.toNat / 16 ^ position % 16

theorem nibble_lt (word : Word) (position : Nat) : nibble word position < 16 :=
  Nat.mod_lt _ (by decide)

def selected (word : Word) (position : Nat) : Register :=
  ⟨nibble word position, nibble_lt word position⟩

/-- The congruent number that is closest to zero; half the modulus counts as negative. -/
def signed (modulus value : Int) : Int := (value + modulus / 2) % modulus - modulus / 2

def immediate (word : Word) : Int := signed 0x100 (word.toNat / 0x100 : Nat)

/-- The operations in the order of their codes. -/
def operation : Nat → Opcode
  | 0 => .and
  | 1 => .or
  | 2 => .xor
  | 3 => .not
  | 4 => .sh
  | 5 => .add
  | 6 => .sub
  | 7 => .mul
  | 8 => .div
  | 9 => .comp
  | 10 => .li
  | 11 => .amc
  | 12 => .lwmc
  | 13 => .swmc
  | 14 => .piu
  | _ => .apceq

/-- The first ten operations have three registers, the others a register and an immediate. -/
def instruction (word : Word) : Instruction :=
  if nibble word 0 < 10 then
    ⟨operation (nibble word 0), selected word 1, selected word 2, selected word 3, Word.ofInt 0⟩
  else ⟨operation (nibble word 0), Register.first, selected word 1, Register.first,
    Word.ofInt (immediate word)⟩

/-- The words 0x0000, 0x1000, up to 0x9000 halt. -/
def exitCode? (word : Word) : Option ExitCode :=
  if word.toNat % 0x1000 = 0 then
    match word.toNat / 0x1000 with
    | 0 => some .noInstructions
    | 1 => some .divisionByZero
    | digit => if digit ≤ 9 then some (.custom (UInt8.ofNat digit)) else none
  else none

/-! ## States -/

/-- A machine as its instructions see it. -/
structure State (Device : Type) where
  registers : RegisterBank
  cells : List Word
  programCounter : Nat
  memoryCounter : Nat
  device : Device
  status : Status
  cycles : Nat
  last? : Option Instruction

namespace State

variable {Device : Type}

def read (state : State Device) (register : Register) : Int := (state.registers.read register).toInt

def write (state : State Device) (register : Register) (value : Int) : State Device :=
  { state with registers := state.registers.write register (Word.ofInt value) }

/-- The address that is congruent to a number modulo the size of the memory. -/
def wrap (state : State Device) (address : Int) : Nat := (address % state.cells.length).toNat

def jump (state : State Device) (delta : Int) : State Device :=
  { state with programCounter := state.wrap (state.programCounter + delta) }

def next (state : State Device) : State Device := state.jump 1

def halt (state : State Device) (code : ExitCode) : State Device :=
  { state with status := .halted code }

/-! ## Rows of the table -/

/-- The first register gets the result on what the other two held before. -/
def operate (state : State Device) (word : Word) (operation : Int → Int → Int) : State Device :=
  (state.write (selected word 1)
    (operation (state.read (selected word 2)) (state.read (selected word 3)))).next

/-- To the right by a positive amount, to the left by a negative one. -/
def shifted (value amount : Int) : Int :=
  if 0 ≤ amount then value / 2 ^ amount.toNat else value * 2 ^ (-amount).toNat

/-- The device may change itself and the registers before it fails. -/
def perform [Peripheral Device] (state : State Device) (word : Word) :
    State Device × Option Fault :=
  let reply := Peripheral.perform (Word.ofInt (immediate word)) (selected word 1) state.registers
    state.device
  let answered := { state with registers := reply.registers, device := reply.device }
  match reply.result with
  | .ok none => (answered.next, none)
  | .ok (some code) => (answered.next.halt code, none)
  | .error error => (answered, some (.peripheral error))

/-- What the instruction in a word does. -/
def execute [Peripheral Device] (state : State Device) (word : Word) :
    State Device × Option Fault :=
  match nibble word 0 with
  | 0 => (state.operate word Int.land, none)
  | 1 => (state.operate word Int.lor, none)
  | 2 => (state.operate word Int.xor, none)
  | 3 => (state.operate word fun value _ => -value - 1, none)
  | 4 => (state.operate word shifted, none)
  | 5 => (state.operate word fun left right => left + right, none)
  | 6 => (state.operate word fun left right => left - right, none)
  | 7 => (state.operate word fun left right => left * right, none)
  | 8 =>
    if state.read (selected word 3) = 0 then (state.halt .divisionByZero, none)
    else (state.operate word Int.tdiv, none)
  | 9 => (state.operate word fun left right => (left - right).sign, none)
  | 10 => ((state.write (selected word 1) (immediate word)).next, none)
  | 11 =>
    let delta := signed 0x10000 (state.read (selected word 1) + immediate word)
    ({ state with memoryCounter := state.wrap (state.memoryCounter + delta) }.next, none)
  | 12 =>
    let address := state.wrap (state.memoryCounter + immediate word)
    ((state.write (selected word 1) (state.cells.getD address (Word.ofInt 0)).toInt).next, none)
  | 13 =>
    let address := state.wrap (state.memoryCounter + immediate word)
    let stored := state.cells.set address (Word.ofInt (state.read (selected word 1)))
    ({ state with cells := stored }.next, none)
  | 14 => state.perform word
  | _ =>
    if state.read Register.flag = 0 then
      (state.jump (signed 0x10000 (immediate word + state.read (selected word 1))), none)
    else (state.next, none)

/-- One cycle. A halted machine does nothing, and a word that halts is not executed. -/
def step [Peripheral Device] (state : State Device) :
    State Device × Except Fault (Option Instruction) :=
  match state.status with
  | .halted code => (state, .error (.notRunning code))
  | .running =>
    let word := state.cells.getD state.programCounter (Word.ofInt 0)
    match exitCode? word with
    | some code => (state.halt code, .ok none)
    | none =>
      match state.execute word with
      | (failed, some fault) => (failed, .error fault)
      | (done, none) =>
        ({ done with cycles := done.cycles + 1, last? := some (instruction word) },
          .ok (some (instruction word)))

end State

end WordMachine.Table
