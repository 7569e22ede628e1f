import WordMachine.Instruction
import WordMachine.Memory
import WordMachine.Peripheral

/-!
The machine: registers, memory, a device and what has been executed so far.
-/

set_option autoImplicit false

namespace WordMachine

inductive Status where
  | running
  | halted (code : ExitCode)
deriving DecidableEq

def Status.inspect : Status → String
  | running => "Running"
  | halted code => s!"Halted({code.inspect})"

inductive Fault where
  | notRunning (code : ExitCode)
  | memory (error : MemoryError)
  | peripheral (error : PeripheralError)
deriving DecidableEq

def Fault.message : Fault → String
  | notRunning code => s!"CPU not running: halted with {code.render}"
  | memory error => s!"memory error: {error.message}"
  | peripheral error => s!"peripheral error: {error.message}"

structure Machine (Device : Type) where
  registers : RegisterBank
  memory : Memory
  device : Device
  status : Status
  cycles : Nat
  last? : Option Instruction

namespace Machine

variable {Device : Type}

def ofSize (bytes : Nat) (device : Device) : Except MemoryError (Machine Device) :=
  (Memory.ofSize bytes).map fun memory =>
    { registers := RegisterBank.zeroed, memory, device, status := .running, cycles := 0,
      last? := none }

def loadProgram (machine : Machine Device) (bytes : List UInt8) :
    Except MemoryError (Machine Device) :=
  (machine.memory.loadProgram bytes).map fun memory => { machine with memory }

def ofProgram (bytes : Nat) (program : List UInt8) (device : Device) :
    Except MemoryError (Machine Device) :=
  match ofSize bytes device with
  | .ok machine => machine.loadProgram program
  | .error error => .error error

def exitCode? (machine : Machine Device) : Option ExitCode :=
  match machine.status with
  | .running => none
  | .halted code => some code

def isRunning (machine : Machine Device) : Bool := machine.status = .running

def isHalted (machine : Machine Device) : Bool := machine.exitCode?.isSome

def halt (machine : Machine Device) (code : ExitCode) : Machine Device :=
  { machine with status := .halted code }

def writeRegister (machine : Machine Device) (register : Register) (word : Word) : Machine Device :=
  { machine with registers := machine.registers.write register word }

def moveProgramCounter (machine : Machine Device) (delta : Int) : Machine Device :=
  { machine with
    memory.programCounter := machine.memory.programCounter.move delta }

def moveMemoryCounter (machine : Machine Device) (delta : Int) : Machine Device :=
  { machine with
    memory.memoryCounter := machine.memory.memoryCounter.move delta }

def advance (machine : Machine Device) : Machine Device := machine.moveProgramCounter 1

end Machine

end WordMachine
