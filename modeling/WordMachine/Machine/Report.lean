import WordMachine.Machine

/-!
Reports on a machine: the snapshot of its state and the page that shows the whole machine.
-/

set_option autoImplicit false

namespace WordMachine

/-- The counters, registers and exit state of a machine. -/
structure Snapshot where
  programCounter : Nat
  memoryCounter : Nat
  registers : List Word
  exit? : Option ExitCode
  cycles : Nat
deriving DecidableEq

/-- The outcome of a run; it is not completed if the cycle limit ended it. -/
structure Report where
  snapshot : Snapshot
  completed : Bool
deriving DecidableEq

namespace Machine

variable {Device : Type}

def snapshot (machine : Machine Device) : Snapshot :=
  { programCounter := machine.memory.programCounter.value
    memoryCounter := machine.memory.memoryCounter.value
    registers := machine.registers.words
    exit? := machine.exitCode?
    cycles := machine.cycles }

def report (machine : Machine Device) : Report := ⟨machine.snapshot, machine.isHalted⟩

def exitText (machine : Machine Device) (radix : Radix) : String :=
  match machine.exitCode? with
  | some code => s!"{String.ofList (code.toWord.format radix)}: {code.reason}"
  | none => "none (still running)"

def render (machine : Machine Device) (radix : Radix) : String :=
  let rule := String.ofList (List.replicate 25 '-')
  let line := String.ofList (List.replicate 62 '-')
  let memory := String.ofList (machine.memory.render radix)
  let memoryCounter := String.ofList (machine.memory.memoryCounter.format radix)
  let programCounter := String.ofList (machine.memory.programCounter.format radix)
  let registers := String.ofList (machine.registers.render radix)
  s!"{rule}Memory state{rule}\nMemory:\n{memory}\n\nExit code {machine.exitText radix}\n\n"
    ++ s!"Memory counter: {memoryCounter}\nProgram counter: {programCounter}\n\n"
    ++ s!"Registers:\n{registers}\n{line}"

/-- The status, the cycles, the registers and the memory, between braces. -/
def inspect (machine : Machine Device) : String :=
  s!"Cpu \x7b state: {machine.status.inspect}, cycles: {machine.cycles}, "
    ++ s!"regs: {machine.registers.inspect}, mem: {machine.memory.inspect} \x7d"

end Machine

end WordMachine
