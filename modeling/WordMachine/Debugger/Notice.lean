import WordMachine.Instruction
import WordMachine.Machine

/-!
What the debugger tells about the last thing that happened.
-/

set_option autoImplicit false

namespace WordMachine.Debugger

inductive Notice where
  | ready
  | running
  | executed (address : Nat) (instruction : Instruction)
  | failed (fault : Fault)
  /-- The machine halted in the step that has just been made. -/
  | halted (cycles : Nat) (code : ExitCode)
  /-- The machine had halted before a step was asked for. -/
  | haltedBefore (code : ExitCode)
  /-- The machine had halted before a run was resumed. -/
  | stopped (cycles : Nat)
  | reached (breakpoint : Nat)
  | breakpointSet (address : Nat)
  | breakpointRemoved (address : Nat)
  | restarted
  | notRestarted (error : MemoryError)
deriving DecidableEq

def Notice.place (address : Nat) : String := s!"PC={String.ofList (Numeral.hex4 address)}"

def Notice.message : Notice → String
  | ready => "Ready. Press 's' to step, 'r' to run, 'q' to quit."
  | running => "Running..."
  | executed address instruction => s!"{place address}: {String.ofList instruction.render}"
  | failed fault => s!"Error: {fault.message}"
  | halted cycles code => s!"Halted after {cycles} cycles: {code.reason}"
  | haltedBefore code => s!"CPU halted: {code.render}"
  | stopped cycles => s!"Halted after {cycles} cycles"
  | reached breakpoint => s!"Breakpoint at {place breakpoint}"
  | breakpointSet address => s!"Set breakpoint at {place address}"
  | breakpointRemoved address => s!"Removed breakpoint at {place address}"
  | restarted => "Reset. Ready."
  | notRestarted error => s!"Error: {error.message}"

end WordMachine.Debugger
