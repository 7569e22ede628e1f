import WordMachine.Configuration
import WordMachine.Console
import WordMachine.Debugger.Notice
import WordMachine.Listing
import WordMachine.Machine.Step

/-!
The debugger: a machine without input that is stepped or run under breakpoints. A run goes on one
instruction per tick and stops before the instruction at a breakpoint. Main statements: toggling a
breakpoint changes it at the program counter and nowhere else, and a restart leaves a machine that
does not depend on the one before it.
-/

set_option autoImplicit false

namespace WordMachine

structure Debugger where
  machine : Machine Console
  program : List UInt8
  memoryBytes : Nat
  radix : Radix
  /-- The addresses before which a run stops, in ascending order. -/
  breakpoints : List Nat
  running : Bool
  leaving : Bool
  notice : Debugger.Notice
  /-- The first row of the memory that is shown. -/
  scroll : Nat

namespace Debugger

def ofProgram (configuration : Configuration) (program : List UInt8) :
    Except MemoryError Debugger :=
  (Machine.ofProgram configuration.memoryBytes program Console.silent).map fun machine =>
    { machine, program, memoryBytes := configuration.memoryBytes, radix := configuration.base,
      breakpoints := [], running := false, leaving := false, notice := .ready, scroll := 0 }

def programCounter (debugger : Debugger) : Nat := debugger.machine.memory.programCounter.value

def pause (debugger : Debugger) (notice : Notice) : Debugger :=
  { debugger with running := false, notice }

def afterStep (debugger : Debugger) (address : Nat) :
    Except Fault (Option Instruction) → Debugger
  | .ok (some instruction) => { debugger with notice := .executed address instruction }
  | .ok none => debugger
  | .error fault => debugger.pause (.failed fault)

def afterHalt (debugger : Debugger) : Debugger :=
  match debugger.machine.exitCode? with
  | none => debugger
  | some code => debugger.pause (.halted debugger.machine.cycles code)

/-- The debugger with its machine one step on, and the step's result. -/
def advance : Debugger → Debugger × Except Fault (Option Instruction)
  | ⟨machine, program, memoryBytes, radix, breakpoints, running, leaving, notice, scroll⟩ =>
    let stepped := machine.step
    (⟨stepped.machine, program, memoryBytes, radix, breakpoints, running, leaving, notice, scroll⟩,
      stepped.result)

/-- Steps once, unless the machine has halted. -/
def step (debugger : Debugger) : Debugger :=
  match debugger.machine.exitCode? with
  | some code => debugger.pause (.haltedBefore code)
  | none =>
    let address := debugger.programCounter
    let (moved, result) := debugger.advance
    (moved.afterStep address result).afterHalt

def run (debugger : Debugger) : Debugger := { debugger with running := true, notice := .running }

def afterTick (debugger : Debugger) : Debugger :=
  if debugger.running && debugger.breakpoints.contains debugger.programCounter then
    debugger.pause (.reached debugger.programCounter)
  else debugger

def tick (debugger : Debugger) : Debugger :=
  if !debugger.running then debugger
  else if !debugger.machine.isRunning then debugger.pause (.stopped debugger.machine.cycles)
  else debugger.step.afterTick

def insertAddress (address : Nat) (addresses : List Nat) : List Nat :=
  addresses.takeWhile (· < address) ++ address :: addresses.dropWhile (· < address)

def toggleBreakpoint (debugger : Debugger) : Debugger :=
  let address := debugger.programCounter
  if debugger.breakpoints.contains address then
    { debugger with
      breakpoints := debugger.breakpoints.filter (· != address)
      notice := .breakpointRemoved address }
  else
    { debugger with
      breakpoints := insertAddress address debugger.breakpoints
      notice := .breakpointSet address }

/-- Starts again on a new machine. If it cannot be made, the old one stays. -/
def restart (debugger : Debugger) : Debugger :=
  match Machine.ofProgram debugger.memoryBytes debugger.program Console.silent with
  | .ok machine => { debugger with machine }.pause .restarted
  | .error error => debugger.pause (.notRestarted error)

/-- Moves the view of the memory by some rows, within the rows that there are. -/
def scrollBy (debugger : Debugger) (delta : Int) : Debugger :=
  { debugger with
    scroll := min (debugger.scroll + delta).toNat (debugger.machine.memory.rowCount - 1) }

def leave (debugger : Debugger) : Debugger := { debugger with leaving := true }

def output (debugger : Debugger) : Text := Utf8.decodeLossy debugger.machine.device.output

structure DisassembledLine where
  address : Nat
  text : Text
  current : Bool
deriving DecidableEq

/-- The memory around the program counter, in at most `count` lines. -/
def disassembly (debugger : Debugger) (count : Nat) : List DisassembledLine :=
  let first := debugger.programCounter - count / 2
  let shown := (debugger.machine.memory.cells.extract first (first + count)).toList
  (shown.zipIdx first).map fun (word, address) =>
    ⟨address, Listing.line word, address = debugger.programCounter⟩

theorem advance_eq (debugger : Debugger) :
    debugger.advance =
      ({ debugger with machine := debugger.machine.step.machine }, debugger.machine.step.result) :=
  rfl

private theorem mem_insertAddress (address : Nat) (addresses : List Nat) (other : Nat) :
    other ∈ insertAddress address addresses ↔ other = address ∨ other ∈ addresses := by
  have whole : addresses.takeWhile (· < address) ++ addresses.dropWhile (· < address) = addresses :=
    List.takeWhile_append_dropWhile
  rw [insertAddress, List.mem_append, List.mem_cons, or_left_comm, ← List.mem_append, whole]

/-- After toggling there is a breakpoint at the program counter if there was none before, and all
others are as they were. -/
theorem mem_breakpoints_toggleBreakpoint (debugger : Debugger) (address : Nat) :
    address ∈ debugger.toggleBreakpoint.breakpoints ↔
      (address ∈ debugger.breakpoints ↔ address ≠ debugger.programCounter) := by
  unfold toggleBreakpoint
  by_cases present : debugger.programCounter ∈ debugger.breakpoints
  · by_cases here : address = debugger.programCounter <;> simp [present, here]
  · by_cases here : address = debugger.programCounter
    · simp [present, here, mem_insertAddress]
    · simp [present, here, mem_insertAddress]

/-- A restart leaves a machine that does not depend on the one before it. -/
theorem machine_restart_of_ok {debugger : Debugger} {machine : Machine Console}
    (made : Machine.ofProgram debugger.memoryBytes debugger.program Console.silent = .ok machine) :
    debugger.restart.machine = machine := by
  simp [restart, made, pause]

end Debugger

end WordMachine
