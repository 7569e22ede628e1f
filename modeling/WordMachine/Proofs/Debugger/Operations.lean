import WordMachine.Proofs.Debugger
import WordMachine.Proofs.Machine.Fresh

/-! What can be done with a debugger, one operation after another. Apart from a restart an operation
leaves the machine as it is or makes one step of it. -/

set_option autoImplicit false

namespace WordMachine.Debugger

/-- Besides the debugger's commands, the size of the memory and the program of later machines can be
changed. -/
inductive Operation where
  | step
  | run
  | tick
  | toggleBreakpoint
  | scrollBy (delta : Int)
  | restart
  | leave
  | changeMemoryBytes (memoryBytes : Nat)
  | changeProgram (program : List UInt8)
deriving DecidableEq

def perform (debugger : Debugger) : Operation → Debugger
  | .step => debugger.step
  | .run => debugger.run
  | .tick => debugger.tick
  | .toggleBreakpoint => debugger.toggleBreakpoint
  | .scrollBy delta => debugger.scrollBy delta
  | .restart => debugger.restart
  | .leave => debugger.leave
  | .changeMemoryBytes memoryBytes => { debugger with memoryBytes }
  | .changeProgram program => { debugger with program }

def performAll (debugger : Debugger) (operations : List Operation) : Debugger :=
  operations.foldl perform debugger

/-- What every operation of a list keeps, all of them keep one after another. -/
theorem performAll_keeps (kept : Debugger → Prop) {operations : List Operation}
    (each : ∀ debugger, ∀ operation ∈ operations, kept debugger → kept (debugger.perform operation))
    {debugger : Debugger} (holds : kept debugger) : kept (debugger.performAll operations) := by
  induction operations generalizing debugger with
  | nil => exact holds
  | cons operation rest ih =>
    refine ih ?_ (each debugger operation List.mem_cons_self holds)
    intro other later listed
    exact each other later (List.mem_cons_of_mem _ listed)

/-! ## Steps and ticks -/

/-- The parts of a debugger that have nothing to do with the execution. -/
structure Settings where
  program : List UInt8
  memoryBytes : Nat
  radix : Radix
  leaving : Bool
  scroll : Nat

def settings (debugger : Debugger) : Settings :=
  ⟨debugger.program, debugger.memoryBytes, debugger.radix, debugger.leaving, debugger.scroll⟩

private theorem settings_afterStep (debugger : Debugger) (address : Nat)
    (result : Except Fault (Option Instruction)) :
    (debugger.afterStep address result).settings = debugger.settings := by
  rcases result with fault | _ | instruction <;> rfl

private theorem settings_afterHalt (debugger : Debugger) :
    debugger.afterHalt.settings = debugger.settings := by
  rw [afterHalt]
  split <;> rfl

theorem settings_step (debugger : Debugger) : debugger.step.settings = debugger.settings := by
  rw [step]
  split
  next => rfl
  next => rw [settings_afterHalt, settings_afterStep, advance_eq]; rfl

theorem settings_tick (debugger : Debugger) : debugger.tick.settings = debugger.settings := by
  have after : ∀ other : Debugger, other.afterTick.settings = other.settings := by
    intro other
    rw [afterTick]
    split <;> rfl
  rw [tick]
  split
  next => rfl
  next =>
    split
    next => rfl
    next => rw [after, settings_step]

private theorem machine_step_cases (debugger : Debugger) :
    debugger.step.machine = debugger.machine ∨
      debugger.step.machine = debugger.machine.step.machine := by
  cases active : debugger.machine.exitCode? with
  | some code =>
    rw [step, active]
    exact .inl rfl
  | none => exact .inr (machine_step (exitCode?_eq_none_iff.mp active))

private theorem machine_tick_cases (debugger : Debugger) :
    debugger.tick.machine = debugger.machine ∨
      debugger.tick.machine = debugger.machine.step.machine := by
  rw [tick]
  split
  next => exact .inl rfl
  next =>
    split
    next => exact .inl rfl
    next =>
      rw [(afterTick_keeps _).machine]
      exact machine_step_cases debugger

theorem toggleBreakpoint_keeps (debugger : Debugger) :
    debugger.toggleBreakpoint.machine = debugger.machine ∧
      debugger.toggleBreakpoint.running = debugger.running ∧
      debugger.toggleBreakpoint.settings = debugger.settings := by
  simp only [toggleBreakpoint]
  split <;> exact ⟨rfl, rfl, rfl⟩

private theorem machine_perform (debugger : Debugger) {operation : Operation}
    (other : operation ≠ .restart) :
    (debugger.perform operation).machine = debugger.machine ∨
      (debugger.perform operation).machine = debugger.machine.step.machine := by
  cases operation with
  | restart => exact absurd rfl other
  | step => exact machine_step_cases debugger
  | tick => exact machine_tick_cases debugger
  | toggleBreakpoint => exact .inl (toggleBreakpoint_keeps debugger).1
  | run | scrollBy | leave | changeMemoryBytes | changeProgram => exact .inl rfl

theorem sized_perform {debugger : Debugger} {size : Nat} {operation : Operation}
    (other : operation ≠ .restart) (sized : debugger.machine.memory.Sized size) :
    (debugger.perform operation).machine.memory.Sized size := by
  rcases machine_perform debugger other with same | stepped
  · rw [same]
    exact sized
  · rw [stepped]
    exact (Machine.sized_step sized).1

/-! ## New debuggers and restarts -/

theorem settings_restart (debugger : Debugger) : debugger.restart.settings = debugger.settings := by
  rw [restart]
  split <;> rfl

theorem restart_of_ok {debugger : Debugger} {machine : Machine Console}
    (made : Machine.ofProgram debugger.memoryBytes debugger.program Console.silent = .ok machine) :
    debugger.restart = { debugger with machine }.pause .restarted := by
  rw [restart, made]

theorem restart_of_error {debugger : Debugger} {error : MemoryError}
    (failed : Machine.ofProgram debugger.memoryBytes debugger.program Console.silent =
      .error error) : debugger.restart = debugger.pause (.notRestarted error) := by
  rw [restart, failed]

end WordMachine.Debugger
