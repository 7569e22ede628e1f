import WordMachine.Proofs.Debugger.Operations

/-! Restarts. After a restart that succeeds nothing tells the debugger from a new one by what its
machine does. One that fails stops the run and leaves the machine as it was. -/

set_option autoImplicit false

namespace WordMachine.Debugger

/-! ## Debuggers that execute alike -/

/-- The other debugger has the same machine, makes the same one anew, and stops at the same
addresses. -/
structure Agrees (debugger other : Debugger) : Prop where
  machine : other.machine = debugger.machine
  program : other.program = debugger.program
  memoryBytes : other.memoryBytes = debugger.memoryBytes
  running : other.running = debugger.running
  breakpoints : ∀ address, address ∈ other.breakpoints ↔ address ∈ debugger.breakpoints

namespace Agrees

variable {debugger other : Debugger} (agrees : debugger.Agrees other)

include agrees

private theorem programCounter : other.programCounter = debugger.programCounter := by
  rw [Debugger.programCounter, agrees.machine, Debugger.programCounter]

private theorem pause (first second : Notice) :
    (debugger.pause first).Agrees (other.pause second) :=
  ⟨agrees.machine, agrees.program, agrees.memoryBytes, rfl, agrees.breakpoints⟩

private theorem withMachine (machine : Machine Console) :
    ({ debugger with machine } : Debugger).Agrees { other with machine } :=
  ⟨rfl, agrees.program, agrees.memoryBytes, agrees.running, agrees.breakpoints⟩

private theorem afterStep (first second : Nat) (result : Except Fault (Option Instruction)) :
    (debugger.afterStep first result).Agrees (other.afterStep second result) := by
  rcases result with fault | _ | instruction
  · exact agrees.pause _ _
  · exact agrees
  · exact ⟨agrees.machine, agrees.program, agrees.memoryBytes, agrees.running, agrees.breakpoints⟩

private theorem afterHalt : debugger.afterHalt.Agrees other.afterHalt := by
  rw [Debugger.afterHalt, Debugger.afterHalt, agrees.machine]
  split
  next => exact agrees
  next => exact agrees.pause _ _

private theorem step : debugger.step.Agrees other.step := by
  rw [Debugger.step, Debugger.step, agrees.machine]
  split
  next => exact agrees.pause _ _
  next =>
    simp only [advance_eq, agrees.machine]
    exact ((agrees.withMachine _).afterStep _ _ _).afterHalt

private theorem contains (address : Nat) :
    other.breakpoints.contains address = debugger.breakpoints.contains address := by
  rw [Bool.eq_iff_iff, List.contains_iff_mem, List.contains_iff_mem]
  exact agrees.breakpoints address

private theorem afterTick : debugger.afterTick.Agrees other.afterTick := by
  rw [Debugger.afterTick, Debugger.afterTick, agrees.running, agrees.programCounter,
    agrees.contains]
  split
  next => exact agrees.pause _ _
  next => exact agrees

private theorem tick : debugger.tick.Agrees other.tick := by
  rw [Debugger.tick, Debugger.tick, agrees.running, agrees.machine]
  split
  next => exact agrees
  next =>
    split
    next => exact agrees.pause _ _
    next => exact agrees.step.afterTick

private theorem toggleBreakpoint : debugger.toggleBreakpoint.Agrees other.toggleBreakpoint := by
  obtain ⟨machine, running, settings⟩ := toggleBreakpoint_keeps debugger
  obtain ⟨machine', running', settings'⟩ := toggleBreakpoint_keeps other
  refine ⟨?_, ?_, ?_, ?_, ?_⟩
  · rw [machine, machine', agrees.machine]
  · have left := congrArg Settings.program settings
    have right := congrArg Settings.program settings'
    exact right.trans (agrees.program.trans left.symm)
  · have left := congrArg Settings.memoryBytes settings
    have right := congrArg Settings.memoryBytes settings'
    exact right.trans (agrees.memoryBytes.trans left.symm)
  · rw [running, running', agrees.running]
  · intro address
    rw [mem_breakpoints_toggleBreakpoint, mem_breakpoints_toggleBreakpoint, agrees.breakpoints,
      agrees.programCounter]

private theorem restart : debugger.restart.Agrees other.restart := by
  have same : Machine.ofProgram other.memoryBytes other.program Console.silent =
      Machine.ofProgram debugger.memoryBytes debugger.program Console.silent := by
    rw [agrees.memoryBytes, agrees.program]
  cases made : Machine.ofProgram debugger.memoryBytes debugger.program Console.silent with
  | ok machine =>
    rw [restart_of_ok made, restart_of_ok (same.trans made)]
    exact (agrees.withMachine machine).pause _ _
  | error error =>
    rw [restart_of_error made, restart_of_error (same.trans made)]
    exact agrees.pause _ _

private theorem perform (operation : Operation) :
    (debugger.perform operation).Agrees (other.perform operation) := by
  cases operation with
  | step => exact agrees.step
  | tick => exact agrees.tick
  | toggleBreakpoint => exact agrees.toggleBreakpoint
  | restart => exact agrees.restart
  | run => exact ⟨agrees.machine, agrees.program, agrees.memoryBytes, rfl, agrees.breakpoints⟩
  | scrollBy | leave =>
    exact ⟨agrees.machine, agrees.program, agrees.memoryBytes, agrees.running, agrees.breakpoints⟩
  | changeMemoryBytes =>
    exact ⟨agrees.machine, agrees.program, rfl, agrees.running, agrees.breakpoints⟩
  | changeProgram =>
    exact ⟨agrees.machine, rfl, agrees.memoryBytes, agrees.running, agrees.breakpoints⟩

end Agrees

private theorem Agrees.performAll {debugger other : Debugger} (agrees : debugger.Agrees other)
    (operations : List Operation) :
    (debugger.performAll operations).Agrees (other.performAll operations) := by
  induction operations generalizing debugger other with
  | nil => exact agrees
  | cons operation rest ih => exact ih (agrees.perform operation)

/-! ## Debuggers before and after a restart -/

private theorem stopped_restart (debugger : Debugger) :
    debugger.restart.running = false ∧ debugger.restart.breakpoints = debugger.breakpoints := by
  rw [restart]
  split <;> exact ⟨rfl, rfl⟩

/-- A restarted debugger executes as a new one for its program and size with its breakpoints. -/
theorem restart_agrees {debugger new : Debugger} {configuration : Configuration}
    (size : configuration.memoryBytes = debugger.memoryBytes)
    (made : ofProgram configuration debugger.program = .ok new) {breakpoints : List Nat}
    (same : ∀ address, address ∈ breakpoints ↔ address ∈ debugger.breakpoints) :
    debugger.restart.Agrees { new with breakpoints } := by
  obtain ⟨machine, loaded, rfl⟩ := ofProgram_eq_ok made
  rw [size] at loaded
  rw [restart_of_ok loaded]
  exact ⟨rfl, rfl, size, rfl, same⟩

/-- Where a machine of the size and with the program can be made, a restart leaves the machine of a
new debugger and executes from then on as a new debugger with the same breakpoints. Where it cannot,
the machine stays as it is. In both cases the run is stopped and all else is kept. -/
theorem restart_is_complete_or_atomic (debugger : Debugger) :
    (Loadable debugger.memoryBytes debugger.program →
      debugger.restart.machine.Fresh debugger.memoryBytes debugger.program Console.silent ∧
      debugger.restart.output = [] ∧
      ∀ configuration : Configuration, configuration.memoryBytes = debugger.memoryBytes →
        ∃ new, ofProgram configuration debugger.program = .ok new ∧
          debugger.restart.machine = new.machine ∧
          ∀ breakpoints, (∀ address, address ∈ breakpoints ↔ address ∈ debugger.breakpoints) →
            ∀ operations, (debugger.restart.performAll operations).Agrees
              (({ new with breakpoints } : Debugger).performAll operations)) ∧
    (¬Loadable debugger.memoryBytes debugger.program →
      debugger.restart.machine = debugger.machine ∧ debugger.restart.output = debugger.output ∧
      ∃ error, debugger.restart.notice = .notRestarted error ∧
        ((debugger.memoryBytes % 2 = 0 → debugger.memoryBytes = 0) ∧
            error = .invalidSize debugger.memoryBytes ∨
          debugger.memoryBytes < debugger.program.length ∧
            error = .overflow debugger.program.length debugger.memoryBytes) ∧
        ∀ configuration : Configuration, configuration.memoryBytes = debugger.memoryBytes →
          ofProgram configuration debugger.program = .error error) ∧
    debugger.restart.running = false ∧ debugger.restart.breakpoints = debugger.breakpoints ∧
    debugger.restart.scroll = debugger.scroll ∧ debugger.restart.program = debugger.program ∧
    debugger.restart.memoryBytes = debugger.memoryBytes ∧
    debugger.restart.radix = debugger.radix ∧ debugger.restart.leaving = debugger.leaving := by
  have settings := settings_restart debugger
  obtain ⟨stopped, breakpoints⟩ := stopped_restart debugger
  refine ⟨?_, ?_, stopped, breakpoints, congrArg Settings.scroll settings,
    congrArg Settings.program settings, congrArg Settings.memoryBytes settings,
    congrArg Settings.radix settings, congrArg Settings.leaving settings⟩
  · intro loadable
    obtain ⟨machine, loaded⟩ := Machine.exists_ofProgram loadable Console.silent
    have fresh := Machine.fresh_ofProgram loaded
    have renewed := machine_restart_of_ok loaded
    refine ⟨renewed ▸ fresh, ?_, ?_⟩
    · rw [output, renewed, fresh.device]
      rfl
    · intro configuration size
      have made : ∃ new, ofProgram configuration debugger.program = .ok new := by
        rw [ofProgram, size, loaded]
        exact ⟨_, rfl⟩
      obtain ⟨new, made⟩ := made
      refine ⟨new, made, ?_, ?_⟩
      · exact (restart_agrees size made fun _ => Iff.rfl).machine.symm
      · intro breakpoints same operations
        exact (restart_agrees size made same).performAll operations
  · intro refused
    obtain ⟨error, failed, cause⟩ := Machine.ofProgram_of_not_loadable refused Console.silent
    rw [restart_of_error failed]
    refine ⟨rfl, rfl, error, rfl, cause, ?_⟩
    intro configuration size
    rw [ofProgram, size, failed]
    rfl

/-- The image of a program that writes a number. -/
def printing : List UInt8 := [0x05, 0x1A, 0x00, 0x1E]

theorem printing_restarts : Loadable 6 printing ∧ ¬Loadable 3 printing ∧
    ∃ new, ofProgram ⟨6, none, .decimal⟩ printing = .ok new ∧
      (new.performAll [.toggleBreakpoint, .step, .step]).output = "5\n".toList ∧
      (new.performAll [.toggleBreakpoint, .step, .step]).restart.output = [] ∧
      ((new.performAll [.toggleBreakpoint, .step, .step]).restart.performAll [.run, .tick]).Agrees
        (({ new with breakpoints := [0] } : Debugger).performAll [.run, .tick]) ∧
      (new.performAll
        [.toggleBreakpoint, .step, .step, .changeMemoryBytes 3]).restart.output = "5\n".toList := by
  have loadable : Loadable 6 printing := ⟨rfl, by decide, by decide⟩
  have odd : ¬Loadable 3 printing := fun loadable => by cases loadable.even
  obtain ⟨new, made⟩ : ∃ new, ofProgram ⟨6, none, .decimal⟩ printing = .ok new := ⟨_, rfl⟩
  have printed : (new.performAll [.toggleBreakpoint, .step, .step]).output = "5\n".toList := by
    cases made
    decide
  have broken : ∀ address, address ∈ [0] ↔
      address ∈ (new.performAll [.toggleBreakpoint, .step, .step]).breakpoints := by
    cases made
    exact fun address => Iff.rfl
  obtain ⟨whole, -⟩ :=
    restart_is_complete_or_atomic (new.performAll [.toggleBreakpoint, .step, .step])
  obtain ⟨-, nothing, -⟩ := restart_is_complete_or_atomic
    (new.performAll [.toggleBreakpoint, .step, .step, .changeMemoryBytes 3])
  obtain ⟨-, empty, renewed⟩ := whole (by cases made; exact loadable)
  obtain ⟨other, again, -, agrees⟩ := renewed ⟨6, none, .decimal⟩ (by cases made; rfl)
  obtain ⟨-, kept, -⟩ := nothing (by cases made; exact odd)
  have same : new = other := by
    cases made
    cases again
    rfl
  exact ⟨loadable, odd, new, made, printed, empty, same ▸ agrees [0] broken [.run, .tick],
    kept.trans printed⟩

end WordMachine.Debugger
