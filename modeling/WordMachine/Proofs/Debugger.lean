import Mathlib
import WordMachine.Debugger
import WordMachine.Emulation
import WordMachine.Proofs.Machine.Run

/-! Runs under the debugger. Ticks count steps and look for breakpoints after each of them; a batch
run counts cycles. Both reach the same machine. -/

set_option autoImplicit false

namespace WordMachine.Debugger

/-! ## One tick -/

theorem exitCode?_eq_none_iff {machine : Machine Console} :
    machine.exitCode? = none ↔ machine.isRunning = true := by
  rw [Machine.exitCode?, Machine.isRunning]
  cases machine.status with
  | running => exact iff_of_true rfl rfl
  | halted code => exact iff_of_false nofun nofun

structure Keeps (before after : Debugger) : Prop where
  machine : after.machine = before.machine
  breakpoints : after.breakpoints = before.breakpoints

private theorem afterStep_keeps (debugger : Debugger) (address : Nat)
    (result : Except Fault (Option Instruction)) :
    debugger.Keeps (debugger.afterStep address result) := by
  rcases result with fault | executed?
  · exact ⟨rfl, rfl⟩
  · cases executed? with
    | none => exact ⟨rfl, rfl⟩
    | some instruction => exact ⟨rfl, rfl⟩

private theorem afterHalt_keeps (debugger : Debugger) : debugger.Keeps debugger.afterHalt := by
  rw [afterHalt]
  split
  next => exact ⟨rfl, rfl⟩
  next => exact ⟨rfl, rfl⟩

theorem afterTick_keeps (debugger : Debugger) : debugger.Keeps debugger.afterTick := by
  rw [afterTick]
  split
  next => exact ⟨rfl, rfl⟩
  next => exact ⟨rfl, rfl⟩

private theorem running_afterStep (debugger : Debugger) (address : Nat)
    (result : Except Fault (Option Instruction)) :
    (debugger.afterStep address result).running = true ↔
      debugger.running = true ∧ ∃ executed?, result = .ok executed? := by
  rcases result with fault | executed?
  · exact iff_of_false nofun (fun both => nomatch both.2)
  · have same : (debugger.afterStep address (.ok executed?)).running = debugger.running := by
      cases executed? <;> rfl
    rw [same]
    exact (and_iff_left ⟨executed?, rfl⟩).symm

private theorem running_afterHalt (debugger : Debugger) :
    debugger.afterHalt.running = true ↔
      debugger.running = true ∧ debugger.machine.isRunning = true := by
  rw [← exitCode?_eq_none_iff, afterHalt]
  cases debugger.machine.exitCode? with
  | none => exact (and_iff_left rfl).symm
  | some code => exact iff_of_false nofun (fun both => nomatch both.2)

private theorem running_afterTick (debugger : Debugger) :
    debugger.afterTick.running = true ↔
      debugger.running = true ∧ debugger.programCounter ∉ debugger.breakpoints := by
  rw [afterTick]
  by_cases stops :
      (debugger.running && debugger.breakpoints.contains debugger.programCounter) = true
  · rw [if_pos stops]
    rw [Bool.and_eq_true, List.contains_iff_mem] at stops
    exact iff_of_false nofun (fun both => both.2 stops.2)
  · rw [if_neg stops]
    rw [Bool.and_eq_true, List.contains_iff_mem, not_and] at stops
    exact (and_iff_left_of_imp stops).symm

section Step

variable {debugger : Debugger} (active : debugger.machine.isRunning = true)

include active

private theorem step_eq : debugger.step =
    (({ debugger with machine := debugger.machine.step.machine } : Debugger).afterStep
      debugger.programCounter debugger.machine.step.result).afterHalt := by
  rw [step, exitCode?_eq_none_iff.mpr active]
  rfl

theorem machine_step : debugger.step.machine = debugger.machine.step.machine := by
  rw [step_eq active, (afterHalt_keeps _).machine, (afterStep_keeps _ _ _).machine]

private theorem breakpoints_step : debugger.step.breakpoints = debugger.breakpoints := by
  rw [step_eq active, (afterHalt_keeps _).breakpoints, (afterStep_keeps _ _ _).breakpoints]

private theorem running_step : debugger.step.running = true ↔
    debugger.running = true ∧ debugger.machine.Continues := by
  rw [step_eq active, running_afterHalt, running_afterStep, (afterStep_keeps _ _ _).machine,
    and_assoc]
  apply and_congr_right
  intro _
  constructor
  · intro both
    exact ⟨both.1, both.2⟩
  · intro continues
    exact ⟨continues.succeeds, continues.running⟩

end Step

private theorem tick_of_stopped {debugger : Debugger} (stopped : debugger.running ≠ true) :
    debugger.tick = debugger := by
  rw [tick, Bool.eq_false_iff.mpr stopped]
  rfl

section Tick

variable {debugger : Debugger} (running : debugger.running = true)
  (active : debugger.machine.isRunning = true)

include running active

private theorem tick_eq : debugger.tick = debugger.step.afterTick := by
  rw [tick, running, active]
  rfl

private theorem machine_tick : debugger.tick.machine = debugger.machine.step.machine := by
  rw [tick_eq running active, (afterTick_keeps _).machine, machine_step active]

private theorem breakpoints_tick : debugger.tick.breakpoints = debugger.breakpoints := by
  rw [tick_eq running active, (afterTick_keeps _).breakpoints, breakpoints_step active]

/-- After a tick the run goes on if the step went on and did not come to a breakpoint. -/
theorem running_tick : debugger.tick.running = true ↔ debugger.machine.Continues ∧
    debugger.machine.step.machine.memory.programCounter.value ∉ debugger.breakpoints := by
  rw [tick_eq running active, running_afterTick, running_step active, programCounter,
    machine_step active, breakpoints_step active, and_iff_right running]

end Tick

/-- After a tick, a debugger that runs has a machine that runs, before no breakpoint. -/
theorem active_of_running_tick {debugger : Debugger} (running : debugger.tick.running = true) :
    debugger.tick.machine.isRunning = true ∧
      debugger.tick.programCounter ∉ debugger.tick.breakpoints := by
  by_cases before : debugger.running = true
  · by_cases active : debugger.machine.isRunning = true
    · obtain ⟨continues, clear⟩ := (running_tick before active).mp running
      rw [programCounter, machine_tick before active, breakpoints_tick before active]
      exact ⟨continues.running, clear⟩
    · rw [Bool.not_eq_true] at active
      rw [tick, before, active] at running
      cases running
  · rw [tick_of_stopped before] at running
    exact absurd running before

/-! ## Ticks in a row -/

def ticked (debugger : Debugger) (count : Nat) : Debugger := tick^[count] debugger.run

private theorem ticked_succ (debugger : Debugger) (count : Nat) :
    debugger.ticked (count + 1) = (debugger.ticked count).tick :=
  Function.iterate_succ_apply' _ count debugger.run

/-- The step of a given number, counted from one, ends a run: it fails, it halts the machine, or it
comes to a breakpoint. -/
def StopsAt (debugger : Debugger) (number : Nat) : Prop :=
  let stepped := (debugger.machine.after (number - 1)).step
  (∃ fault, stepped.result = .error fault) ∨ stepped.machine.isRunning = false ∨
    stepped.machine.memory.programCounter.value ∈ debugger.breakpoints

/-- The number of the first step that ends a run, or infinity if none does. -/
noncomputable def firstStop (debugger : Debugger) : ℕ∞ :=
  ⨅ number : Nat, ⨅ _ : 1 ≤ number ∧ debugger.StopsAt number, (number : ℕ∞)

private theorem stopsAt_succ_iff (debugger : Debugger) (count : Nat) :
    ¬debugger.StopsAt (count + 1) ↔ (debugger.machine.after count).Continues ∧
      (debugger.machine.after count).step.machine.memory.programCounter.value ∉
        debugger.breakpoints := by
  rw [StopsAt, Nat.add_sub_cancel]
  cases done : (debugger.machine.after count).step.result with
  | error fault =>
    apply iff_of_false
    · intro goesOn
      exact goesOn (.inl ⟨fault, rfl⟩)
    · intro both
      obtain ⟨executed?, succeeds⟩ := both.1.succeeds
      rw [done] at succeeds
      cases succeeds
  | ok executed? =>
    constructor
    · intro goesOn
      refine ⟨⟨⟨executed?, done⟩, ?_⟩, ?_⟩
      · rw [← Bool.not_eq_false]
        intro halted
        exact goesOn (.inr (.inl halted))
      · intro reached
        exact goesOn (.inr (.inr reached))
    · intro both stops
      rcases stops with failed | halted | reached
      · obtain ⟨fault, same⟩ := failed
        cases same
      · rw [both.1.running] at halted
        cases halted
      · exact both.2 reached

private theorem lt_firstStop_iff (debugger : Debugger) (count : Nat) :
    (count : ℕ∞) < debugger.firstStop ↔
      ∀ number, 1 ≤ number → number ≤ count → ¬debugger.StopsAt number := by
  rw [firstStop, ← ENat.add_one_le_iff (ENat.natCast_ne_top count), le_iInf₂_iff]
  constructor
  · intro later number positive early stops
    have bound := later number ⟨positive, stops⟩
    norm_cast at bound
    omega
  · intro never number both
    norm_cast
    by_contra early
    exact never number both.1 (by omega) both.2

private theorem succ_lt_firstStop_iff {debugger : Debugger} {count : Nat}
    (later : (count : ℕ∞) < debugger.firstStop) :
    ((count + 1 : Nat) : ℕ∞) < debugger.firstStop ↔ ¬debugger.StopsAt (count + 1) := by
  rw [lt_firstStop_iff] at later ⊢
  constructor
  · intro never
    exact never (count + 1) (by omega) le_rfl
  · intro goesOn number positive early
    rcases Nat.lt_or_ge count number with last | before
    · obtain rfl : number = count + 1 := by omega
      exact goesOn
    · exact later number positive before

/-- Before the first stop the machine runs. -/
theorem isRunning_after {debugger : Debugger} (active : debugger.machine.isRunning = true)
    {count : Nat} (later : (count : ℕ∞) < debugger.firstStop) :
    (debugger.machine.after count).isRunning = true := by
  cases count with
  | zero => exact active
  | succ count =>
    have goesOn := (lt_firstStop_iff debugger (count + 1)).mp later (count + 1) (by omega) le_rfl
    rw [Machine.after_succ]
    exact ((stopsAt_succ_iff debugger count).mp goesOn).1.running

/-- The number of steps that so many ticks come to. -/
noncomputable def stepsOf (debugger : Debugger) (count : Nat) : Nat :=
  (min (count : ℕ∞) debugger.firstStop).toNat

/-- What a number of ticks come to, counted in steps of the machine. -/
structure Follows (debugger : Debugger) (count : Nat) : Prop where
  machine : (debugger.ticked count).machine = debugger.machine.after (debugger.stepsOf count)
  running : (debugger.ticked count).running = true ↔ (count : ℕ∞) < debugger.firstStop
  breakpoints : (debugger.ticked count).breakpoints = debugger.breakpoints

private theorem stepsOf_of_le {debugger : Debugger} {count : Nat}
    (early : (count : ℕ∞) ≤ debugger.firstStop) : debugger.stepsOf count = count := by
  rw [stepsOf, min_eq_left early, ENat.toNat_natCast]

private theorem follows_ticked {debugger : Debugger} (active : debugger.machine.isRunning = true)
    (count : Nat) : debugger.Follows count := by
  induction count with
  | zero =>
    have later : ((0 : Nat) : ℕ∞) < debugger.firstStop := by
      rw [lt_firstStop_iff]
      intro number positive early
      omega
    refine ⟨?_, iff_of_true rfl later, rfl⟩
    rw [stepsOf_of_le later.le]
    rfl
  | succ count ih =>
    by_cases later : (count : ℕ∞) < debugger.firstStop
    · have running := ih.running.mpr later
      have same : (debugger.ticked count).machine = debugger.machine.after count := by
        rw [ih.machine, stepsOf_of_le later.le]
      have runs : (debugger.ticked count).machine.isRunning = true := by
        rw [same]
        exact isRunning_after active later
      have next : ((count + 1 : Nat) : ℕ∞) ≤ debugger.firstStop := by
        push_cast
        exact (ENat.add_one_le_iff (ENat.natCast_ne_top count)).mpr later
      have position : (debugger.ticked count).machine.step.machine =
          debugger.machine.after (count + 1) := by
        rw [same, Machine.after_succ]
      constructor
      · rw [stepsOf_of_le next, ticked_succ, machine_tick running runs, position]
      · rw [succ_lt_firstStop_iff later, stopsAt_succ_iff, ticked_succ, running_tick running runs,
          same, ih.breakpoints]
      · rw [ticked_succ, breakpoints_tick running runs, ih.breakpoints]
    · have stopped : (debugger.ticked count).tick = debugger.ticked count :=
        tick_of_stopped fun running => later (ih.running.mp running)
      have past : debugger.firstStop ≤ (count : ℕ∞) := not_lt.mp later
      have next : debugger.firstStop ≤ ((count + 1 : Nat) : ℕ∞) :=
        past.trans (Nat.cast_le.mpr (Nat.le_succ count))
      have steps : debugger.stepsOf (count + 1) = debugger.stepsOf count := by
        rw [stepsOf, stepsOf, min_eq_right past, min_eq_right next]
      constructor
      · rw [ticked_succ, stopped, steps]
        exact ih.machine
      · rw [ticked_succ, stopped]
        exact iff_of_false (fun running => later (ih.running.mp running)) (not_lt.mpr next)
      · rw [ticked_succ, stopped]
        exact ih.breakpoints

/-! ## Batch runs -/

/-- Before the last of the steps that ticks come to, every step goes on. -/
theorem continues_after {debugger : Debugger} {count number : Nat}
    (early : number + 1 < debugger.stepsOf count) :
    (debugger.machine.after number).Continues := by
  have later : ((number + 1 : Nat) : ℕ∞) < debugger.firstStop := by
    have bound : ((number + 1 : Nat) : ℕ∞) < (debugger.stepsOf count : ℕ∞) := Nat.cast_lt.mpr early
    exact bound.trans_le ((ENat.natCast_toNat_le_self _).trans (min_le_right _ _))
  have goesOn := (lt_firstStop_iff debugger (number + 1)).mp later (number + 1) (by omega) le_rfl
  exact ((stopsAt_succ_iff debugger number).mp goesOn).1

private theorem machine_runFor_stepsOf {debugger : Debugger}
    (active : debugger.machine.isRunning = true) (count : Nat) :
    (debugger.machine.runFor (debugger.stepsOf count)).machine =
      (debugger.ticked count).machine := by
  rw [(follows_ticked active count).machine]
  exact Machine.machine_runFor active fun number early => continues_after early

/-- Without breakpoints a batch run that is given more steps than ticks come to makes no others. -/
theorem runFor_stepsOf {debugger : Debugger} (active : debugger.machine.isRunning = true)
    (free : debugger.breakpoints = []) (count : Nat) :
    debugger.machine.runFor count = debugger.machine.runFor (debugger.stepsOf count) := by
  rcases le_or_gt (count : ℕ∞) debugger.firstStop with early | late
  · rw [stepsOf_of_le early]
  · obtain ⟨stop, same⟩ := ENat.ne_top_iff_exists.mp late.ne_top
    have steps : debugger.stepsOf count = stop := by
      rw [stepsOf, min_eq_right late.le, ← same, ENat.toNat_natCast]
    cases stop with
    | zero =>
      have later : ((0 : Nat) : ℕ∞) < debugger.firstStop := by
        rw [lt_firstStop_iff]
        intro number positive first
        omega
      exact absurd same later.ne
    | succ stop =>
      have later : (stop : ℕ∞) < debugger.firstStop := by
        rw [← same]
        exact Nat.cast_lt.mpr (Nat.lt_succ_self stop)
      have continues : ∀ earlier < stop, (debugger.machine.after earlier).Continues := by
        intro earlier below
        have goesOn := (lt_firstStop_iff debugger stop).mp later (earlier + 1) (by omega) below
        exact ((stopsAt_succ_iff debugger earlier).mp goesOn).1
      have ends : ¬(debugger.machine.after stop).Continues := by
        intro goesOn
        have next := (succ_lt_firstStop_iff later).mpr ((stopsAt_succ_iff debugger stop).mpr
          ⟨goesOn, by rw [free]; exact List.not_mem_nil⟩)
        rw [← same] at next
        exact lt_irrefl _ next
      have below : stop + 1 < count := by
        rw [← same] at late
        exact Nat.cast_lt.mp late
      obtain ⟨budget, rfl⟩ := Nat.exists_eq_add_of_lt below
      rw [steps, Nat.add_assoc (stop + 1)]
      exact Machine.runFor_add active continues ends (budget + 1)

/-! ## New machines -/

theorem ofProgram_eq_ok {configuration : Configuration} {program : List UInt8} {new : Debugger}
    (made : ofProgram configuration program = .ok new) :
    ∃ machine, Machine.ofProgram configuration.memoryBytes program Console.silent = .ok machine ∧
      new = ⟨machine, program, configuration.memoryBytes, configuration.base, [], false, false,
        .ready, 0⟩ := by
  rw [ofProgram] at made
  cases loaded : Machine.ofProgram configuration.memoryBytes program Console.silent with
  | error error =>
    rw [loaded] at made
    cases made
  | ok machine =>
    rw [loaded] at made
    cases made
    exact ⟨machine, rfl, rfl⟩

private theorem machine_ofProgram {configuration : Configuration} {program : List UInt8}
    {debugger : Debugger} (made : ofProgram configuration program = .ok debugger) :
    Machine.ofProgram configuration.memoryBytes program Console.silent = .ok debugger.machine ∧
      debugger.breakpoints = [] := by
  obtain ⟨machine, loaded, rfl⟩ := ofProgram_eq_ok made
  exact ⟨loaded, rfl⟩

/-- A new debugger and an emulation that is limited to the number of ticks begin and end alike. -/
theorem runProgram_eq_ofRun {configuration : Configuration} {program : List UInt8}
    {debugger : Debugger} (made : ofProgram configuration program = .ok debugger) {count : Nat}
    (fits : count < Machine.cycleSpan) :
    ∃ run, Emulation.runProgram { configuration with maxCycles := some count } program
        Console.silent = .ofRun run ∧
      run.machine = (debugger.ticked count).machine := by
  obtain ⟨loaded, free⟩ := machine_ofProgram made
  obtain ⟨active, fresh⟩ := Machine.isRunning_ofProgram loaded
  refine ⟨debugger.machine.runFor count, ?_, ?_⟩
  · rw [Emulation.runProgram]
    simp only [loaded, Emulation.start?, Machine.runLimited?, fresh, Nat.zero_add, if_pos fits]
  · rw [runFor_stepsOf active free, machine_runFor_stepsOf active]

private theorem runProgram_eq_error {configuration : Configuration} {program : List UInt8}
    {error : MemoryError} (failed : ofProgram configuration program = .error error) (count : Nat) :
    Emulation.runProgram { configuration with maxCycles := some count } program Console.silent =
      ⟨Console.silent, .error (.memory error)⟩ := by
  cases loaded : Machine.ofProgram configuration.memoryBytes program Console.silent with
  | error error =>
    rw [ofProgram, loaded] at failed
    cases failed
    rw [Emulation.runProgram]
    simp only [loaded]
  | ok machine =>
    rw [ofProgram, loaded] at failed
    cases failed

/-- Ticks and batch runs agree, whatever the breakpoints: on the machine, on when the run is over,
and on what a breakpoint keeps from being executed. -/
theorem ticks_agree_with_runs {debugger : Debugger} (active : debugger.machine.isRunning = true)
    {count : Nat} (fits : debugger.machine.cycles + count < Machine.cycleSpan) :
    (∃ run, debugger.machine.runLimited? (debugger.stepsOf count) = some run ∧
      Machine.Loops (debugger.machine.cycles + debugger.stepsOf count) debugger.machine run ∧
      run.machine = (debugger.ticked count).machine) ∧
    ((debugger.ticked count).running = true ↔ (count : ℕ∞) < debugger.firstStop) ∧
    (1 ≤ count → (debugger.ticked count).programCounter ∈ debugger.breakpoints →
      debugger.ticked (count + 1) = debugger.ticked count) ∧
    (∀ other : Debugger, other.tick.running = true →
      other.tick.machine.isRunning = true ∧
        other.tick.programCounter ∉ other.tick.breakpoints) ∧
    (∀ configuration program fresh, ofProgram configuration program = .ok fresh →
      ∃ run, Emulation.runProgram { configuration with maxCycles := some count } program
          Console.silent = .ofRun run ∧
        run.machine = (fresh.ticked count).machine) ∧
    ∀ configuration program error, ofProgram configuration program = .error error →
      Emulation.runProgram { configuration with maxCycles := some count } program Console.silent =
        ⟨Console.silent, .error (.memory error)⟩ := by
  have follows := follows_ticked active count
  have steps : debugger.stepsOf count ≤ count :=
    ENat.toNat_le_of_le_natCast (min_le_left _ _)
  refine ⟨⟨debugger.machine.runFor (debugger.stepsOf count), ?_, ?_, ?_⟩, follows.running, ?_, ?_,
    ?_, ?_⟩
  · rw [Machine.runLimited?, if_pos (by omega)]
  · exact Machine.loops_runFor debugger.machine (debugger.stepsOf count)
  · exact machine_runFor_stepsOf active count
  · intro started reached
    rw [ticked_succ]
    apply tick_of_stopped
    intro running
    obtain ⟨before, rfl⟩ := Nat.exists_eq_add_of_le' started
    rw [← follows.breakpoints] at reached
    rw [ticked_succ] at running reached
    exact (active_of_running_tick running).2 reached
  · intro other running
    exact active_of_running_tick running
  · intro configuration program fresh made
    exact runProgram_eq_ofRun made (by omega)
  · intro configuration program error failed
    exact runProgram_eq_error failed count

/-- A loop of two instructions with a breakpoint at the second. -/
def looping : Debugger where
  machine :=
    { registers := RegisterBank.zeroed
      memory :=
        { cells := #[Word.ofNat 0x051A, Word.ofNat 0xFF0F]
          programCounter := Counter.ofNat 2 1 (by decide)
          memoryCounter := Counter.ofNat 2 1 (by decide) }
      device := Console.silent
      status := .running
      cycles := 0
      last? := none }
  program := []
  memoryBytes := 4
  radix := .decimal
  breakpoints := [1]
  running := false
  leaving := false
  notice := .ready
  scroll := 0

theorem looping_stops : looping.machine.isRunning = true ∧
    looping.machine.cycles + 5 < Machine.cycleSpan ∧ ¬((5 : Nat) : ℕ∞) < looping.firstStop ∧
    ∃ run, looping.machine.runLimited? (looping.stepsOf 5) = some run ∧
      run.machine.cycles = 2 ∧ run.machine.memory.programCounter.value = 1 := by
  have active : looping.machine.isRunning = true := rfl
  have fits : looping.machine.cycles + 5 < Machine.cycleSpan := by decide
  obtain ⟨⟨run, limited, -, same⟩, running, -⟩ := ticks_agree_with_runs active fits
  refine ⟨active, fits, ?_, run, limited, ?_, ?_⟩
  · rw [← running]
    decide
  · rw [same]
    decide
  · rw [same]
    decide

end WordMachine.Debugger
