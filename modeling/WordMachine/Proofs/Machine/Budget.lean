import WordMachine.Console
import WordMachine.Emulation
import WordMachine.Machine.Report
import WordMachine.Proofs.Machine.Run

/-! Runs with a budget against runs without one. A run without a budget is a loop that is left after
a number of steps. A budget that covers these steps changes nothing, and a smaller one cuts the run
where every step so far has executed an instruction. -/

set_option autoImplicit false

namespace WordMachine.Machine

variable {Device : Type}

/-! ## Results of runs -/

/-- The number of executed instructions, or the fault of a step that failed. -/
def Run.result (run : Run Device) (start : Machine Device) : Except Fault Nat :=
  match run.fault? with
  | none => .ok (run.machine.cycles - start.cycles)
  | some fault => .error fault

/-- The run was left because the machine had halted or a step had failed. -/
def Run.Ended (run : Run Device) : Prop :=
  run.machine.isRunning = false ∨ ∃ fault, run.fault? = some fault

theorem Run.result_eq_ok_iff {run : Run Device} {start : Machine Device} {count : Nat} :
    run.result start = .ok count ↔
      run.fault? = none ∧ run.machine.cycles - start.cycles = count := by
  rw [result]
  cases run.fault? with
  | none => simp
  | some fault => simp

private theorem Run.result_eq_error_iff {run : Run Device} {start : Machine Device}
    {fault : Fault} :
    run.result start = .error fault ↔ run.fault? = some fault := by
  rw [result]
  cases run.fault? with
  | none => simp
  | some fault => simp

private theorem Run.Ended.isRunning {run : Run Device} (ended : run.Ended)
    (faultless : run.fault? = none) :
    run.machine.isRunning = false := by
  rcases ended with halted | ⟨fault, failed⟩
  · exact halted
  · rw [faultless] at failed
    cases failed

theorem Run.not_ended_iff {run : Run Device} :
    ¬run.Ended ↔ run.fault? = none ∧ run.machine.isRunning = true := by
  rw [Ended, not_or, Bool.not_eq_false, and_comm]
  cases run.fault? with
  | none => simp
  | some fault => simp

variable [Peripheral Device]

theorem cycles_runFor (machine : Machine Device) (budget : Nat) :
    machine.cycles ≤ (machine.runFor budget).machine.cycles ∧
      (machine.runFor budget).machine.cycles ≤ machine.cycles + budget := by
  have runs := runsFor_runFor machine budget
  generalize machine.runFor budget = run at runs
  induction runs with
  | cut => exact ⟨le_rfl, le_rfl⟩
  | halted => exact ⟨le_rfl, Nat.le_add_right _ _⟩
  | failed _ failed =>
    have cycles := cycles_step_of_error failed
    simp only
    omega
  | @goesOn machine budget executed? run _ done _ ih =>
    cases executed? with
    | none =>
      have cycles := cycles_step_of_exit done
      omega
    | some instruction =>
      have cycles := cycles_step done
      omega

theorem cycles_runFor_of_not_ended {machine : Machine Device} {budget : Nat}
    (cut : ¬(machine.runFor budget).Ended) :
    (machine.runFor budget).machine.cycles = machine.cycles + budget := by
  have runs := runsFor_runFor machine budget
  generalize machine.runFor budget = run at runs cut
  induction runs with
  | cut => rfl
  | halted halted => exact absurd (.inl halted) cut
  | failed => exact absurd (.inr ⟨_, rfl⟩) cut
  | @goesOn machine budget executed? run _ done rest ih =>
    cases executed? with
    | none =>
      have halted := isRunning_step done
      rw [rest.eq_of_halted halted] at cut
      exact absurd (.inl halted) cut
    | some instruction => rw [ih cut, cycles_step done, Nat.add_assoc, Nat.add_comm 1]

/-! ## The loop without a budget -/

/-- The loop that executes instructions while the machine runs, with the number of its steps. A
step that fails leaves the loop. -/
inductive Ends : Machine Device → Nat → Run Device → Prop where
  | halted {machine : Machine Device} : machine.isRunning = false → Ends machine 0 ⟨machine, none⟩
  | failed {machine : Machine Device} {fault : Fault} :
      machine.isRunning = true → machine.step.result = .error fault →
      Ends machine 1 ⟨machine.step.machine, some fault⟩
  | goesOn {machine : Machine Device} {executed? : Option Instruction} {steps : Nat}
      {run : Run Device} :
      machine.isRunning = true → machine.step.result = .ok executed? →
      Ends machine.step.machine steps run → Ends machine (steps + 1) run

private theorem Ends.ended {machine : Machine Device} {steps : Nat} {run : Run Device}
    (ends : Ends machine steps run) : run.Ended := by
  induction ends with
  | halted halted => exact .inl halted
  | failed _ _ => exact .inr ⟨_, rfl⟩
  | goesOn _ _ _ ih => exact ih

/-- A budget that covers the steps of the loop changes nothing. -/
theorem Ends.runFor {machine : Machine Device} {steps : Nat} {run : Run Device}
    (ends : Ends machine steps run) {budget : Nat} (enough : steps ≤ budget) :
    machine.runFor budget = run := by
  induction ends generalizing budget with
  | halted halted => exact runFor_of_halted halted budget
  | failed running failed =>
    obtain ⟨more, rfl⟩ := Nat.exists_eq_add_of_le' enough
    exact runFor_of_error running failed more
  | goesOn running done _ ih =>
    obtain ⟨more, rfl⟩ := Nat.exists_eq_add_of_le' enough
    rw [← Nat.add_assoc, runFor_of_ok running done]
    exact ih (Nat.le_add_left _ more)

private theorem Ends.steps_le {machine : Machine Device} {steps : Nat} {run : Run Device}
    (ends : Ends machine steps run) : machine.cycles + steps ≤ run.machine.cycles + 1 := by
  induction ends with
  | halted _ => exact Nat.le_succ _
  | failed _ failed => rw [cycles_step_of_error failed]
  | @goesOn machine executed? steps run _ done rest ih =>
    cases executed? with
    | some instruction =>
      rw [cycles_step done] at ih
      omega
    | none =>
      -- The only step without a cycle halts the machine, so it is the last one.
      have halted := isRunning_step done
      cases rest with
      | halted _ => rw [cycles_step_of_exit done]
      | failed running _ | goesOn running _ _ =>
        rw [halted] at running
        cases running

theorem ends_runFor {machine : Machine Device} {budget : Nat}
    (ended : (machine.runFor budget).Ended) :
    ∃ steps ≤ budget, Ends machine steps (machine.runFor budget) := by
  have runs := runsFor_runFor machine budget
  generalize machine.runFor budget = run at runs ended
  induction runs with
  | cut =>
    rcases ended with halted | ⟨fault, failed⟩
    · exact ⟨0, le_rfl, .halted halted⟩
    · cases failed
  | halted halted => exact ⟨0, Nat.zero_le _, .halted halted⟩
  | failed running failed => exact ⟨1, Nat.le_add_left 1 _, .failed running failed⟩
  | goesOn running done _ ih =>
    obtain ⟨steps, enough, ends⟩ := ih ended
    exact ⟨steps + 1, Nat.succ_le_succ enough, .goesOn running done ends⟩

theorem runWithin?_eq_some_iff {machine : Machine Device} {steps : Nat} {run : Run Device} :
    machine.runWithin? steps = some run ↔ machine.runFor steps = run ∧ run.Ended := by
  induction steps generalizing machine with
  | zero =>
    simp only [runWithin?, Machine.runFor]
    cases running : machine.isRunning with
    | false =>
      simp only [Bool.false_eq_true, if_false, Option.some.injEq]
      exact (and_iff_left_of_imp fun same => .inl (same ▸ running)).symm
    | true =>
      simp only [if_true, reduceCtorEq, false_iff]
      rintro ⟨rfl, halted | ⟨fault, failed⟩⟩
      · rw [running] at halted
        cases halted
      · cases failed
  | succ steps ih =>
    rw [runWithin?]
    cases running : machine.isRunning with
    | false =>
      simp only [Bool.false_eq_true, if_false, Option.some.injEq, runFor_of_halted running]
      exact (and_iff_left_of_imp fun same => .inl (same ▸ running)).symm
    | true =>
      cases done : machine.step.result with
      | error fault =>
        simp only [if_true, done, Option.some.injEq, runFor_of_error running done]
        exact (and_iff_left_of_imp fun same => .inr ⟨fault, same ▸ rfl⟩).symm
      | ok executed? =>
        simp only [if_true, done, runFor_of_ok running done]
        exact ih

private theorem ends_of_run? {machine : Machine Device} {run : Run Device}
    (ended : machine.run? = some run) : ∃ steps, steps ≤ cycleSpan ∧ Ends machine steps run := by
  obtain ⟨rfl, ended⟩ := runWithin?_eq_some_iff.mp ended
  exact ends_runFor ended

theorem Ends.run? {machine : Machine Device} {steps : Nat} {run : Run Device}
    (ends : Ends machine steps run) (fits : steps ≤ cycleSpan) : machine.run? = some run :=
  runWithin?_eq_some_iff.mpr ⟨ends.runFor fits, ends.ended⟩

/-! ## The last step -/

theorem Ends.continues {machine : Machine Device} {steps : Nat} {run : Run Device}
    (ends : Ends machine steps run) {count : Nat} (early : count + 1 < steps) :
    (machine.after count).Continues := by
  induction ends generalizing count with
  | halted _ => omega
  | failed _ _ => omega
  | goesOn _ done rest ih =>
    cases count with
    | zero =>
      refine ⟨⟨_, done⟩, ?_⟩
      cases rest with
      | halted _ => omega
      | failed running _ => exact running
      | goesOn running _ _ => exact running
    | succ count =>
      rw [← after_step]
      exact ih (by omega)

theorem Ends.last {machine : Machine Device} {steps : Nat} {run : Run Device}
    (ends : Ends machine steps run) (running : machine.isRunning = true) :
    ∃ before, steps = before + 1 ∧ (machine.after before).step.run = run := by
  induction ends with
  | halted halted =>
    rw [running] at halted
    cases halted
  | failed _ failed => exact ⟨0, rfl, by simp only [after_zero, Stepped.run, failed]⟩
  | @goesOn machine executed? steps run _ done rest ih =>
    cases active : machine.step.machine.isRunning with
    | true =>
      obtain ⟨before, rfl, same⟩ := ih active
      exact ⟨before + 1, rfl, after_step machine before ▸ same⟩
    | false =>
      cases rest with
      | halted _ => exact ⟨0, rfl, by simp only [after_zero, Stepped.run, done]⟩
      | failed active' _ | goesOn active' _ _ =>
        rw [active] at active'
        cases active'

/-- A machine comes to halt by an exit code, which counts as no cycle, or by an instruction, which
counts as one. -/
theorem halts_cases {machine : Machine Device} {executed? : Option Instruction}
    (running : machine.isRunning = true) (done : machine.step.result = .ok executed?)
    (halted : machine.step.machine.isRunning = false) :
    (∃ code, machine.Exits code ∧ machine.step.machine.cycles = machine.cycles) ∨
      ∃ instruction, machine.Executes instruction ∧
        (instruction.opcode = .div ∨ instruction.opcode = .piu) ∧
        machine.step.machine.cycles = machine.cycles + 1 := by
  have shape := stepsTo_step machine
  generalize machine.step = stepped at shape done halted
  cases shape with
  | halted | outside | fault => cases done
  | @exit code exits => exact .inl ⟨code, exits, rfl⟩
  | @complete instruction executes =>
    exact .inr ⟨instruction, executes, opcode_of_halts running halted,
      congrArg (· + 1) (cycles_execute machine instruction)⟩

private theorem Ends.halts {machine : Machine Device} {steps : Nat} {run : Run Device}
    (ends : Ends machine steps run) (running : machine.isRunning = true)
    (faultless : run.fault? = none) :
    ∃ before, steps = before + 1 ∧ (machine.after before).step.machine = run.machine ∧
      ((∃ code, (machine.after before).Exits code ∧
          run.machine.cycles = machine.cycles + before) ∨
        ∃ instruction, (machine.after before).Executes instruction ∧
          (instruction.opcode = .div ∨ instruction.opcode = .piu) ∧
          run.machine.cycles = machine.cycles + steps) := by
  obtain ⟨before, rfl, last⟩ := ends.last running
  have continues : ∀ earlier < before, (machine.after earlier).Continues := fun earlier below =>
    ends.continues (Nat.succ_lt_succ below)
  obtain ⟨active, cycles⟩ := after_of_continues running continues
  rw [Stepped.run] at last
  cases done : (machine.after before).step.result with
  | error fault =>
    rw [done] at last
    subst last
    cases faultless
  | ok executed? =>
    rw [done] at last
    subst last
    have ways := halts_cases active done (ends.ended.isRunning faultless)
    rw [cycles] at ways
    exact ⟨before, rfl, rfl, ways⟩

/-! ## Runs that a budget cuts -/

private theorem Ends.runFor_of_lt {machine : Machine Device} {steps : Nat} {run : Run Device}
    (ends : Ends machine steps run) (running : machine.isRunning = true) {budget : Nat}
    (short : budget < steps) :
    machine.runFor budget = ⟨machine.after budget, none⟩ ∧
      (machine.after budget).isRunning = true ∧
      (machine.after budget).cycles = machine.cycles + budget := by
  have continues : ∀ earlier < budget, (machine.after earlier).Continues := fun earlier below =>
    ends.continues (Nat.lt_of_le_of_lt below short)
  exact ⟨runFor_of_continues running continues, after_of_continues running continues⟩

private theorem runLimited?_eq_some {machine : Machine Device} {budget : Nat}
    (fits : machine.cycles + budget < cycleSpan) :
    machine.runLimited? budget = some (machine.runFor budget) := if_pos fits

theorem runLimited?_eq_some_iff {machine : Machine Device} {budget : Nat} {run : Run Device} :
    machine.runLimited? budget = some run ↔
      machine.cycles + budget < cycleSpan ∧ machine.runFor budget = run := by
  rw [runLimited?]
  split
  next fits => rw [Option.some.injEq, and_iff_right fits]
  next outside => exact iff_of_false nofun fun both => outside both.1

/-! ## Agreement -/

private theorem runLimited?_add {machine : Machine Device} {first second : Nat}
    (fits : machine.cycles + (first + second) < cycleSpan) :
    ∃ early, machine.runLimited? first = some early ∧
      (∀ fault, early.result machine = .error fault →
        machine.runLimited? (first + second) = some early) ∧
      ∀ count, early.result machine = .ok count →
        ∃ late, early.machine.runLimited? second = some late ∧
          machine.runLimited? (first + second) = some late ∧
          late.result machine = (late.result early.machine).map (count + ·) := by
  obtain ⟨lower, upper⟩ := cycles_runFor machine first
  have whole := runFor_add_budget machine first second
  refine ⟨machine.runFor first, runLimited?_eq_some (by omega), ?_, ?_⟩
  · intro fault failed
    rw [Run.result_eq_error_iff] at failed
    rw [runLimited?_eq_some fits, whole, Run.resume, failed]
  · intro count done
    obtain ⟨faultless, rfl⟩ := Run.result_eq_ok_iff.mp done
    rw [Run.resume, faultless] at whole
    obtain ⟨later, -⟩ := cycles_runFor (machine.runFor first).machine second
    refine ⟨_, runLimited?_eq_some (by omega), ?_, ?_⟩
    · rw [runLimited?_eq_some fits, whole]
    · simp only [Run.result]
      cases ((machine.runFor first).machine.runFor second).fault? with
      | some fault => rfl
      | none =>
        simp only [Except.map, Except.ok.injEq]
        omega

private theorem run?_of_runLimited? {machine : Machine Device} {budget : Nat} {run : Run Device}
    (limited : machine.runLimited? budget = some run) (ended : run.Ended) :
    machine.run? = some run ∧ ∀ larger, budget ≤ larger →
      machine.cycles + larger < cycleSpan → machine.runLimited? larger = some run := by
  obtain ⟨fits, rfl⟩ := runLimited?_eq_some_iff.mp limited
  obtain ⟨steps, enough, ends⟩ := ends_runFor ended
  refine ⟨ends.run? (by omega), ?_⟩
  intro larger more within
  exact runLimited?_eq_some_iff.mpr ⟨within, ends.runFor (enough.trans more)⟩

private theorem ended_runLimited?_iff {machine : Machine Device} {run : Run Device} :
    (run.Ended ∧ ∃ budget, machine.runLimited? budget = some run) ↔
      ∃ steps, Ends machine steps run ∧ machine.cycles + steps < cycleSpan := by
  constructor
  · rintro ⟨ended, budget, limited⟩
    obtain ⟨fits, rfl⟩ := runLimited?_eq_some_iff.mp limited
    obtain ⟨steps, enough, ends⟩ := ends_runFor ended
    exact ⟨steps, ends, by omega⟩
  · rintro ⟨steps, ends, fits⟩
    exact ⟨ends.ended, steps, runLimited?_eq_some_iff.mpr ⟨fits, ends.runFor le_rfl⟩⟩

private theorem run?_eq_some_iff_ends {machine : Machine Device} {run : Run Device}
    (fits : run.machine.cycles < cycleSpan) :
    machine.run? = some run ↔ ∃ steps, Ends machine steps run := by
  constructor
  · intro unlimited
    obtain ⟨steps, -, ends⟩ := ends_of_run? unlimited
    exact ⟨steps, ends⟩
  · rintro ⟨steps, ends⟩
    have most := ends.steps_le
    exact ends.run? (by omega)

private theorem run?_eq_some_iff {machine : Machine Device} {run : Run Device}
    (room : run.machine.cycles + 1 < cycleSpan) :
    machine.run? = some run ↔ run.Ended ∧ ∃ budget, machine.runLimited? budget = some run := by
  rw [ended_runLimited?_iff, run?_eq_some_iff_ends (by omega)]
  constructor
  · rintro ⟨steps, ends⟩
    have most := ends.steps_le
    exact ⟨steps, ends, by omega⟩
  · rintro ⟨steps, ends, -⟩
    exact ⟨steps, ends⟩

/-- What a budget below, above and equal to the number of instructions of the whole run comes to. -/
theorem runLimited?_around {machine : Machine Device} {run : Run Device} {count : Nat}
    (running : machine.isRunning = true) (unlimited : machine.run? = some run)
    (counted : run.result machine = .ok count) (fits : run.machine.cycles < cycleSpan) :
    (∀ budget < count, ∃ short, machine.runLimited? budget = some short ∧
      short.result machine = .ok budget ∧ short.machine.isRunning = true) ∧
    (∀ budget, count < budget → machine.cycles + budget < cycleSpan →
      machine.runLimited? budget = some run) ∧
    ∃ before, (machine.after before).step.machine = run.machine ∧
      run.machine.isRunning = false ∧
      ((∃ instruction, (machine.after before).Executes instruction ∧
          (instruction.opcode = .div ∨ instruction.opcode = .piu) ∧
          machine.runLimited? count = some run) ∨
        ∃ code, (machine.after before).Exits code ∧
          machine.runLimited? count = some ⟨machine.after before, none⟩) := by
  obtain ⟨steps, -, ends⟩ := ends_of_run? unlimited
  obtain ⟨faultless, rfl⟩ := Run.result_eq_ok_iff.mp counted
  obtain ⟨before, rfl, last, ways⟩ := ends.halts running faultless
  have most : run.machine.cycles ≤ machine.cycles + (before + 1) := by
    rcases ways with ⟨code, -, cycles⟩ | ⟨instruction, -, -, cycles⟩ <;> omega
  have least : machine.cycles + before ≤ run.machine.cycles := by
    rcases ways with ⟨code, -, cycles⟩ | ⟨instruction, -, -, cycles⟩ <;> omega
  refine ⟨?_, ?_, before, last, ends.ended.isRunning faultless, ?_⟩
  · intro budget below
    obtain ⟨cut, active, cycles⟩ := ends.runFor_of_lt running (show budget < before + 1 by omega)
    refine ⟨_, runLimited?_eq_some_iff.mpr ⟨by omega, cut⟩, ?_, active⟩
    exact Run.result_eq_ok_iff.mpr ⟨rfl, by simp only [cycles]; omega⟩
  · intro budget above within
    exact runLimited?_eq_some_iff.mpr ⟨within, ends.runFor (by omega)⟩
  · rcases ways with ⟨code, exits, cycles⟩ | ⟨instruction, executes, kind, cycles⟩
    · obtain ⟨cut, -⟩ := ends.runFor_of_lt running (Nat.lt_succ_self before)
      have count : run.machine.cycles - machine.cycles = before := by omega
      rw [count]
      exact .inr ⟨code, exits, runLimited?_eq_some_iff.mpr ⟨by omega, cut⟩⟩
    · have count : run.machine.cycles - machine.cycles = before + 1 := by omega
      rw [count]
      exact .inl ⟨instruction, executes, kind,
        runLimited?_eq_some_iff.mpr ⟨by omega, ends.runFor le_rfl⟩⟩

/-! ## Reports -/

omit [Peripheral Device] in
private theorem completed_report (machine : Machine Device) :
    machine.report.completed = !machine.isRunning := by
  rw [report, isHalted, exitCode?, isRunning]
  cases machine.status with
  | running => rfl
  | halted code => rfl

/-- The report on a run with a budget is not completed if and only if the budget has cut the run. -/
theorem completed_eq_false_iff {machine : Machine Device} {budget : Nat} {run : Run Device}
    (limited : machine.runLimited? budget = some run) (faultless : run.fault? = none) :
    run.machine.report.completed = false ↔
      run.result machine = .ok budget ∧ machine.run? ≠ some run := by
  rw [completed_report, Bool.not_eq_false']
  obtain ⟨-, rfl⟩ := runLimited?_eq_some_iff.mp limited
  constructor
  · intro running
    have cut : ¬(machine.runFor budget).Ended := Run.not_ended_iff.mpr ⟨faultless, running⟩
    refine ⟨Run.result_eq_ok_iff.mpr ⟨faultless, ?_⟩, ?_⟩
    · rw [cycles_runFor_of_not_ended cut, Nat.add_sub_cancel_left]
    · intro unlimited
      obtain ⟨steps, -, ends⟩ := ends_of_run? unlimited
      exact cut ends.ended
  · rintro ⟨-, more⟩
    rw [← Bool.not_eq_false]
    intro halted
    exact more (run?_of_runLimited? limited (.inl halted)).1

private theorem completed_runProgram {configuration : Configuration} {program : List UInt8}
    {device : Device} {final : Machine Device}
    (done : (Emulation.runProgram configuration program device).result = .ok final) :
    final.report.completed = false ↔ ∃ limit loaded, configuration.maxCycles = some limit ∧
      ofProgram configuration.memoryBytes program device = .ok loaded ∧ final.cycles = limit ∧
      loaded.run? ≠ some ⟨final, none⟩ := by
  rw [Emulation.runProgram] at done
  cases made : ofProgram configuration.memoryBytes program device with
  | error error =>
    simp only [made] at done
    cases done
  | ok loaded =>
    obtain ⟨-, fresh⟩ := isRunning_ofProgram made
    cases started : Emulation.start? configuration loaded with
    | none =>
      simp only [made, started] at done
      cases done
    | some run =>
      obtain ⟨machine, fault?⟩ := run
      cases fault? with
      | some fault =>
        simp only [made, started, Emulation.Outcome.ofRun] at done
        cases done
      | none =>
        simp only [made, started, Emulation.Outcome.ofRun, Except.ok.injEq] at done
        subst done
        rw [Emulation.start?] at started
        cases limited : configuration.maxCycles with
        | none =>
          rw [limited] at started
          obtain ⟨steps, -, ends⟩ := ends_of_run? started
          have halted := ends.ended.isRunning rfl
          rw [completed_report, halted]
          simp
        | some limit =>
          rw [limited] at started
          have cut := completed_eq_false_iff started rfl
          simp only [Run.result, fresh, Nat.sub_zero, Except.ok.injEq] at cut
          rw [cut]
          constructor
          · rintro ⟨cycles, more⟩
            exact ⟨limit, loaded, rfl, rfl, cycles, more⟩
          · rintro ⟨_, _, ⟨⟩, ⟨⟩, cycles, more⟩
            exact ⟨cycles, more⟩

/-! ## Bounded and unbounded runs -/

/-- Budgets add up; a run without a budget is the loop that executes instructions while the machine
runs, and what a large enough budget comes to; around the number of its instructions it is seen
whether an exit code or an instruction has ended it; and a report tells whether the budget has. -/
theorem bounded_and_unbounded_agree (machine : Machine Device) :
    (∀ first second, machine.cycles + (first + second) < cycleSpan →
      ∃ early, machine.runLimited? first = some early ∧
        (∀ fault, early.result machine = .error fault →
          machine.runLimited? (first + second) = some early) ∧
        ∀ count, early.result machine = .ok count →
          ∃ late, early.machine.runLimited? second = some late ∧
            machine.runLimited? (first + second) = some late ∧
            late.result machine = (late.result early.machine).map (count + ·)) ∧
    (∀ run, run.machine.cycles < cycleSpan →
      (machine.run? = some run ↔ ∃ steps, Ends machine steps run)) ∧
    (∀ run, (run.Ended ∧ ∃ budget, machine.runLimited? budget = some run) ↔
      ∃ steps, Ends machine steps run ∧ machine.cycles + steps < cycleSpan) ∧
    (∀ run, run.machine.cycles + 1 < cycleSpan →
      (machine.run? = some run ↔ run.Ended ∧ ∃ budget, machine.runLimited? budget = some run)) ∧
    (∀ budget run, machine.runLimited? budget = some run → run.Ended →
      machine.run? = some run ∧ ∀ larger, budget ≤ larger →
        machine.cycles + larger < cycleSpan → machine.runLimited? larger = some run) ∧
    (∀ run count, machine.isRunning = true → machine.run? = some run →
      run.result machine = .ok count → run.machine.cycles < cycleSpan →
      (∀ budget < count, ∃ short, machine.runLimited? budget = some short ∧
        short.result machine = .ok budget ∧ short.machine.isRunning = true) ∧
      (∀ budget, count < budget → machine.cycles + budget < cycleSpan →
        machine.runLimited? budget = some run) ∧
      ∃ before, (machine.after before).step.machine = run.machine ∧
        run.machine.isRunning = false ∧
        ((∃ instruction, (machine.after before).Executes instruction ∧
            (instruction.opcode = .div ∨ instruction.opcode = .piu) ∧
            machine.runLimited? count = some run) ∨
          ∃ code, (machine.after before).Exits code ∧
            machine.runLimited? count = some ⟨machine.after before, none⟩)) ∧
    (∀ budget run, machine.runLimited? budget = some run → run.fault? = none →
      (run.machine.report.completed = false ↔
        run.result machine = .ok budget ∧ machine.run? ≠ some run)) ∧
    ∀ configuration program (device : Device) final,
      (Emulation.runProgram configuration program device).result = .ok final →
      (final.report.completed = false ↔ ∃ limit loaded, configuration.maxCycles = some limit ∧
        ofProgram configuration.memoryBytes program device = .ok loaded ∧ final.cycles = limit ∧
        loaded.run? ≠ some ⟨final, none⟩) := by
  refine ⟨?_, ?_, ?_, ?_, ?_, ?_, ?_, ?_⟩
  · intro first second fits
    exact runLimited?_add fits
  · intro run fits
    exact run?_eq_some_iff_ends fits
  · intro run
    exact ended_runLimited?_iff
  · intro run room
    exact run?_eq_some_iff room
  · intro budget run limited ended
    exact run?_of_runLimited? limited ended
  · intro run count running unlimited counted fits
    exact runLimited?_around running unlimited counted fits
  · intro budget run limited faultless
    exact completed_eq_false_iff limited faultless
  · intro configuration program device final done
    exact completed_runProgram done

/-- An instruction and then an exit code. -/
def stopping : Machine Console where
  registers := RegisterBank.zeroed
  memory :=
    { cells := #[Word.ofNat 0x051A, Word.ofNat 0x3000]
      programCounter := Counter.ofNat 2 0 Nat.zero_lt_two
      memoryCounter := Counter.ofNat 2 1 Nat.zero_lt_two }
  device := Console.silent
  status := .running
  cycles := 7
  last? := none

theorem stopping_agrees : stopping.isRunning = true ∧
    ∃ run, stopping.run? = some run ∧ run.result stopping = .ok 1 ∧
      (∃ early, stopping.runLimited? 1 = some early ∧ early.machine.report.completed = false ∧
        early.machine.runLimited? 1 = some run) ∧
      stopping.runLimited? 9 = some run := by
  obtain ⟨adds, -, -, -, larger, around, cut, -⟩ := bounded_and_unbounded_agree stopping
  have running : stopping.isRunning = true := rfl
  have ended : (stopping.runFor 2).Ended := .inl rfl
  obtain ⟨unlimited, more⟩ := larger 2 (stopping.runFor 2) rfl ended
  obtain ⟨-, above, -⟩ := around _ 1 running unlimited rfl (by decide)
  obtain ⟨early, limited, -, goesOn⟩ := adds 1 1 (by decide)
  obtain rfl : stopping.runFor 1 = early := Option.some.inj limited
  obtain ⟨late, later, whole, -⟩ := goesOn 1 rfl
  obtain rfl : stopping.runFor 2 = late := Option.some.inj whole
  have cutShort := (cut 1 (stopping.runFor 1) limited rfl).mpr ⟨rfl, ?_⟩
  · exact ⟨running, _, unlimited, rfl, ⟨_, limited, cutShort, later⟩,
      above 9 (by decide) (by decide)⟩
  · rw [unlimited]
    intro same
    have halted := congrArg (fun run => run.machine.isRunning) (Option.some.inj same)
    cases halted

end WordMachine.Machine
