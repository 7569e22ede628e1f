import WordMachine.Machine.Run
import WordMachine.Proofs.Machine.Effect

/-! Bounded runs. Counting the steps of a run and watching the cycle counter come to the same,
because an instruction that is completed counts as one cycle and a word that halts as none. -/

set_option autoImplicit false

namespace WordMachine.Machine

variable {Device : Type} [Peripheral Device]

/-! ## What a step can do -/

theorem cycles_execute (machine : Machine Device) (instruction : Instruction) :
    (machine.execute instruction).machine.cycles = machine.cycles := by
  have effect := effect_execute machine instruction
  generalize machine.execute instruction = executed at effect
  cases effect <;> rfl

theorem cycles_step {machine : Machine Device} {instruction : Instruction}
    (done : machine.step.result = .ok (some instruction)) :
    machine.step.machine.cycles = machine.cycles + 1 := by
  have shape := stepsTo_step machine
  generalize machine.step = stepped at shape done
  cases shape with
  | halted | outside | exit | fault => cases done
  | complete => exact congrArg (· + 1) (cycles_execute machine _)

theorem isRunning_step {machine : Machine Device} (done : machine.step.result = .ok none) :
    machine.step.machine.isRunning = false := by
  have shape := stepsTo_step machine
  generalize machine.step = stepped at shape done
  cases shape with
  | halted | outside | fault | complete => cases done
  | exit => rfl

theorem cycles_step_of_error {machine : Machine Device} {fault : Fault}
    (failed : machine.step.result = .error fault) :
    machine.step.machine.cycles = machine.cycles := by
  have shape := stepsTo_step machine
  generalize machine.step = stepped at shape failed
  cases shape with
  | halted | outside => rfl
  | exit | complete => cases failed
  | fault => exact cycles_execute machine _

theorem cycles_step_of_exit {machine : Machine Device} (done : machine.step.result = .ok none) :
    machine.step.machine.cycles = machine.cycles := by
  have shape := stepsTo_step machine
  generalize machine.step = stepped at shape done
  cases shape with
  | halted | outside | fault | complete => cases done
  | exit => rfl

private theorem cycles_step_le (machine : Machine Device) :
    machine.step.machine.cycles ≤ machine.cycles + 1 := by
  cases done : machine.step.result with
  | error fault => exact (cycles_step_of_error done).le.trans (Nat.le_succ _)
  | ok executed? =>
    cases executed? with
    | none => exact (cycles_step_of_exit done).le.trans (Nat.le_succ _)
    | some instruction => exact (cycles_step done).le

/-- A cycle count that has room for one more cycle does not overflow in a step. -/
theorem cycles_step_lt {machine : Machine Device} (room : machine.cycles + 1 < cycleSpan) :
    machine.step.machine.cycles < cycleSpan :=
  machine.cycles_step_le.trans_lt room

/-! ## Bounded runs -/

theorem runFor_of_halted {machine : Machine Device} (halted : machine.isRunning = false)
    (budget : Nat) : machine.runFor budget = ⟨machine, none⟩ := by
  cases budget with
  | zero => rfl
  | succ budget => rw [runFor, halted, if_neg Bool.false_ne_true]

theorem runFor_of_ok {machine : Machine Device} {executed? : Option Instruction}
    (running : machine.isRunning = true) (done : machine.step.result = .ok executed?)
    (budget : Nat) : machine.runFor (budget + 1) = machine.step.machine.runFor budget := by
  rw [runFor, if_pos running]
  simp only [done]

theorem runFor_of_error {machine : Machine Device} {fault : Fault}
    (running : machine.isRunning = true) (failed : machine.step.result = .error fault)
    (budget : Nat) : machine.runFor (budget + 1) = ⟨machine.step.machine, some fault⟩ := by
  rw [runFor, if_pos running]
  simp only [failed]

/-- A run with a budget, step by step. -/
inductive RunsFor : Nat → Machine Device → Run Device → Prop where
  | cut {machine : Machine Device} : RunsFor 0 machine ⟨machine, none⟩
  | halted {machine : Machine Device} {budget : Nat} :
      machine.isRunning = false → RunsFor (budget + 1) machine ⟨machine, none⟩
  | failed {machine : Machine Device} {budget : Nat} {fault : Fault} :
      machine.isRunning = true → machine.step.result = .error fault →
      RunsFor (budget + 1) machine ⟨machine.step.machine, some fault⟩
  | goesOn {machine : Machine Device} {budget : Nat} {executed? : Option Instruction}
      {run : Run Device} :
      machine.isRunning = true → machine.step.result = .ok executed? →
      RunsFor budget machine.step.machine run → RunsFor (budget + 1) machine run

theorem runsFor_runFor (machine : Machine Device) (budget : Nat) :
    RunsFor budget machine (machine.runFor budget) := by
  induction budget generalizing machine with
  | zero => exact .cut
  | succ budget ih =>
    cases running : machine.isRunning with
    | false =>
      rw [runFor_of_halted running]
      exact .halted running
    | true =>
      cases done : machine.step.result with
      | ok executed? =>
        rw [runFor_of_ok running done]
        exact .goesOn running done (ih machine.step.machine)
      | error fault =>
        rw [runFor_of_error running done]
        exact .failed running done

theorem RunsFor.runFor_eq {machine : Machine Device} {budget : Nat} {run : Run Device}
    (runs : RunsFor budget machine run) : machine.runFor budget = run := by
  induction runs with
  | cut => rfl
  | halted halted => exact runFor_of_halted halted _
  | failed running failed => exact runFor_of_error running failed _
  | goesOn running done _ ih => rw [runFor_of_ok running done, ih]

theorem RunsFor.eq_of_halted {machine : Machine Device} {budget : Nat} {run : Run Device}
    (runs : RunsFor budget machine run) (halted : machine.isRunning = false) :
    run = ⟨machine, none⟩ := by
  cases runs with
  | cut | halted => rfl
  | failed running | goesOn running =>
    rw [halted] at running
    cases running

/-- What every step keeps, whether or not it fails, a run keeps; and a run fails as a step does. -/
theorem runFor_keeps (kept : Machine Device → Prop) (allowed : Fault → Prop)
    (step : ∀ machine : Machine Device, kept machine →
      kept machine.step.machine ∧ ∀ fault, machine.step.result = .error fault → allowed fault)
    {machine : Machine Device} (holds : kept machine) (budget : Nat) :
    kept (machine.runFor budget).machine ∧
      ∀ fault, (machine.runFor budget).fault? = some fault → allowed fault := by
  have runs := runsFor_runFor machine budget
  generalize machine.runFor budget = run at runs
  induction runs with
  | cut | halted => exact ⟨holds, nofun⟩
  | @failed machine budget fault _ failed =>
    obtain ⟨next, faults⟩ := step machine holds
    refine ⟨next, ?_⟩
    intro other same
    cases same
    exact faults fault failed
  | @goesOn machine _ _ _ _ _ _ ih => exact ih (step machine holds).1

/-- The loop that executes instructions while the machine runs and its cycles stay below a limit.
A step that fails leaves the loop. -/
inductive Loops (limit : Nat) : Machine Device → Run Device → Prop where
  | halted {machine : Machine Device} :
      machine.isRunning = false → Loops limit machine ⟨machine, none⟩
  | limited {machine : Machine Device} :
      ¬machine.cycles < limit → Loops limit machine ⟨machine, none⟩
  | failed {machine : Machine Device} {fault : Fault} :
      machine.isRunning = true → machine.cycles < limit → machine.step.result = .error fault →
      Loops limit machine ⟨machine.step.machine, some fault⟩
  | goesOn {machine : Machine Device} {executed? : Option Instruction} {run : Run Device} :
      machine.isRunning = true → machine.cycles < limit → machine.step.result = .ok executed? →
      Loops limit machine.step.machine run → Loops limit machine run

/-- A run that counts its steps is the run of the loop that watches the cycles. -/
theorem loops_runFor (machine : Machine Device) (budget : Nat) :
    Loops (machine.cycles + budget) machine (machine.runFor budget) := by
  have runs := runsFor_runFor machine budget
  generalize machine.runFor budget = run at runs
  induction runs with
  | cut => exact .limited (Nat.lt_irrefl _)
  | halted halted => exact .halted halted
  | failed running failed => exact .failed running (by omega) failed
  | @goesOn machine budget executed? run running done rest ih =>
    refine .goesOn running (by omega) done ?_
    cases executed? with
    | some instruction =>
      rw [cycles_step done, Nat.add_assoc, Nat.add_comm 1] at ih
      exact ih
    | none =>
      -- The word that halts has used up a step but no cycle, so the limits of the two differ by
      -- one; this makes no difference to a machine that has halted.
      have halted := isRunning_step done
      rw [rest.eq_of_halted halted]
      exact .halted halted

/-! ## Longer budgets -/

/-- The run that a single step comes to. -/
def Stepped.run (stepped : Stepped Device) : Run Device :=
  match stepped.result with
  | .ok _ => ⟨stepped.machine, none⟩
  | .error fault => ⟨stepped.machine, some fault⟩

theorem runFor_one {machine : Machine Device} (running : machine.isRunning = true) :
    machine.runFor 1 = machine.step.run := by
  rw [Stepped.run]
  cases done : machine.step.result with
  | ok executed? => exact runFor_of_ok running done 0
  | error fault => exact runFor_of_error running done 0

/-- The run with more instructions to execute, unless a step has failed. -/
def Run.resume (run : Run Device) (budget : Nat) : Run Device :=
  match run.fault? with
  | none => run.machine.runFor budget
  | some _ => run

theorem runFor_add_budget (machine : Machine Device) (first second : Nat) :
    machine.runFor (first + second) = (machine.runFor first).resume second := by
  have runs := runsFor_runFor machine first
  generalize machine.runFor first = run at runs
  induction runs with
  | cut =>
    rw [Nat.zero_add]
    rfl
  | halted halted =>
    rw [runFor_of_halted halted]
    exact (runFor_of_halted halted second).symm
  | failed running failed =>
    rw [Nat.add_right_comm, runFor_of_error running failed]
    rfl
  | goesOn running done _ ih => rw [Nat.add_right_comm, runFor_of_ok running done, ih]

/-! ## Steps in a row -/

/-- The machine after a number of steps, whatever comes of them. -/
def after (machine : Machine Device) (count : Nat) : Machine Device :=
  (fun machine => machine.step.machine)^[count] machine

theorem after_zero (machine : Machine Device) : machine.after 0 = machine := rfl

theorem after_succ (machine : Machine Device) (count : Nat) :
    machine.after (count + 1) = (machine.after count).step.machine :=
  Function.iterate_succ_apply' _ count machine

theorem after_step (machine : Machine Device) (count : Nat) :
    machine.step.machine.after count = machine.after (count + 1) :=
  (Function.iterate_succ_apply _ count machine).symm

/-- The next step neither fails nor halts the machine. -/
structure Continues (machine : Machine Device) : Prop where
  succeeds : ∃ executed?, machine.step.result = .ok executed?
  running : machine.step.machine.isRunning = true

theorem Continues.executes {machine : Machine Device} (continues : machine.Continues) :
    ∃ instruction, machine.step.result = .ok (some instruction) := by
  obtain ⟨executed?, done⟩ := continues.succeeds
  cases executed? with
  | some instruction => exact ⟨instruction, done⟩
  | none =>
    have halted := isRunning_step done
    rw [continues.running] at halted
    cases halted

theorem after_of_continues {machine : Machine Device} (running : machine.isRunning = true)
    {count : Nat} (continues : ∀ earlier < count, (machine.after earlier).Continues) :
    (machine.after count).isRunning = true ∧
      (machine.after count).cycles = machine.cycles + count := by
  induction count with
  | zero => exact ⟨running, rfl⟩
  | succ count ih =>
    have last := continues count (Nat.lt_succ_self count)
    obtain ⟨-, cycles⟩ := ih fun earlier below => continues earlier (Nat.lt_succ_of_lt below)
    obtain ⟨instruction, done⟩ := last.executes
    rw [after_succ]
    exact ⟨last.running, by rw [cycles_step done, cycles, Nat.add_assoc]⟩

theorem runFor_of_continues {machine : Machine Device} (running : machine.isRunning = true)
    {budget : Nat} (continues : ∀ earlier < budget, (machine.after earlier).Continues) :
    machine.runFor budget = ⟨machine.after budget, none⟩ := by
  induction budget with
  | zero => rfl
  | succ budget ih =>
    have last := continues budget (Nat.lt_succ_self budget)
    have others : ∀ earlier < budget, (machine.after earlier).Continues := fun earlier below =>
      continues earlier (Nat.lt_succ_of_lt below)
    obtain ⟨executed?, done⟩ := last.succeeds
    rw [runFor_add_budget, ih others, after_succ]
    exact runFor_of_ok (after_of_continues running others).1 done 0

private theorem runFor_add_of_continues {machine : Machine Device}
    (running : machine.isRunning = true) {count : Nat}
    (continues : ∀ earlier < count, (machine.after earlier).Continues) (budget : Nat) :
    machine.runFor (count + budget) = (machine.after count).runFor budget := by
  rw [runFor_add_budget, runFor_of_continues running continues]
  rfl

/-- A bounded run goes through its steps as long as the ones before the last go on. -/
theorem machine_runFor {machine : Machine Device} (running : machine.isRunning = true)
    {budget : Nat} (continues : ∀ count, count + 1 < budget → (machine.after count).Continues) :
    (machine.runFor budget).machine = machine.after budget := by
  cases budget with
  | zero => rfl
  | succ budget =>
    have others : ∀ earlier < budget, (machine.after earlier).Continues := fun earlier below =>
      continues earlier (Nat.succ_lt_succ below)
    rw [runFor_add_of_continues running others, runFor_one (after_of_continues running others).1,
      after_succ, Stepped.run]
    split <;> rfl

private theorem runFor_of_not_continues {machine : Machine Device}
    (running : machine.isRunning = true) (ends : ¬machine.Continues) (budget : Nat) :
    machine.runFor (budget + 1) = machine.runFor 1 := by
  cases done : machine.step.result with
  | error fault => rw [runFor_of_error running done, runFor_of_error running done]
  | ok executed? =>
    have halted : machine.step.machine.isRunning = false := by
      rw [← Bool.not_eq_true]
      intro goesOn
      exact ends ⟨⟨executed?, done⟩, goesOn⟩
    rw [runFor_of_ok running done, runFor_of_ok running done, runFor_of_halted halted,
      runFor_of_halted halted]

theorem runFor_add {machine : Machine Device} (running : machine.isRunning = true) {count : Nat}
    (continues : ∀ earlier < count, (machine.after earlier).Continues)
    (ends : ¬(machine.after count).Continues) (budget : Nat) :
    machine.runFor (count + 1 + budget) = machine.runFor (count + 1) := by
  have active := (after_of_continues running continues).1
  rw [Nat.add_assoc, Nat.add_comm 1, runFor_add_of_continues running continues,
    runFor_add_of_continues running continues, runFor_of_not_continues active ends]

/-! ## New machines -/

omit [Peripheral Device] in
theorem isRunning_ofProgram {bytes : Nat} {program : List UInt8} {device : Device}
    {machine : Machine Device} (made : Machine.ofProgram bytes program device = .ok machine) :
    machine.isRunning = true ∧ machine.cycles = 0 := by
  rw [Machine.ofProgram, Machine.ofSize] at made
  cases empty : Memory.ofSize bytes with
  | error error =>
    rw [empty] at made
    cases made
  | ok memory =>
    rw [empty] at made
    simp only [Except.map, Machine.loadProgram] at made
    cases loaded : memory.loadProgram program with
    | error error =>
      rw [loaded] at made
      cases made
    | ok memory =>
      rw [loaded] at made
      cases made
      exact ⟨rfl, rfl⟩

end WordMachine.Machine
