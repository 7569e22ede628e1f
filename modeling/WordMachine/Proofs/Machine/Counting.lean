import WordMachine.Proofs.Machine.Input

/-! The count of a bounded run. A run that does not fail has counted the instructions that it has
come to. They are no more than its budget, and fewer only if the machine has halted. -/

set_option autoImplicit false

namespace WordMachine.Machine

variable {Device : Type} [Peripheral Device]

/-- A step that does not fail executes the instruction at the program counter, if there is one. -/
theorem next?_of_ok {machine : Machine Device} {executed? : Option Instruction}
    (done : machine.step.result = .ok executed?) : machine.next? = executed? := by
  have shape := stepsTo_step machine
  generalize machine.step = stepped at shape done
  cases shape with
  | halted | outside | fault => cases done
  | exit exits =>
    cases done
    rw [Option.eq_none_iff_forall_ne_some]
    intro instruction found
    exact (next?_eq_some_iff.mp found).not_exits exits
  | complete executes =>
    cases done
    exact next?_eq_some_iff.mpr executes

private theorem RunsFor.cycles_eq {machine : Machine Device} {budget : Nat} {run : Run Device}
    (runs : RunsFor budget machine run) (faultless : run.fault? = none) :
    run.machine.cycles = machine.cycles + (machine.fetched budget).length := by
  induction runs with
  | cut => rfl
  | halted halted =>
    rw [fetched_of_halted halted]
    rfl
  | failed => cases faultless
  | @goesOn machine budget executed? run running done rest ih =>
    have counted := ih faultless
    rw [fetched_of_ok done, next?_of_ok done, List.length_append]
    cases executed? with
    | none =>
      rw [cycles_step_of_exit done] at counted
      simpa using counted
    | some instruction =>
      rw [cycles_step done] at counted
      rw [counted, Option.toList_some, List.length_singleton, Nat.add_assoc]

private theorem runLimited?_eq_none_iff {machine : Machine Device} {budget : Nat} :
    machine.runLimited? budget = none ↔ cycleSpan ≤ machine.cycles + budget := by
  rw [runLimited?]
  split
  next fits =>
    refine iff_of_false ?_ (Nat.not_le.mpr fits)
    intro missing
    cases missing
  next outside => exact iff_of_true rfl (Nat.not_lt.mp outside)

/-- A bounded run comes to no result if and only if its budget ends beyond the 64 bits of the cycle
count. Otherwise it is the loop that watches the cycles. If it does not fail, then its count is the
number of instructions it has come to; this is at most the budget, and less only if the machine has
halted. -/
theorem budget_is_honoured (machine : Machine Device) (budget : Nat) :
    (machine.runLimited? budget = none ↔ cycleSpan ≤ machine.cycles + budget) ∧
    ∀ run, machine.runLimited? budget = some run →
      Loops (machine.cycles + budget) machine run ∧ run.machine.cycles < cycleSpan ∧
      ∀ count, run.result machine = .ok count →
        count = (machine.fetched budget).length ∧ count ≤ budget ∧
          (count < budget → run.machine.isRunning = false) := by
  refine ⟨runLimited?_eq_none_iff, ?_⟩
  intro run limited
  obtain ⟨fits, rfl⟩ := runLimited?_eq_some_iff.mp limited
  obtain ⟨-, most⟩ := cycles_runFor machine budget
  refine ⟨loops_runFor machine budget, Nat.lt_of_le_of_lt most fits, ?_⟩
  intro count counted
  obtain ⟨faultless, rfl⟩ := Run.result_eq_ok_iff.mp counted
  have exact := (runsFor_runFor machine budget).cycles_eq faultless
  refine ⟨by omega, by omega, ?_⟩
  intro short
  rw [← Bool.not_eq_true]
  intro running
  have cut := cycles_runFor_of_not_ended (Run.not_ended_iff.mpr ⟨faultless, running⟩)
  omega

/-- The image of one instruction, with an empty cell after it. -/
def lonely : List UInt8 := [0x05, 0x1A]

theorem lonely_is_counted : ∃ machine run, ofProgram 4 lonely Console.silent = .ok machine ∧
    machine.runLimited? 9 = some run ∧ run.result machine = .ok 1 ∧
    1 = (machine.fetched 9).length ∧ run.machine.isRunning = false := by
  obtain ⟨machine, made⟩ : ∃ machine, ofProgram 4 lonely Console.silent = .ok machine := ⟨_, rfl⟩
  obtain ⟨-, honoured⟩ := budget_is_honoured machine 9
  have limited : machine.runLimited? 9 = some (machine.runFor 9) := by
    cases made
    rfl
  have counted : (machine.runFor 9).result machine = .ok 1 := by
    cases made
    rfl
  obtain ⟨exact, -, halted⟩ := (honoured _ limited).2.2 1 counted
  exact ⟨machine, _, made, limited, counted, exact, halted (by decide)⟩

/-- After one instruction the largest budget has no end in 64 bits, so a run with it has no result,
although a run without a budget halts at once. -/
theorem lonely_overflows : ∃ machine run halted,
    ofProgram 4 lonely Console.silent = .ok machine ∧ machine.runLimited? 1 = some run ∧
    run.machine.isRunning = true ∧ run.machine.cycles = 1 ∧ 0xFFFFFFFFFFFFFFFF < cycleSpan ∧
    run.machine.runLimited? 0xFFFFFFFFFFFFFFFF = none ∧
    run.machine.run? = some halted ∧ halted.result run.machine = .ok 0 ∧
    halted.machine.isRunning = false := by
  obtain ⟨machine, made⟩ : ∃ machine, ofProgram 4 lonely Console.silent = .ok machine := ⟨_, rfl⟩
  have active : (machine.runFor 1).machine.isRunning = true := by
    cases made
    rfl
  have spent : (machine.runFor 1).machine.cycles = 1 := by
    cases made
    rfl
  have done : (machine.runFor 1).machine.step.result = .ok none := by
    cases made
    rfl
  have halted := isRunning_step done
  have ends : Ends (machine.runFor 1).machine 1 _ := .goesOn active done (.halted halted)
  refine ⟨machine, _, _, made, ?_, active, spent, by decide, ?_, ends.run? (by decide), ?_, halted⟩
  · cases made
    rfl
  · exact runLimited?_eq_none_iff.mpr (by rw [spent]; decide)
  · rw [Run.result, cycles_step_of_exit done, Nat.sub_self]

end WordMachine.Machine
