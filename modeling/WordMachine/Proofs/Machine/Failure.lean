import WordMachine.Proofs.Machine.Size

/-! Steps that fail. On a console they leave the machine as it was, except that a number which could
not be read is gone from the input. A run that fails has therefore come to the machine before the
request that failed, and goes on with the same request. -/

set_option autoImplicit false

namespace WordMachine

/-! ## Requests to the console -/

namespace Console

/-- A line with its end has been taken from the input, or all of an input without one. -/
inductive TakesLine : List UInt8 → List UInt8 → Prop where
  | ended {line rest : List UInt8} :
      lineFeed ∉ line → TakesLine (line ++ lineFeed :: rest) rest
  | unended {line : List UInt8} : lineFeed ∉ line → TakesLine line []

theorem takesLine_splitLine (input : List UInt8) : TakesLine input (splitLine input).2 := by
  have whole := List.takeWhile_append_dropWhile (p := (· != lineFeed)) (l := input)
  have clear : lineFeed ∉ input.takeWhile (· != lineFeed) := by
    intro member
    simpa using List.mem_takeWhile_imp member
  have first := List.head?_dropWhile_not (· != lineFeed) input
  rw [splitLine]
  cases ended : input.dropWhile (· != lineFeed) with
  | nil =>
    rw [ended, List.append_nil] at whole
    exact .unended (whole ▸ clear)
  | cons feed rest =>
    simp only [ended, List.head?_cons, bne_eq_false_iff_eq] at first
    rw [ended, first] at whole
    have taken : TakesLine (input.takeWhile (· != lineFeed) ++ lineFeed :: rest) rest :=
      .ended clear
    rwa [whole] at taken

/-- A request that fails changes nothing, or it is one for a number and takes a line of input. -/
theorem perform_of_error {console : Console} {command : Word} {register : Register}
    {registers : RegisterBank} {error : PeripheralError}
    (failed : (perform command register registers console).result = .error error) :
    (perform command register registers console).registers = registers ∧
      ((perform command register registers console).device = console ∨
        Command.ofWord? command = some .readInt ∧ ∃ rest, TakesLine console.unread rest ∧
          (perform command register registers console).device =
            { console with unread := rest }) := by
  unfold perform at failed ⊢
  cases known : Command.ofWord? command with
  | none => exact ⟨rfl, .inl rfl⟩
  | some command =>
    simp only [known] at failed ⊢
    cases command with
    | writeInt | writeChar => cases failed
    | readInt =>
      have line := takesLine_splitLine console.unread
      simp only [run] at failed ⊢
      cases read : number (splitLine console.unread).1 with
      | ok word =>
        simp only [read] at failed
        cases failed
      | error error => exact ⟨rfl, .inr ⟨trivial, _, line, rfl⟩⟩
    | readChar =>
      simp only [run] at failed
      split at failed <;> cases failed
    | exit =>
      simp only [run] at failed ⊢
      cases requested : requestedExit (registers.read register) with
      | ok code =>
        simp only [requested] at failed
        cases failed
      | error error => exact ⟨rfl, .inl rfl⟩

end Console

namespace Machine

/-! ## Steps -/

/-- The second machine is the first one, except that a request for a number may have cost the
console a line of input. -/
inductive LosesLine (machine : Machine Console) : Machine Console → Prop where
  | nothing : LosesLine machine machine
  | line {instruction : Instruction} {rest : List UInt8} :
      machine.Executes instruction → instruction.opcode = .piu →
      Console.Command.ofWord? instruction.immediate = some .readInt →
      Console.TakesLine machine.device.unread rest →
      LosesLine machine { machine with device.unread := rest }

private theorem LosesLine.executes {machine failed : Machine Console} {instruction : Instruction}
    (loses : LosesLine machine failed) (executes : machine.Executes instruction) :
    failed.Executes instruction := by
  cases loses with
  | nothing => exact executes
  | line => exact ⟨executes.running, executes.fetched⟩

private theorem answer_of_registers {machine : Machine Console} {reply : Reply Console}
    (same : reply.registers = machine.registers) :
    machine.answer reply = { machine with device := reply.device } := by
  rw [answer, same]

private theorem losesLine_answer {machine : Machine Console} {instruction : Instruction}
    {error : PeripheralError} (executes : machine.Executes instruction)
    (request : instruction.opcode = .piu)
    (failed : (machine.reply instruction).result = .error error) :
    LosesLine machine (machine.answer (machine.reply instruction)) := by
  have shape : machine.reply instruction =
      Console.perform instruction.immediate instruction.r2 machine.registers machine.device := rfl
  rw [shape] at failed ⊢
  obtain ⟨registers, device | ⟨command, rest, line, device⟩⟩ := Console.perform_of_error failed
  · rw [answer_of_registers registers, device]
    exact .nothing
  · rw [answer_of_registers registers, device]
    exact .line executes request command line

/-- A step that fails is one that misses the memory or a request that the console refuses. -/
theorem step_of_error {machine : Machine Console} {fault : Fault}
    (running : machine.isRunning = true) (failed : machine.step.result = .error fault) :
    LosesLine machine machine.step.machine ∧
      (fault.OfMemory ∨ ∃ instruction error, machine.Executes instruction ∧
        instruction.opcode = .piu ∧ fault = .peripheral error) := by
  have shape := stepsTo_step machine
  generalize machine.step = stepped at shape failed
  cases shape with
  | halted halted =>
    simp only [isRunning, halted, reduceCtorEq, decide_false, Bool.false_eq_true] at running
  | outside =>
    cases failed
    exact ⟨.nothing, .inl ⟨_, rfl⟩⟩
  | exit | complete => cases failed
  | @fault instruction fault executes faulty =>
    cases failed
    -- The instruction has not been counted, so the machine is as `execute` has left it.
    have effect := effect_execute machine instruction
    generalize machine.execute instruction = executed at effect faulty
    cases effect with
    | write | moveBase | jump | store | divideByZero | answered | requested => cases faulty
    | outside =>
      cases faulty
      exact ⟨.nothing, .inl ⟨_, rfl⟩⟩
    | refused request refused =>
      cases faulty
      exact ⟨losesLine_answer executes request refused,
        .inr ⟨instruction, _, executes, request, rfl⟩⟩

/-! ## Runs -/

private theorem ends_of_fault {machine : Machine Console} {run : Run Console} {fault : Fault}
    (ran : machine.run? = some run ∨ ∃ budget, machine.runLimited? budget = some run)
    (failed : run.fault? = some fault) :
    ∃ steps budget, Ends machine steps run ∧ machine.runFor budget = run := by
  have limited : ∃ budget, machine.runFor budget = run := by
    rcases ran with ended | ⟨budget, limited⟩
    · exact ⟨cycleSpan, (runWithin?_eq_some_iff.mp ended).1⟩
    · exact ⟨budget, (runLimited?_eq_some_iff.mp limited).2⟩
  obtain ⟨budget, rfl⟩ := limited
  obtain ⟨steps, -, ends⟩ := ends_runFor (.inr ⟨fault, failed⟩)
  exact ⟨steps, budget, ends, rfl⟩

private theorem step_of_run_fault {machine : Machine Console} {run : Run Console} {steps : Nat}
    {fault : Fault} (ends : Ends machine steps run) (failed : run.fault? = some fault) :
    ∃ count, (∀ earlier < count, (machine.after earlier).Continues) ∧
      (machine.after count).isRunning = true ∧
      (machine.after count).step = ⟨run.machine, .error fault⟩ := by
  have running : machine.isRunning = true := by
    cases ends with
    | halted => cases failed
    | failed running | goesOn running => exact running
  obtain ⟨count, rfl, last⟩ := ends.last running
  have continues : ∀ earlier < count, (machine.after earlier).Continues := fun earlier below =>
    ends.continues (Nat.succ_lt_succ below)
  refine ⟨count, continues, (after_of_continues running continues).1, ?_⟩
  generalize (machine.after count).step = stepped at last
  obtain ⟨stepped, result⟩ := stepped
  cases result with
  | ok executed? =>
    subst last
    cases failed
  | error other =>
    subst last
    cases failed
    rfl

/-- A step that fails leaves the machine as it was, a line of input apart, and so does the step in
which a run fails; unless it has missed a memory that is not well formed, it is a request to the
console, and the machine is about to make the same request again. -/
theorem failing_step_is_atomic (machine : Machine Console) :
    (∀ fault, machine.isRunning = true → machine.step.result = .error fault →
      LosesLine machine machine.step.machine) ∧
    ∀ run fault, (machine.run? = some run ∨ ∃ budget, machine.runLimited? budget = some run) →
      run.fault? = some fault →
      ∃ count, (∀ earlier < count, ∃ instruction,
          (machine.after earlier).step.result = .ok (some instruction)) ∧
        (machine.after count).step = ⟨run.machine, .error fault⟩ ∧
        LosesLine (machine.after count) run.machine ∧
        ((fault.OfMemory ∧ ¬machine.memory.WellFormed) ∨ ∃ instruction error,
          instruction.opcode = .piu ∧ fault = .peripheral error ∧
          (machine.after count).Executes instruction ∧ run.machine.Executes instruction ∧
          run.machine.step.result =
            match (Console.perform instruction.immediate instruction.r2 run.machine.registers
              run.machine.device).result with
            | .ok _ => .ok (some instruction)
            | .error error => .error (.peripheral error)) := by
  constructor
  · intro fault running failed
    exact (step_of_error running failed).1
  · intro run fault ran failed
    obtain ⟨steps, budget, ends, limited⟩ := ends_of_fault ran failed
    obtain ⟨count, continues, running, last⟩ := step_of_run_fault ends failed
    have faulty : (machine.after count).step.result = .error fault := by rw [last]
    obtain ⟨loses, cause⟩ := step_of_error running faulty
    rw [last] at loses
    refine ⟨count, fun earlier below => (continues earlier below).executes, last, loses, ?_⟩
    rcases cause with missed | ⟨instruction, error, executes, request, same⟩
    · refine .inl ⟨missed, ?_⟩
      intro formed
      subst limited
      exact (sized_runFor ⟨formed, rfl⟩ budget).2 fault failed missed
    · have again := loses.executes executes
      exact .inr ⟨instruction, error, request, same, executes, again, again.result_step request⟩

/-- A request for a number before two lines of input, of which the first is none. -/
def asking : Machine Console where
  registers := RegisterBank.zeroed
  memory :=
    { cells := #[Word.ofNat 0x051A, Word.ofNat 0x022E]
      programCounter := Counter.ofNat 2 0 Nat.zero_lt_two
      memoryCounter := Counter.ofNat 2 1 Nat.zero_lt_two }
  device := Console.ofInput [0x78, 0x0A, 0x37, 0x0A]
  status := .running
  cycles := 0
  last? := none

theorem asking_asks_again : ∃ run fault, asking.runLimited? 5 = some run ∧
    run.fault? = some fault ∧ run.machine.cycles = 1 ∧ run.machine.device.unread = [0x37, 0x0A] ∧
    ∃ instruction, instruction.opcode = .piu ∧ run.machine.Executes instruction ∧
      run.machine.step.result = .ok (some instruction) := by
  have failed : ((asking.runFor 5).fault?).isSome = true := by decide
  obtain ⟨fault, failed⟩ := Option.isSome_iff_exists.mp failed
  have limited : asking.runLimited? 5 = some (asking.runFor 5) := rfl
  obtain ⟨count, -, -, -, cause⟩ :=
    (failing_step_is_atomic asking).2 (asking.runFor 5) fault (.inr ⟨5, limited⟩) failed
  rcases cause with ⟨-, malformed⟩ | ⟨instruction, error, request, -, -, again, result⟩
  · exact absurd ⟨rfl, rfl⟩ malformed
  · obtain ⟨word, loaded, -, rfl⟩ := again.fetched
    have fetched : (asking.runFor 5).machine.memory.load
        (asking.runFor 5).machine.memory.programCounter.value = .ok (Word.ofNat 0x022E) := rfl
    cases fetched.symm.trans loaded
    refine ⟨_, fault, limited, failed, by decide, by decide, _, request, again, result.trans ?_⟩
    rfl

end Machine

end WordMachine
