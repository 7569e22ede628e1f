import WordMachine.Proofs.Machine.Failure
import WordMachine.Proofs.Machine.Halting

/-! Input. A read takes bytes from the front of the input and looks no further, as long as something
is left. So what a run leaves unread has not influenced it, and could have been anything else. -/

set_option autoImplicit false

namespace WordMachine

/-! ## Commands to the console -/

namespace Console

/-- The console with other bytes to be read. -/
def withInput (console : Console) (input : List UInt8) : Console := { console with unread := input }

def Command.reads : Command → Bool
  | .readInt | .readChar => true
  | .writeInt | .writeChar | .exit => false

theorem splitLine_ended {line rest : List UInt8} (clear : lineFeed ∉ line) :
    splitLine (line ++ lineFeed :: rest) = (line ++ [lineFeed], rest) := by
  have inside : ∀ byte ∈ line, (byte != lineFeed) = true := by
    intro byte member
    rw [bne_iff_ne]
    rintro rfl
    exact clear member
  rw [splitLine, List.takeWhile_append_of_pos inside, List.dropWhile_append_of_pos inside]
  simp

/-- A line that leaves something of the input has ended, so it is the same before other bytes. -/
theorem splitLine_of_left {taken left rest : List UInt8} (nonempty : rest ≠ [])
    (split : (splitLine (taken ++ rest)).2 = left ++ rest) (other : List UInt8) :
    splitLine (taken ++ other) = ((splitLine (taken ++ rest)).1, left ++ other) := by
  have line := takesLine_splitLine (taken ++ rest)
  rw [split] at line
  generalize whole : taken ++ rest = input at line ⊢
  generalize after : left ++ rest = unread at line
  cases line with
  | unended => simp [nonempty] at after
  | @ended line unread clear =>
    subst after
    rw [← List.cons_append, ← List.append_assoc, List.append_cancel_right_eq] at whole
    rw [whole, List.append_assoc, List.cons_append, splitLine_ended clear, splitLine_ended clear]

/-- The answer to a request for a number, which has taken a line of the input. -/
def takeNumber (console : Console) (registers : RegisterBank) (register : Register)
    (line rest : List UInt8) : Reply Console where
  device := console.withInput rest
  registers :=
    match number line with
    | .ok word => registers.write register word
    | .error _ => registers
  result := (number line).map fun _ => none

section

variable {console : Console} {registers : RegisterBank} {register : Register}

theorem run_readInt : console.run registers register .readInt =
    console.takeNumber registers register (splitLine console.unread).1
      (splitLine console.unread).2 := by
  simp only [run, takeNumber, withInput]
  cases number (splitLine console.unread).1 <;> rfl

theorem run_readChar {byte : UInt8} {rest : List UInt8} (input : console.unread = byte :: rest) :
    console.run registers register .readChar =
      ⟨console.withInput rest, registers.write register (Word.ofNat byte.toNat), .ok none⟩ := by
  simp only [run, input, withInput]

private theorem run_of_not_reads {command : Command} (silent : command.reads = false) :
    (console.run registers register command).device.unread = console.unread ∧
      ∀ input, (console.withInput input).run registers register command =
        { console.run registers register command with
          device := (console.run registers register command).device.withInput input } := by
  cases command with
  | readInt | readChar => cases silent
  | writeInt | writeChar => exact ⟨rfl, fun _ => rfl⟩
  | exit =>
    simp only [run]
    cases requestedExit (registers.read register) <;> exact ⟨rfl, fun _ => rfl⟩

private theorem run_of_reads {command : Command} {taken left rest : List UInt8}
    (reads : command.reads = true) (nonempty : rest ≠ []) (input : console.unread = taken ++ rest)
    (unread : (console.run registers register command).device.unread = left ++ rest)
    (other : List UInt8) :
    (console.withInput (taken ++ other)).run registers register command =
      { console.run registers register command with
        device := (console.run registers register command).device.withInput (left ++ other) } := by
  cases command with
  | writeInt | writeChar | exit => cases reads
  | readInt =>
    rw [run_readInt, input] at unread
    rw [run_readInt, run_readInt, input]
    have split := splitLine_of_left nonempty unread other
    simp only [withInput, takeNumber, split]
  | readChar =>
    cases taken with
    | nil =>
      -- The byte would have been the first one of those that are left.
      obtain ⟨byte, others, rfl⟩ := List.exists_cons_of_ne_nil nonempty
      rw [run_readChar input] at unread
      have lengths : others.length = (left ++ byte :: others).length := congrArg List.length unread
      rw [List.length_append, List.length_cons] at lengths
      omega
    | cons byte taken =>
      rw [run_readChar input] at unread ⊢
      have front : taken = left := List.append_cancel_right unread
      rw [front]
      rfl

end

private theorem unread_run (console : Console) (registers : RegisterBank) (register : Register)
    (command : Command) :
    (console.run registers register command).device.unread <:+ console.unread := by
  cases reads : command.reads with
  | false =>
    rw [(run_of_not_reads reads).1]
  | true =>
    cases command with
    | writeInt | writeChar | exit => cases reads
    | readInt =>
      rw [run_readInt]
      exact ⟨_, splitLine_append console.unread⟩
    | readChar =>
      cases input : console.unread with
      | nil => simp [run, input]
      | cons byte rest =>
        rw [run_readChar input]
        exact List.suffix_cons byte rest

/-- The word is a command that takes something from the input, if there is anything. -/
def readsInput (command : Word) : Bool := (Command.ofWord? command).any Command.reads

private theorem perform_withInput {console : Console} {command : Word} {register : Register}
    {registers : RegisterBank} {taken left rest : List UInt8}
    (input : console.unread = taken ++ rest)
    (unread : (perform command register registers console).device.unread = left ++ rest)
    (safe : rest ≠ [] ∨ readsInput command = false) (other : List UInt8) :
    perform command register registers (console.withInput (taken ++ other)) =
      { perform command register registers console with
        device :=
          (perform command register registers console).device.withInput (left ++ other) } := by
  unfold perform at unread ⊢
  unfold readsInput at safe
  cases known : Command.ofWord? command with
  | none =>
    simp only [known, input, List.append_cancel_right_eq] at unread ⊢
    rw [unread]
  | some command =>
    simp only [known] at unread ⊢
    cases reads : command.reads with
    | false =>
      obtain ⟨same, silent⟩ := @run_of_not_reads console registers register command reads
      rw [same, input, List.append_cancel_right_eq] at unread
      rw [silent, unread]
    | true =>
      have nonempty : rest ≠ [] := by simpa [known, reads] using safe
      exact run_of_reads reads nonempty input unread other

theorem unread_perform_of_silent {console : Console} {command : Word} {register : Register}
    {registers : RegisterBank} (silent : readsInput command = false) :
    (perform command register registers console).device.unread = console.unread := by
  unfold perform
  unfold readsInput at silent
  cases known : Command.ofWord? command with
  | none => rfl
  | some command =>
    rw [known] at silent
    exact (run_of_not_reads silent).1

theorem unread_perform (console : Console) (command : Word) (register : Register)
    (registers : RegisterBank) :
    (perform command register registers console).device.unread <:+ console.unread := by
  unfold perform
  cases Command.ofWord? command with
  | none => exact List.suffix_rfl
  | some command => exact unread_run console registers register command

end Console

def Instruction.readsInput (instruction : Instruction) : Bool :=
  instruction.opcode = .piu && Console.readsInput instruction.immediate

namespace Machine

/-! ## Steps -/

/-- The machine with other bytes for its console to read. -/
def withInput (machine : Machine Console) (input : List UInt8) : Machine Console :=
  { machine with device := machine.device.withInput input }

section

variable {Device : Type} [Peripheral Device]

private theorem execute_of_request {machine : Machine Device} {instruction : Instruction}
    (request : instruction.opcode = .piu) :
    machine.execute instruction =
      match (machine.reply instruction).result with
      | .ok none => ⟨(machine.answer (machine.reply instruction)).advance, none⟩
      | .ok (some code) => ⟨(machine.answer (machine.reply instruction)).advance.halt code, none⟩
      | .error error =>
        ⟨machine.answer (machine.reply instruction), some (.peripheral error)⟩ := by
  rw [execute, request]
  rfl

private theorem device_execute_of_request {machine : Machine Device} {instruction : Instruction}
    (request : instruction.opcode = .piu) :
    (machine.execute instruction).machine.device = (machine.reply instruction).device := by
  rw [execute_of_request request]
  split <;> rfl

end

/-- Only a request looks at the console. -/
theorem execute_of_not_request {machine : Machine Console} {instruction : Instruction}
    (other : instruction.opcode ≠ .piu) :
    (machine.execute instruction).machine.device = machine.device ∧ ∀ input,
      (machine.withInput input).execute instruction =
        ⟨(machine.execute instruction).machine.withInput input,
          (machine.execute instruction).fault?⟩ := by
  obtain ⟨opcode, r1, r2, r3, immediate⟩ := instruction
  cases opcode with
  | piu => exact absurd rfl other
  | and | or | xor | not | sh | add | sub | mul | comp | li | amc => exact ⟨rfl, fun _ => rfl⟩
  | div =>
    simp only [execute, withInput]
    cases (machine.registers.read r2).div? (machine.registers.read r3) <;>
      exact ⟨rfl, fun _ => rfl⟩
  | lwmc =>
    simp only [execute, withInput]
    cases machine.memory.load (machine.memory.memoryCounter.offset immediate.toInt) <;>
      exact ⟨rfl, fun _ => rfl⟩
  | swmc =>
    simp only [execute, withInput]
    cases machine.memory.fault? (machine.memory.memoryCounter.offset immediate.toInt) <;>
      exact ⟨rfl, fun _ => rfl⟩
  | apceq =>
    simp only [execute, withInput]
    by_cases zero : (machine.registers.read Register.flag).isZero = true
    · simp only [if_pos zero]
      exact ⟨rfl, fun _ => if_pos zero⟩
    · simp only [if_neg zero]
      exact ⟨rfl, fun _ => if_neg zero⟩

private theorem execute_withInput {machine : Machine Console} {instruction : Instruction}
    {taken left rest : List UInt8} (input : machine.device.unread = taken ++ rest)
    (unread : (machine.execute instruction).machine.device.unread = left ++ rest)
    (safe : rest ≠ [] ∨ instruction.readsInput = false) (other : List UInt8) :
    (machine.withInput (taken ++ other)).execute instruction =
      ⟨(machine.execute instruction).machine.withInput (left ++ other),
        (machine.execute instruction).fault?⟩ := by
  by_cases request : instruction.opcode = .piu
  · rw [device_execute_of_request request] at unread
    have silent : rest ≠ [] ∨ Console.readsInput instruction.immediate = false := by
      simpa [Instruction.readsInput, request] using safe
    have same : (machine.withInput (taken ++ other)).reply instruction =
        { machine.reply instruction with
          device := (machine.reply instruction).device.withInput (left ++ other) } :=
      Console.perform_withInput input unread silent other
    rw [execute_of_request request, execute_of_request request, same]
    obtain ⟨device, registers, result⟩ := machine.reply instruction
    rcases result with error | _ | code <;> rfl
  · obtain ⟨device, elsewhere⟩ := @execute_of_not_request machine instruction request
    rw [device, input, List.append_cancel_right_eq] at unread
    rw [elsewhere, unread]

/-- The instruction at the program counter, if the machine runs and the word there is one. -/
def next? {Device : Type} (machine : Machine Device) : Option Instruction :=
  match machine.status, machine.memory.load machine.memory.programCounter.value with
  | .running, .ok word =>
    match ExitCode.ofWord? word with
    | none => some (Instruction.decode word)
    | some _ => none
  | _, _ => none

theorem next?_eq_some_iff {Device : Type} {machine : Machine Device} {instruction : Instruction} :
    machine.next? = some instruction ↔ machine.Executes instruction := by
  constructor
  · intro found
    unfold next? at found
    split at found
    next word running loaded =>
      split at found
      next runs =>
        cases found
        exact ⟨running, word, loaded, runs, rfl⟩
      next => cases found
    next => cases found
  · rintro ⟨running, word, loaded, runs, rfl⟩
    simp only [next?, running, loaded, runs]

private theorem unread_execute (machine : Machine Console) (instruction : Instruction) :
    (machine.execute instruction).machine.device.unread <:+ machine.device.unread := by
  by_cases request : instruction.opcode = .piu
  · rw [device_execute_of_request request]
    exact Console.unread_perform _ _ _ _
  · rw [(execute_of_not_request request).1]

private theorem unread_step (machine : Machine Console) :
    machine.step.machine.device.unread <:+ machine.device.unread := by
  have shape := stepsTo_step machine
  generalize machine.step = stepped at shape
  cases shape with
  | halted | outside | exit => exact List.suffix_rfl
  | fault | complete => exact unread_execute machine _

private theorem unread_execute_of_silent {machine : Machine Console} {instruction : Instruction}
    (silent : instruction.readsInput = false) :
    (machine.execute instruction).machine.device.unread = machine.device.unread := by
  by_cases request : instruction.opcode = .piu
  · rw [device_execute_of_request request]
    exact Console.unread_perform_of_silent (by simpa [Instruction.readsInput, request] using silent)
  · rw [(execute_of_not_request request).1]

private theorem unread_step_of_silent {machine : Machine Console}
    (silent : ∀ instruction ∈ machine.next?.toList, instruction.readsInput = false) :
    machine.step.machine.device.unread = machine.device.unread := by
  have shape := stepsTo_step machine
  generalize machine.step = stepped at shape
  cases shape with
  | halted | outside | exit => rfl
  | fault executes | complete executes =>
    have next := next?_eq_some_iff.mpr executes
    exact unread_execute_of_silent (silent _ (by simp [next]))

private theorem step_of_not_executes {machine : Machine Console} (idle : machine.next? = none) :
    machine.step.machine.device = machine.device ∧ ∀ input,
      (machine.withInput input).step =
        ⟨machine.step.machine.withInput input, machine.step.result⟩ := by
  cases status : machine.status with
  | halted code => simp only [step, withInput, status, implies_true, and_self]
  | running =>
    cases loaded : machine.memory.load machine.memory.programCounter.value with
    | error error => simp only [step, withInput, status, loaded, implies_true, and_self]
    | ok word =>
      cases exits : ExitCode.ofWord? word with
      | some code =>
        simp only [step, withInput, status, loaded, exits, halt, implies_true, and_self]
      | none => simp only [next?, status, loaded, exits, reduceCtorEq] at idle

/-- Something is left of the input, or none of the instructions takes anything from it. -/
def Spares (rest : List UInt8) (instructions : List Instruction) : Prop :=
  rest ≠ [] ∨ ∀ instruction ∈ instructions, instruction.readsInput = false

private theorem Spares.append {rest : List UInt8} {first second : List Instruction}
    (spares : Spares rest (first ++ second)) : Spares rest first ∧ Spares rest second := by
  rcases spares with nonempty | silent
  · exact ⟨.inl nonempty, .inl nonempty⟩
  · exact ⟨.inr fun instruction member => silent instruction (List.mem_append_left _ member),
      .inr fun instruction member => silent instruction (List.mem_append_right _ member)⟩

/-- A step that leaves a part of the input unread is the same with other bytes in its place. -/
theorem step_withInput {machine : Machine Console} {taken left rest : List UInt8}
    (input : machine.device.unread = taken ++ rest)
    (unread : machine.step.machine.device.unread = left ++ rest)
    (spares : Spares rest machine.next?.toList) (other : List UInt8) :
    (machine.withInput (taken ++ other)).step =
      ⟨machine.step.machine.withInput (left ++ other), machine.step.result⟩ := by
  cases next : machine.next? with
  | none =>
    obtain ⟨device, elsewhere⟩ := step_of_not_executes next
    rw [device, input, List.append_cancel_right_eq] at unread
    rw [elsewhere, unread]
  | some instruction =>
    have executes : machine.Executes instruction := next?_eq_some_iff.mp next
    have again : (machine.withInput (taken ++ other)).Executes instruction :=
      ⟨executes.running, executes.fetched⟩
    have silent : rest ≠ [] ∨ instruction.readsInput = false := by
      simpa [Spares, next] using spares
    have here : (machine.execute instruction).machine.device.unread = left ++ rest := by
      rw [← unread, executes.step_eq]
      split <;> rfl
    rw [again.step_eq, executes.step_eq, execute_withInput input here silent]
    cases (machine.execute instruction).fault? <;> rfl

/-! ## Runs -/

def Run.withInput (run : Run Console) (input : List UInt8) : Run Console :=
  ⟨run.machine.withInput input, run.fault?⟩

/-- The instructions that a run with a budget comes to, one that fails included. -/
def fetched {Device : Type} [Peripheral Device] : (budget : Nat) → Machine Device → List Instruction
  | 0, _ => []
  | budget + 1, machine =>
    machine.next?.toList ++
      match machine.step.result with
      | .ok _ => fetched budget machine.step.machine
      | .error _ => []

private theorem RunsFor.unread {machine : Machine Console} {budget : Nat} {run : Run Console}
    (runs : RunsFor budget machine run) :
    run.machine.device.unread <:+ machine.device.unread := by
  induction runs with
  | cut | halted => exact List.suffix_rfl
  | failed => exact unread_step _
  | goesOn _ _ _ ih => exact ih.trans (unread_step _)

section

variable {Device : Type} [Peripheral Device] {machine : Machine Device}

theorem fetched_of_halted (halted : machine.isRunning = false) (budget : Nat) :
    machine.fetched budget = [] := by
  cases budget with
  | zero => rfl
  | succ budget =>
    cases status : machine.status with
    | running => simp [isRunning, status] at halted
    | halted code => simp [fetched, next?, step, status]

theorem fetched_of_ok {executed? : Option Instruction}
    (done : machine.step.result = .ok executed?) (budget : Nat) :
    machine.fetched (budget + 1) = machine.next?.toList ++ machine.step.machine.fetched budget := by
  rw [fetched, done]

private theorem fetched_of_error {fault : Fault} (failed : machine.step.result = .error fault)
    (budget : Nat) : machine.fetched (budget + 1) = machine.next?.toList := by
  rw [fetched, failed, List.append_nil]

end

/-- A run that leaves a part of the input unread is the same with other bytes in its place. -/
theorem RunsFor.withInput {machine : Machine Console} {budget : Nat} {run : Run Console}
    {taken rest : List UInt8} (runs : RunsFor budget machine run)
    (input : machine.device.unread = taken ++ rest) (unread : run.machine.device.unread = rest)
    (spares : Spares rest (machine.fetched budget)) (other : List UInt8) :
    RunsFor budget (machine.withInput (taken ++ other)) (run.withInput other) ∧
      (machine.withInput (taken ++ other)).fetched budget = machine.fetched budget := by
  induction runs generalizing taken with
  | cut =>
    obtain rfl : taken = [] := by simpa [input] using unread
    exact ⟨.cut, rfl⟩
  | @halted machine budget halted =>
    obtain rfl : taken = [] := by simpa [input] using unread
    have still : (machine.withInput other).isRunning = false := halted
    exact ⟨.halted still, (fetched_of_halted still _).trans (fetched_of_halted halted _).symm⟩
  | @failed machine budget fault running failed =>
    rw [fetched_of_error failed] at spares ⊢
    have none : machine.step.machine.device.unread = [] ++ rest := unread
    have same := step_withInput input none spares other
    have fails : (machine.withInput (taken ++ other)).step.result = .error fault := by
      rw [same, failed]
    refine ⟨?_, fetched_of_error fails _⟩
    have runs : RunsFor (budget + 1) (machine.withInput (taken ++ other)) _ := .failed running fails
    rwa [same] at runs
  | @goesOn machine budget executed? run running done later ih =>
    rw [fetched_of_ok done] at spares ⊢
    obtain ⟨here, onwards⟩ := spares.append
    obtain ⟨left, split⟩ := later.unread
    rw [unread] at split
    have same := step_withInput input split.symm here other
    have goes : (machine.withInput (taken ++ other)).step.result = .ok executed? := by
      rw [same, done]
    obtain ⟨runs, fetches⟩ := ih split.symm unread onwards
    rw [fetched_of_ok goes, same, fetches]
    refine ⟨.goesOn running goes ?_, rfl⟩
    rw [same]
    exact runs

private theorem RunsFor.unread_of_silent {machine : Machine Console} {budget : Nat}
    {run : Run Console} (runs : RunsFor budget machine run)
    (silent : ∀ instruction ∈ machine.fetched budget, instruction.readsInput = false) :
    run.machine.device.unread = machine.device.unread := by
  induction runs with
  | cut | halted => rfl
  | failed _ failed =>
    rw [fetched_of_error failed] at silent
    exact unread_step_of_silent silent
  | goesOn _ done _ ih =>
    rw [fetched_of_ok done, List.forall_mem_append] at silent
    rw [ih silent.2, unread_step_of_silent silent.1]

/-- A run with a limit, or one to the end. -/
def runUnder? {Device : Type} [Peripheral Device] (machine : Machine Device) :
    Option Nat → Option (Run Device)
  | some limit => machine.runLimited? limit
  | none => machine.run?

/-- The instructions that a run with a limit, or one to the end, comes to. -/
def fetchedUnder {Device : Type} [Peripheral Device] (machine : Machine Device)
    (limit? : Option Nat) : List Instruction := machine.fetched (limit?.getD cycleSpan)

private theorem runUnder?_withInput {machine : Machine Console} {limit? : Option Nat}
    {run : Run Console} {taken rest : List UInt8} (ran : machine.runUnder? limit? = some run)
    (input : machine.device.unread = taken ++ rest) (unread : run.machine.device.unread = rest)
    (spares : Spares rest (machine.fetchedUnder limit?)) (other : List UInt8) :
    (machine.withInput (taken ++ other)).runUnder? limit? = some (run.withInput other) ∧
      (machine.withInput (taken ++ other)).fetchedUnder limit? = machine.fetchedUnder limit? := by
  cases limit? with
  | some limit =>
    obtain ⟨fits, rfl⟩ := runLimited?_eq_some_iff.mp ran
    obtain ⟨runs, same⟩ := (runsFor_runFor machine limit).withInput input unread spares other
    exact ⟨runLimited?_eq_some_iff.mpr ⟨fits, runs.runFor_eq⟩, same⟩
  | none =>
    obtain ⟨rfl, ended⟩ := runWithin?_eq_some_iff.mp ran
    obtain ⟨runs, same⟩ := (runsFor_runFor machine cycleSpan).withInput input unread spares other
    exact ⟨runWithin?_eq_some_iff.mpr ⟨runs.runFor_eq, ended⟩, same⟩

private theorem unread_of_silent {machine : Machine Console} {limit? : Option Nat}
    {run : Run Console} (ran : machine.runUnder? limit? = some run)
    (silent : ∀ instruction ∈ machine.fetchedUnder limit?, instruction.readsInput = false) :
    run.machine.device.unread = machine.device.unread := by
  cases limit? with
  | some limit =>
    obtain ⟨-, rfl⟩ := runLimited?_eq_some_iff.mp ran
    exact (runsFor_runFor machine limit).unread_of_silent silent
  | none =>
    obtain ⟨rfl, -⟩ := runWithin?_eq_some_iff.mp ran
    exact (runsFor_runFor machine cycleSpan).unread_of_silent silent

/-- The run of the other machine comes to the same instructions and to the same end as a run from
the start, except that it leaves other bytes unread. -/
structure Mirrors (limit? : Option Nat) (start : Machine Console) (run : Run Console)
    (unread : List UInt8) (other : Machine Console) (mirrored : Run Console) : Prop where
  ran : other.runUnder? limit? = some mirrored
  fetched : other.fetchedUnder limit? = start.fetchedUnder limit?
  machine : mirrored.machine = run.machine.withInput unread
  output : mirrored.machine.device.output = run.machine.device.output
  result : mirrored.result other = run.result start

/-- What a run has left unread, if it is something, could have been anything else: the run would
have come to the same instructions, the same machine and the same result. A run that comes to no
request to read is the same with every input. -/
theorem unread_input_has_no_influence (machine : Machine Console) (limit? : Option Nat) :
    (∀ taken rest run, (machine.withInput (taken ++ rest)).runUnder? limit? = some run →
      run.machine.device.unread = rest → rest ≠ [] → ∀ other, ∃ mirrored,
        Mirrors limit? (machine.withInput (taken ++ rest)) run other
          (machine.withInput (taken ++ other)) mirrored) ∧
    ∀ input run, (machine.withInput input).runUnder? limit? = some run →
      (∀ instruction ∈ (machine.withInput input).fetchedUnder limit?,
        instruction.readsInput = false) → ∀ other, ∃ mirrored,
        Mirrors limit? (machine.withInput input) run other (machine.withInput other) mirrored := by
  constructor
  · intro taken rest run ran unread nonempty other
    obtain ⟨same, fetched⟩ := runUnder?_withInput ran rfl unread (.inl nonempty) other
    exact ⟨run.withInput other, same, fetched, rfl, rfl, rfl⟩
  · intro input run ran silent other
    have unread := unread_of_silent ran silent
    have whole : (machine.withInput input).device.unread = [] ++ input := rfl
    obtain ⟨same, fetched⟩ := runUnder?_withInput ran whole unread (.inr silent) other
    exact ⟨run.withInput other, same, fetched, rfl, rfl, rfl⟩

/-- The request for a second number fails at its line, whatever follows the line; and before the
first request the input makes no difference. -/
theorem asking_looks_no_further :
    (∃ run mirrored, run.fault? = some (.peripheral (.invalidInput ['x'])) ∧
      Mirrors (some 9) (asking.withInput [0x37, 0x0A, 0x78, 0x0A, 0x39]) run []
        (asking.withInput [0x37, 0x0A, 0x78, 0x0A]) mirrored) ∧
    ∃ run mirrored, run.machine.cycles = 1 ∧
      Mirrors (some 1) (asking.withInput []) run [0x39] (asking.withInput [0x39]) mirrored := by
  constructor
  · have ran : (asking.withInput ([0x37, 0x0A, 0x78, 0x0A] ++ [0x39])).runUnder? (some 9) =
        some ((asking.withInput [0x37, 0x0A, 0x78, 0x0A, 0x39]).runFor 9) := rfl
    obtain ⟨mirrored, mirrors⟩ := (unread_input_has_no_influence asking (some 9)).1
      [0x37, 0x0A, 0x78, 0x0A] [0x39] _ ran (by decide) (by decide) []
    exact ⟨_, mirrored, by decide, mirrors⟩
  · have ran : (asking.withInput []).runUnder? (some 1) =
        some ((asking.withInput []).runFor 1) := rfl
    obtain ⟨mirrored, mirrors⟩ :=
      (unread_input_has_no_influence asking (some 1)).2 [] _ ran (by decide) [0x39]
    exact ⟨_, mirrored, by decide, mirrors⟩

end Machine

end WordMachine
