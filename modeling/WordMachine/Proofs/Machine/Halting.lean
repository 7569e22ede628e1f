import WordMachine.Proofs.Fields
import WordMachine.Proofs.Machine.Size

/-! Halts. A machine with a console comes to halt in one of three ways, and once it has halted it
stays as it has, whatever is done to it. -/

set_option autoImplicit false

namespace WordMachine

private theorem ExitCode.toWord_of_ofWord? {word : Word} {code : ExitCode}
    (found : ofWord? word = some code) : code.toWord = word := by
  obtain ⟨number, -⟩ := toNat_of_ofWord? found
  apply Word.toNat_injective
  have bound := word.toNat_lt
  rw [toWord, Word.toNat_ofNat, Nat.mul_comm, ← number, Nat.mod_eq_of_lt bound]

private theorem ExitCode.ofWord?_toWord {word : Word} {code : ExitCode}
    (found : ofWord? word = some code) : ofWord? code.toWord = some code := by
  rw [toWord_of_ofWord? found, found]

namespace Console

private theorem Command.ofWord?_eq_exit {word : Word} (known : ofWord? word = some .exit) :
    word = Word.ofNat 4 := by
  apply Word.toNat_injective
  unfold ofWord? at known
  split at known
  case h_5 _ four => exact four
  all_goals cases known

private theorem ofWord?_of_requestedExit {word : Word} {code : ExitCode}
    (found : requestedExit word = .ok code) :
    ExitCode.ofWord? word = some code ∧
      ∃ digit, code = .custom digit ∧ 2 ≤ digit.toNat ∧ digit.toNat ≤ 9 := by
  unfold requestedExit at found
  split at found
  next digit known =>
    cases found
    exact ⟨known, digit, rfl, (ExitCode.toNat_of_ofWord? known).2 digit rfl⟩
  next => cases found

/-- A console asks for a halt only on the command for it, with the code in the register, and takes
part in nothing else. -/
theorem perform_of_requested {console : Console} {command : Word} {register : Register}
    {registers : RegisterBank} {code : ExitCode}
    (requested : (perform command register registers console).result = .ok (some code)) :
    command = Word.ofNat 4 ∧ registers.read register = code.toWord ∧
      (∃ digit, code = .custom digit ∧ 2 ≤ digit.toNat ∧ digit.toNat ≤ 9) ∧
      perform command register registers console = ⟨console, registers, .ok (some code)⟩ := by
  unfold perform at requested ⊢
  cases known : Command.ofWord? command with
  | none =>
    rw [known] at requested
    cases requested
  | some named =>
    simp only [known] at requested ⊢
    cases named with
    | writeInt | writeChar => cases requested
    | readInt =>
      simp only [run] at requested
      split at requested <;> cases requested
    | readChar =>
      simp only [run] at requested
      split at requested <;> cases requested
    | exit =>
      simp only [run] at requested ⊢
      cases found : requestedExit (registers.read register) with
      | error error =>
        simp only [found] at requested
        cases requested
      | ok other =>
        simp only [found] at requested
        cases requested
        obtain ⟨word, custom⟩ := ofWord?_of_requestedExit found
        exact ⟨Command.ofWord?_eq_exit known, (ExitCode.toWord_of_ofWord? word).symm, custom, rfl⟩

end Console

namespace Machine

/-! ## Ways to halt -/

inductive Way where
  | exitCode
  | division
  | request
deriving DecidableEq

/-- A step of a machine halts it with a code in a way and leaves another machine. An exit code in
place of an instruction changes the status alone, a division counts as well, and a request to the
console goes on to the next instruction besides. -/
inductive HaltsBy (machine : Machine Console) (code : ExitCode) : Way → Machine Console → Prop where
  | exitCode : machine.Exits code →
      machine.memory.load machine.memory.programCounter.value = .ok code.toWord →
      HaltsBy machine code .exitCode (machine.halt code)
  | division {instruction : Instruction} : machine.Executes instruction →
      instruction.opcode = .div → machine.registers.read instruction.r3 = Word.zero →
      code = .divisionByZero →
      HaltsBy machine code .division ((machine.halt code).count instruction)
  | request {instruction : Instruction} {digit : UInt8} : machine.Executes instruction →
      instruction.opcode = .piu → instruction.immediate = Word.ofNat 4 →
      machine.registers.read instruction.r2 = code.toWord →
      code = .custom digit → 2 ≤ digit.toNat → digit.toNat ≤ 9 →
      HaltsBy machine code .request ((machine.advance.halt code).count instruction)

private theorem execute_division {Device : Type} [Peripheral Device] {machine : Machine Device}
    {instruction : Instruction} {code : ExitCode} (division : instruction.opcode = .div)
    (running : machine.status = .running)
    (halted : (machine.execute instruction).machine.status = .halted code) :
    code = .divisionByZero ∧ machine.registers.read instruction.r3 = Word.zero ∧
      machine.execute instruction = ⟨machine.halt code, none⟩ := by
  unfold execute at halted ⊢
  rw [division] at halted ⊢
  simp only at halted ⊢
  split at halted
  next =>
    cases running.symm.trans halted
  next undefined =>
    cases halted
    refine ⟨rfl, ?_, rfl⟩
    unfold Word.div? at undefined
    split at undefined
    next zero => simpa [Word.isZero] using zero
    next => cases undefined

private theorem execute_request {machine : Machine Console} {instruction : Instruction}
    {code : ExitCode} (request : instruction.opcode = .piu) (running : machine.status = .running)
    (halted : (machine.execute instruction).machine.status = .halted code) :
    instruction.immediate = Word.ofNat 4 ∧
      machine.registers.read instruction.r2 = code.toWord ∧
      (∃ digit, code = .custom digit ∧ 2 ≤ digit.toNat ∧ digit.toNat ≤ 9) ∧
      machine.execute instruction = ⟨machine.advance.halt code, none⟩ := by
  unfold execute at halted ⊢
  rw [request] at halted ⊢
  simp only at halted ⊢
  split at halted
  next => cases running.symm.trans halted
  next requested =>
    cases halted
    obtain ⟨immediate, word, custom, silent⟩ := Console.perform_of_requested requested
    refine ⟨immediate, word, custom, ?_⟩
    simp only [Peripheral.perform, silent]
  next => cases running.symm.trans halted

private theorem isRunning_of_halted {Device : Type} {machine : Machine Device} {code : ExitCode}
    (halted : machine.status = .halted code) : machine.isRunning = false := by
  rw [isRunning, halted]
  rfl

/-- A step that halts a running machine does so in some way. -/
theorem haltsBy_step {machine : Machine Console} {code : ExitCode}
    (running : machine.status = .running) (halted : machine.step.machine.status = .halted code) :
    ∃ way, machine.HaltsBy code way machine.step.machine := by
  have active : machine.isRunning = true := decide_eq_true running
  have shape := stepsTo_step machine
  generalize machine.step = stepped at shape halted
  cases shape with
  | halted | outside => cases running.symm.trans halted
  | exit exits =>
    cases halted
    obtain ⟨-, word, loaded, found⟩ := exits
    have sentinel := ExitCode.toWord_of_ofWord? found
    exact ⟨_, .exitCode ⟨running, word, loaded, found⟩ (sentinel ▸ loaded)⟩
  | @fault instruction fault executes failed =>
    -- An instruction that halts the machine has not failed.
    rcases opcode_of_halts active (isRunning_of_halted halted) with division | request
    · obtain ⟨-, -, done⟩ := execute_division division running halted
      rw [done] at failed
      cases failed
    · obtain ⟨-, -, -, done⟩ := execute_request request running halted
      rw [done] at failed
      cases failed
  | @complete instruction executes =>
    rcases opcode_of_halts active (isRunning_of_halted halted) with division | request
    · obtain ⟨same, zero, done⟩ := execute_division division running halted
      rw [done]
      exact ⟨_, .division executes division zero same⟩
    · obtain ⟨immediate, word, ⟨digit, same, least, most⟩, done⟩ :=
        execute_request request running halted
      rw [done]
      exact ⟨_, .request executes request immediate word same least most⟩

theorem Executes.not_exits {Device : Type} {machine : Machine Device} {instruction : Instruction}
    {code : ExitCode} (executes : machine.Executes instruction) : ¬machine.Exits code := by
  rintro ⟨-, word, loaded, found⟩
  obtain ⟨-, other, again, runs, -⟩ := executes
  cases loaded.symm.trans again
  rw [found] at runs
  cases runs

private theorem Executes.eq {Device : Type} {machine : Machine Device} {first second : Instruction}
    (one : machine.Executes first) (other : machine.Executes second) : first = second := by
  obtain ⟨-, word, loaded, -, rfl⟩ := one
  obtain ⟨-, _, again, -, rfl⟩ := other
  cases loaded.symm.trans again
  rfl

/-- No step halts a machine in two ways. -/
theorem HaltsBy.way_eq {machine left right : Machine Console} {first second : ExitCode}
    {way other : Way} (one : machine.HaltsBy first way left)
    (another : machine.HaltsBy second other right) : way = other := by
  cases one with
  | exitCode exits =>
    cases another with
    | exitCode => rfl
    | division executes | request executes => exact absurd exits executes.not_exits
  | division executes division =>
    cases another with
    | exitCode exits => exact absurd exits executes.not_exits
    | division => rfl
    | request others request =>
      rw [executes.eq others, request] at division
      cases division
  | request executes request =>
    cases another with
    | exitCode exits => exact absurd exits executes.not_exits
    | division others division =>
      rw [executes.eq others, division] at request
      cases request
    | request => rfl

/-- The exit code of a halt is one that is read back from its word. -/
theorem HaltsBy.ofWord?_toWord {machine after : Machine Console} {code : ExitCode} {way : Way}
    (halts : machine.HaltsBy code way after) : ExitCode.ofWord? code.toWord = some code := by
  cases halts with
  | exitCode exits =>
    obtain ⟨-, word, -, found⟩ := exits
    exact ExitCode.ofWord?_toWord found
  | division _ _ _ same =>
    rw [same]
    decide
  | @request instruction digit _ _ _ _ same least most =>
    rw [same]
    have known := ExitCode.ofWord?_toWord_custom least most
    rwa [UInt8.ofNat_toNat] at known

private theorem HaltsBy.programCounter {machine after : Machine Console} {code : ExitCode}
    (halts : machine.HaltsBy code .request after) (formed : machine.memory.WellFormed) :
    after.memory.programCounter.value =
      (machine.memory.programCounter.value + 1) % machine.memory.capacity := by
  cases halts
  rw [← formed.program_capacity]
  exact machine.memory.programCounter.value_next

/-! ## Operations on a machine that has halted -/

variable {Device : Type}

/-- The other machine has come as far as this one. -/
structure SameProgress (machine other : Machine Device) : Prop where
  status : other.status = machine.status
  cycles : other.cycles = machine.cycles
  last? : other.last? = machine.last?

private theorem SameProgress.refl (machine : Machine Device) : machine.SameProgress machine :=
  ⟨rfl, rfl, rfl⟩

variable [Peripheral Device]

private theorem step_of_halted {machine : Machine Device} {code : ExitCode}
    (halted : machine.status = .halted code) :
    machine.step = ⟨machine, .error (.notRunning code)⟩ := by
  rw [step, halted]

/-- An operation sets a part of the machine that tells nothing about its progress, or it executes
instructions. -/
theorem leave?_cases {machine after : Machine Device} {operation : Operation}
    (left : machine.leave? operation = some after) :
    machine.SameProgress after ∨ ∃ budget, after = (machine.runFor budget).machine := by
  cases operation with
  | loadProgram bytes =>
    simp only [leave?, loadProgram] at left
    cases loaded : machine.memory.loadProgram bytes <;>
      · simp only [loaded, Except.map, Option.some.injEq] at left
        exact .inl (left ▸ ⟨rfl, rfl, rfl⟩)
  | store address word =>
    simp only [leave?] at left
    cases stored : machine.memory.store address word <;>
      · simp only [stored, Option.some.injEq] at left
        exact .inl (left ▸ ⟨rfl, rfl, rfl⟩)
  | writeRegister | moveProgramCounter | moveMemoryCounter =>
    cases left
    exact .inl ⟨rfl, rfl, rfl⟩
  | step =>
    cases left
    cases status : machine.status with
    | halted code =>
      rw [step_of_halted status]
      exact .inl (.refl machine)
    | running =>
      refine .inr ⟨1, ?_⟩
      rw [runFor_one (decide_eq_true status), Stepped.run]
      split <;> rfl
  | run =>
    obtain ⟨run, ended, rfl⟩ := Option.map_eq_some_iff.mp left
    obtain ⟨rfl, -⟩ := runWithin?_eq_some_iff.mp ended
    exact .inr ⟨cycleSpan, rfl⟩
  | runLimited budget =>
    obtain ⟨run, limited, rfl⟩ := Option.map_eq_some_iff.mp left
    obtain ⟨-, rfl⟩ := runLimited?_eq_some_iff.mp limited
    exact .inr ⟨budget, rfl⟩

section Halted

variable {machine : Machine Device} {code : ExitCode} (halted : machine.status = .halted code)

include halted

private theorem sameProgress_leave? {after : Machine Device} {operation : Operation}
    (left : machine.leave? operation = some after) : machine.SameProgress after := by
  rcases leave?_cases left with same | ⟨budget, rfl⟩
  · exact same
  · rw [runFor_of_halted (isRunning_of_halted halted)]
    exact .refl machine

private theorem run?_of_halted : machine.run? = some ⟨machine, none⟩ := by
  have stopped := isRunning_of_halted halted
  exact runWithin?_eq_some_iff.mpr ⟨runFor_of_halted stopped cycleSpan, .inl stopped⟩

private theorem runLimited?_of_halted (budget : Nat) :
    machine.runLimited? budget =
      if machine.cycles + budget < cycleSpan then some ⟨machine, none⟩ else none := by
  rw [runLimited?, runFor_of_halted (isRunning_of_halted halted)]

private theorem exists_leave? {operation : Operation}
    (fits : ∀ budget, operation = .runLimited budget → machine.cycles + budget < cycleSpan) :
    ∃ after, machine.leave? operation = some after := by
  cases operation with
  | loadProgram bytes =>
    simp only [leave?]
    split <;> exact ⟨_, rfl⟩
  | store address word =>
    simp only [leave?]
    split <;> exact ⟨_, rfl⟩
  | writeRegister | moveProgramCounter | moveMemoryCounter | step => exact ⟨_, rfl⟩
  | run => exact ⟨machine, by rw [leave?, run?_of_halted halted]; rfl⟩
  | runLimited budget =>
    exact ⟨machine, by rw [leave?, runLimited?_of_halted halted, if_pos (fits budget rfl)]; rfl⟩

end Halted

/-- Operations on a machine that has halted leave a machine that has come as far. -/
theorem exists_leaveAll? {machine : Machine Device} {code : ExitCode} {operations : List Operation}
    (halted : machine.status = .halted code)
    (fits : ∀ budget, .runLimited budget ∈ operations → machine.cycles + budget < cycleSpan) :
    ∃ final, machine.leaveAll? operations = some final ∧ machine.SameProgress final := by
  induction operations generalizing machine with
  | nil => exact ⟨machine, rfl, .refl machine⟩
  | cons operation rest ih =>
    obtain ⟨next, left⟩ := exists_leave? halted fun budget same =>
      fits budget (same ▸ List.mem_cons_self)
    have same := sameProgress_leave? halted left
    obtain ⟨final, others, last⟩ := ih (same.status.trans halted) fun budget listed => by
      rw [same.cycles]
      exact fits budget (List.mem_cons_of_mem _ listed)
    refine ⟨final, ?_, last.status.trans same.status, last.cycles.trans same.cycles,
      last.last?.trans same.last?⟩
    rw [leaveAll?, List.foldlM_cons, left]
    exact others

/-! ## Exit codes of machines -/

/-- If the machine has halted, then its exit code is read back from the code's word. -/
def Recognizable (machine : Machine Console) : Prop :=
  ∀ code, machine.status = .halted code → ExitCode.ofWord? code.toWord = some code

private theorem recognizable_step {machine : Machine Console}
    (recognizable : machine.Recognizable) :
    machine.step.machine.Recognizable := by
  cases status : machine.status with
  | halted code =>
    rw [step_of_halted status]
    exact recognizable
  | running =>
    intro code halted
    obtain ⟨way, halts⟩ := haltsBy_step status halted
    exact halts.ofWord?_toWord

private theorem recognizable_leave? {machine after : Machine Console} {operation : Operation}
    (recognizable : machine.Recognizable) (left : machine.leave? operation = some after) :
    after.Recognizable := by
  rcases leave?_cases left with same | ⟨budget, rfl⟩
  · intro code halted
    exact recognizable code (same.status.symm.trans halted)
  · exact (runFor_keeps Recognizable (fun _ => True)
      (fun _ holds => ⟨recognizable_step holds, fun _ _ => trivial⟩) recognizable budget).1

private theorem recognizable_ofSize {bytes : Nat} {device : Console} {machine : Machine Console}
    (made : ofSize bytes device = .ok machine) : machine.Recognizable := by
  rw [ofSize] at made
  cases memory : Memory.ofSize bytes with
  | error error =>
    rw [memory] at made
    cases made
  | ok memory =>
    rw [memory] at made
    cases made
    intro code halted
    cases halted

/-- A console's machine halts in exactly one of the three ways. From then on nothing that is done to
it changes its status or what it has executed, steps fail and runs execute nothing, unless the
budget of a bounded run ends beyond the 64 bits of the cycle count. The exit code of a machine that
has halted is read back from its word. -/
theorem halting_is_final (machine : Machine Console) :
    (∀ code, machine.status = .running → machine.step.machine.status = .halted code →
      (∃! way, machine.HaltsBy code way machine.step.machine) ∧
        (machine.HaltsBy code .request machine.step.machine → machine.memory.WellFormed →
          machine.step.machine.memory.programCounter.value =
            (machine.memory.programCounter.value + 1) % machine.memory.capacity)) ∧
    (∀ code operations, machine.status = .halted code →
      (∀ budget, .runLimited budget ∈ operations → machine.cycles + budget < cycleSpan) →
      ∃ final, machine.leaveAll? operations = some final ∧ final.status = .halted code ∧
        final.cycles = machine.cycles ∧ final.last? = machine.last? ∧
        final.step = ⟨final, .error (.notRunning code)⟩ ∧
        ∃ run : Run Console, run.machine = final ∧ run.result final = .ok 0 ∧
          final.run? = some run ∧
          ∀ budget, final.runLimited? budget =
            if final.cycles + budget < cycleSpan then some run else none) ∧
    ∀ bytes (device : Console) operations final code, ofSize bytes device = .ok machine →
      machine.leaveAll? operations = some final → final.status = .halted code →
      final.snapshot.exit? = some code ∧ ExitCode.ofWord? code.toWord = some code := by
  refine ⟨?_, ?_, ?_⟩
  · intro code running halted
    obtain ⟨way, halts⟩ := haltsBy_step running halted
    refine ⟨⟨way, halts, fun other another => another.way_eq halts⟩, ?_⟩
    intro request formed
    exact request.programCounter formed
  · intro code operations halted fits
    obtain ⟨final, left, same⟩ := exists_leaveAll? halted fits
    have still := same.status.trans halted
    refine ⟨final, left, still, same.cycles, same.last?, step_of_halted still, ⟨final, none⟩, rfl,
      ?_, run?_of_halted still, runLimited?_of_halted still⟩
    rw [Run.result, Nat.sub_self]
  · intro bytes device operations final code made left halted
    refine ⟨?_, leaveAll?_keeps Recognizable recognizable_leave? (recognizable_ofSize made) left
      code halted⟩
    rw [snapshot, exitCode?, halted]

/-- A machine that asks its console for the exit code in a register. -/
def leaving : Machine Console where
  registers := RegisterBank.zeroed.write (Register.ofBits 2) (Word.ofNat 0x3000)
  memory :=
    { cells := #[Word.ofNat 0x042E, Word.zero]
      programCounter := Counter.ofNat 2 0 Nat.zero_lt_two
      memoryCounter := Counter.ofNat 2 1 Nat.zero_lt_two }
  device := Console.silent
  status := .running
  cycles := 0
  last? := none

theorem leaving_is_final :
    (∃! way, leaving.HaltsBy (.custom 3) way leaving.step.machine) ∧
    ∃ machine final, ofSize 4 Console.silent = .ok machine ∧
      machine.leaveAll? [.writeRegister 2 (Word.ofNat 0x3000), .loadProgram [0x04, 0x2E]] =
        some leaving ∧
      leaving.step.machine.leaveAll? [.writeRegister 2 Word.zero, .runLimited 9, .run] =
        some final ∧
      final.status = .halted (.custom 3) ∧ final.cycles = 1 ∧
      ExitCode.ofWord? (ExitCode.custom 3).toWord = some (.custom 3) := by
  have halted : leaving.step.machine.status = .halted (.custom 3) := rfl
  obtain ⟨way, -⟩ := (halting_is_final leaving).1 (.custom 3) rfl halted
  have fits : ∀ budget, .runLimited budget ∈
      [.writeRegister 2 Word.zero, .runLimited 9, Operation.run] →
      leaving.step.machine.cycles + budget < cycleSpan := by
    intro budget listed
    have nine : budget = 9 := by simpa using listed
    rw [nine]
    decide
  obtain ⟨final, left, still, cycles, -⟩ :=
    (halting_is_final leaving.step.machine).2.1 (.custom 3) _ halted fits
  obtain ⟨-, known⟩ := (halting_is_final _).2.2 4 Console.silent
    [.writeRegister 2 (Word.ofNat 0x3000), .loadProgram [0x04, 0x2E], .step] _ (.custom 3) rfl rfl
    halted
  exact ⟨way, _, final, rfl, rfl, left, still, cycles, known⟩

/-- A halted machine is left without a result by a bounded run whose end has too many bits. -/
theorem leaving_overflows : leaving.step.machine.status = .halted (.custom 3) ∧
    leaving.step.machine.runLimited? 0xFFFFFFFFFFFFFFFF = none := by
  have halted : leaving.step.machine.status = .halted (.custom 3) := rfl
  refine ⟨halted, ?_⟩
  rw [runLimited?_of_halted halted]
  decide

end Machine

end WordMachine
