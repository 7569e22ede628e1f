import WordMachine.Proofs.Machine.Fresh

/-! Programs without branches. If no cell stands for a branch or a store, then the cells stay as
they are and the program counter goes around them one by one, so that a run ends at the next exit
code ahead, unless a division, a request or a fault has ended it before. -/

set_option autoImplicit false

namespace WordMachine

/-- The word stands neither for a branch nor for a store. -/
def Word.Straight (word : Word) : Prop :=
  (Instruction.decode word).opcode ≠ .apceq ∧ (Instruction.decode word).opcode ≠ .swmc

instance (word : Word) : Decidable word.Straight := inferInstanceAs (Decidable (_ ∧ _))

/-- The word at an address is an exit code. -/
def Memory.ExitsAt (memory : Memory) (address : Nat) : Prop :=
  ∃ word code, memory.load address = .ok word ∧ ExitCode.ofWord? word = some code

namespace Memory

private theorem mem_words_of_load {memory : Memory} {address : Nat} {word : Word}
    (loaded : memory.load address = .ok word) : word ∈ memory.words := by
  rw [load] at loaded
  split at loaded
  next found =>
    cases loaded
    exact Array.mem_toList_iff.mpr (Array.mem_of_getElem? found)
  next => cases loaded

private theorem exitsAt_of_getElem? {memory : Memory} {address : Nat} {word : Word}
    {code : ExitCode} (found : memory.words[address]? = some word)
    (exits : ExitCode.ofWord? word = some code) :
    memory.ExitsAt address :=
  ⟨word, code, load_of_getElem? found, exits⟩

private theorem ExitsAt.of_cells {memory other : Memory} {address : Nat}
    (exits : memory.ExitsAt address) (same : other.cells = memory.cells) :
    other.ExitsAt address := by
  obtain ⟨word, code, loaded, found⟩ := exits
  refine ⟨word, code, ?_, found⟩
  rw [load, capacity, same]
  exact loaded

/-- Every address lies ahead of every other one in a memory that is gone around. -/
theorem exists_ahead {size position address : Nat} (inside : position < size)
    (reached : address < size) : ∃ distance < size, (position + distance) % size = address := by
  rcases le_or_gt position address with ahead | behind
  · refine ⟨address - position, by omega, ?_⟩
    rw [Nat.add_sub_cancel' ahead, Nat.mod_eq_of_lt reached]
  · refine ⟨size - position + address, by omega, ?_⟩
    rw [← Nat.add_assoc, Nat.add_sub_cancel' inside.le, Nat.add_mod_left,
      Nat.mod_eq_of_lt reached]

end Memory

namespace Machine

variable {Device : Type} [Peripheral Device]

/-! ## One step -/

/-- The other machine has the same cells and stands at the next address. -/
structure Advances (machine other : Machine Device) : Prop where
  cells : other.memory.cells = machine.memory.cells
  programCounter : other.memory.programCounter = machine.memory.programCounter.next

/-- Every operation but a branch and a store advances the machine, unless it halts it or fails. -/
theorem execute_of_straight {machine : Machine Device} {instruction : Instruction}
    (branchless : instruction.opcode ≠ .apceq) (storeless : instruction.opcode ≠ .swmc)
    (faultless : (machine.execute instruction).fault? = none)
    (running : (machine.execute instruction).machine.isRunning = true) :
    machine.Advances (machine.execute instruction).machine := by
  obtain ⟨opcode, r1, r2, r3, immediate⟩ := instruction
  cases opcode with
  | apceq => exact absurd rfl branchless
  | swmc => exact absurd rfl storeless
  | and | or | xor | not | sh | add | sub | mul | comp | li | amc => exact ⟨rfl, rfl⟩
  | div =>
    simp only [execute] at running ⊢
    split at running
    next quotient => exact ⟨rfl, rfl⟩
    next => cases running
  | lwmc =>
    simp only [execute] at faultless ⊢
    split at faultless
    next word => exact ⟨rfl, rfl⟩
    next => cases faultless
  | piu =>
    simp only [execute] at faultless ⊢
    split at faultless
    next => exact ⟨rfl, rfl⟩
    next => exact ⟨rfl, rfl⟩
    next => cases faultless

private theorem step_of_exitsAt {machine : Machine Device} (running : machine.isRunning = true)
    (exits : machine.memory.ExitsAt machine.memory.programCounter.value) :
    machine.step.result = .ok none := by
  obtain ⟨word, code, loaded, found⟩ := exits
  have active : machine.status = .running := of_decide_eq_true running
  simp only [step, active, loaded, found]

/-- A fault of a machine whose memory has the right size comes from its device. -/
theorem fault_of_step {machine : Machine Device} {size : Nat} {fault : Fault}
    (running : machine.isRunning = true) (sized : machine.memory.Sized size)
    (failed : machine.step.result = .error fault) : ∃ error, fault = .peripheral error := by
  cases fault with
  | notRunning code =>
    have active : machine.status = .running := of_decide_eq_true running
    have shape := stepsTo_step machine
    generalize machine.step = stepped at shape failed
    cases shape with
    | halted halted => cases active.symm.trans halted
    | outside | exit | complete => cases failed
    | @fault instruction fault executes refused =>
      have effect := effect_execute machine instruction
      generalize machine.execute instruction = executed at effect refused failed
      cases failed
      cases effect <;> cases refused
  | memory error => exact absurd ⟨error, rfl⟩ ((sized_step sized).2 _ failed)
  | peripheral error => exact ⟨error, rfl⟩

/-- A memory of a size in which no cell stands for a branch or a store. -/
structure Straight (machine : Machine Device) (size : Nat) : Prop where
  sized : machine.memory.Sized size
  words : ∀ word ∈ machine.memory.words, word.Straight

private theorem Straight.step {machine : Machine Device} {size : Nat}
    (straight : machine.Straight size) {instruction : Instruction}
    (done : machine.step.result = .ok (some instruction))
    (running : machine.step.machine.isRunning = true) :
    machine.Advances machine.step.machine := by
  have shape := stepsTo_step machine
  generalize machine.step = stepped at shape done running
  cases shape with
  | halted | outside | exit | fault => cases done
  | complete executes faultless =>
    obtain ⟨-, word, loaded, -, rfl⟩ := executes
    obtain ⟨branchless, storeless⟩ := straight.words word (Memory.mem_words_of_load loaded)
    obtain ⟨cells, programCounter⟩ := execute_of_straight branchless storeless faultless running
    exact ⟨cells, programCounter⟩

private theorem Advances.straight {machine : Machine Device} {size : Nat}
    (advances : machine.Advances machine.step.machine) (straight : machine.Straight size) :
    machine.step.machine.Straight size := by
  refine ⟨(sized_step straight.sized).1, ?_⟩
  rw [Memory.words, advances.cells]
  exact straight.words

/-! ## Runs -/

/-- The loop of the machine comes to an end within a number of instructions. The machine has halted,
or its device has failed. -/
structure EndsWithin (machine : Machine Device) (instructions : Nat) (run : Run Device) : Prop where
  /-- One more step may fetch the exit code. -/
  ends : ∃ steps ≤ instructions + 1, Ends machine steps run
  cycles : run.machine.cycles ≤ machine.cycles + instructions
  reason : run.fault? = none ∧ run.machine.isRunning = false ∨
    ∃ error, run.fault? = some (.peripheral error)

private theorem EndsWithin.run? {machine : Machine Device} {instructions : Nat} {run : Run Device}
    (within : machine.EndsWithin instructions run) (fits : instructions < cycleSpan) :
    machine.run? = some run := by
  obtain ⟨steps, few, ends⟩ := within.ends
  exact ends.run? (by omega)

private theorem endsWithin_of_error {machine : Machine Device} {error : PeripheralError}
    (running : machine.isRunning = true)
    (failed : machine.step.result = .error (.peripheral error)) (instructions : Nat) :
    machine.EndsWithin instructions ⟨machine.step.machine, some (.peripheral error)⟩ := by
  refine ⟨⟨1, Nat.le_add_left 1 _, .failed running failed⟩, ?_, .inr ⟨error, rfl⟩⟩
  rw [cycles_step_of_error failed]
  exact Nat.le_add_right _ _

private theorem endsWithin_of_halted {machine : Machine Device} {executed? : Option Instruction}
    {instructions : Nat} (running : machine.isRunning = true)
    (done : machine.step.result = .ok executed?)
    (halted : machine.step.machine.isRunning = false)
    (few : machine.step.machine.cycles ≤ machine.cycles + instructions) :
    machine.EndsWithin instructions ⟨machine.step.machine, none⟩ :=
  ⟨⟨1, Nat.le_add_left 1 _, .goesOn running done (.halted halted)⟩, few, .inl ⟨rfl, halted⟩⟩

private theorem EndsWithin.of_step {machine : Machine Device} {instruction : Instruction}
    {instructions : Nat} {run : Run Device} (running : machine.isRunning = true)
    (done : machine.step.result = .ok (some instruction))
    (within : machine.step.machine.EndsWithin instructions run) :
    machine.EndsWithin (instructions + 1) run := by
  obtain ⟨steps, few, ends⟩ := within.ends
  have cycles := within.cycles
  rw [cycles_step done] at cycles
  exact ⟨⟨steps + 1, Nat.succ_le_succ few, .goesOn running done ends⟩, by omega, within.reason⟩

private theorem EndsWithin.mono {machine : Machine Device} {fewer more : Nat} {run : Run Device}
    (within : machine.EndsWithin fewer run) (most : fewer ≤ more) :
    machine.EndsWithin more run := by
  obtain ⟨steps, few, ends⟩ := within.ends
  have cycles := within.cycles
  exact ⟨⟨steps, by omega, ends⟩, by omega, within.reason⟩

/-- Without branches and stores a run ends at the latest at an exit code that lies ahead. -/
theorem Straight.endsWithin {machine : Machine Device} {size distance : Nat}
    (straight : machine.Straight size) (running : machine.isRunning = true)
    (exits : machine.memory.ExitsAt
      ((machine.memory.programCounter.value + distance) % size)) :
    ∃ run, machine.EndsWithin distance run := by
  induction distance generalizing machine with
  | zero =>
    rw [Nat.add_zero, Nat.mod_eq_of_lt straight.sized.programCounter_lt] at exits
    have done := step_of_exitsAt running exits
    have cycles := cycles_step_of_exit done
    exact ⟨_, endsWithin_of_halted running done (isRunning_step done) cycles.le⟩
  | succ distance ih =>
    cases done : machine.step.result with
    | error fault =>
      obtain ⟨error, rfl⟩ := fault_of_step running straight.sized done
      exact ⟨_, endsWithin_of_error running done _⟩
    | ok executed? =>
      cases active : machine.step.machine.isRunning with
      | false =>
        refine ⟨_, endsWithin_of_halted running done active ?_⟩
        cases executed? with
        | none => rw [cycles_step_of_exit done]; exact Nat.le_add_right _ _
        | some instruction => rw [cycles_step done]; omega
      | true =>
        -- The machine has come one address closer to the exit code.
        cases executed? with
        | none =>
          rw [isRunning_step done] at active
          cases active
        | some instruction =>
          have advances := straight.step done active
          have closer : (machine.step.machine.memory.programCounter.value + distance) % size =
              (machine.memory.programCounter.value + (distance + 1)) % size := by
            rw [advances.programCounter, Counter.value_next, straight.sized.program_capacity,
              straight.sized.capacity, Nat.mod_add_mod]
            congr 1
            omega
          obtain ⟨run, within⟩ := ih (advances.straight straight) active
            (closer ▸ exits.of_cells advances.cells)
          exact ⟨run, within.of_step running done⟩

private theorem Straight.ends {machine : Machine Device} {size : Nat}
    (straight : machine.Straight size) (running : machine.isRunning = true)
    (exit : ∃ word ∈ machine.memory.words, ∃ code, ExitCode.ofWord? word = some code) :
    ∃ run, machine.EndsWithin (size - 1) run := by
  obtain ⟨word, listed, code, exits⟩ := exit
  obtain ⟨address, inside, found⟩ := List.mem_iff_getElem.mp listed
  have reached : address < size := straight.sized.capacity ▸ inside
  obtain ⟨distance, near, ahead⟩ :=
    Memory.exists_ahead straight.sized.programCounter_lt reached
  have here : machine.memory.ExitsAt address :=
    Memory.exitsAt_of_getElem? (List.getElem?_eq_some_iff.mpr ⟨inside, found⟩) exits
  obtain ⟨run, within⟩ := straight.endsWithin running (ahead.symm ▸ here)
  exact ⟨run, within.mono (by omega)⟩

/-! ## Images -/

omit [Peripheral Device] in
private theorem Fresh.straight {machine : Machine Device} {bytes : Nat} {program : List UInt8}
    {device : Device} (fresh : machine.Fresh bytes program device)
    (words : ∀ word ∈ Image.toWords program, word.Straight) : machine.Straight (bytes / 2) := by
  refine ⟨fresh.memory.toSized, ?_⟩
  rw [fresh.memory.words]
  intro word listed
  rcases List.mem_append.mp listed with loaded | empty
  · exact words word loaded
  · rw [List.eq_of_mem_replicate empty]
    decide

private theorem Fresh.endsWithin {machine : Machine Device} {bytes : Nat} {program : List UInt8}
    {device : Device} (fresh : machine.Fresh bytes program device)
    (words : ∀ word ∈ Image.toWords program, word.Straight)
    (room : (Image.toWords program).length < bytes / 2) :
    ∃ run, machine.EndsWithin (Image.toWords program).length run := by
  have running : machine.isRunning = true := decide_eq_true fresh.status
  apply (fresh.straight words).endsWithin running
  -- The first cell that the program does not reach is empty.
  rw [fresh.memory.programCounter, Nat.zero_add, Nat.mod_eq_of_lt room]
  have empty : machine.memory.words[(Image.toWords program).length]? = some Word.zero := by
    rw [fresh.memory.words, List.getElem?_append_right le_rfl, Nat.sub_self,
      List.getElem?_replicate, if_pos (by omega)]
  have exits : ExitCode.ofWord? Word.zero = some .noInstructions := by decide
  exact Memory.exitsAt_of_getElem? empty exits

/-- A machine that runs ends by itself if no cell stands for a branch or a store and some cell is an
exit code: it halts, or its device fails, after fewer instructions than it has cells. So a program
without branches and stores that leaves a cell of a new machine empty ends after at most as many
instructions as it has words. The cycle count keeps its width if it has room for as many cycles as
there are cells. -/
theorem straight_lines_end (device : Device) :
    (∀ (machine : Machine Device) size, machine.isRunning = true → machine.memory.Sized size →
      (∀ word ∈ machine.memory.words, word.Straight) →
      (∃ word ∈ machine.memory.words, ∃ code, ExitCode.ofWord? word = some code) →
      ∃ run, machine.EndsWithin (size - 1) run ∧
        run.machine.cycles < machine.cycles + size ∧
        (machine.cycles + size ≤ cycleSpan → run.machine.cycles < cycleSpan) ∧
        (size ≤ cycleSpan → machine.run? = some run)) ∧
    ∀ program size, (∀ word ∈ Image.toWords program, word.Straight) →
      (Image.toWords program).length < size →
      ∃ machine run, ofProgram (size * 2) program device = .ok machine ∧
        machine.EndsWithin (Image.toWords program).length run ∧
        run.machine.cycles ≤ (Image.toWords program).length ∧
        (size ≤ cycleSpan → run.machine.cycles < cycleSpan) ∧
        (size ≤ cycleSpan → machine.run? = some run) := by
  constructor
  · intro machine size running sized words exit
    obtain ⟨run, within⟩ := Straight.ends ⟨sized, words⟩ running exit
    have positive := Nat.zero_lt_of_lt sized.programCounter_lt
    have cycles := within.cycles
    exact ⟨run, within, by omega, by omega, fun fits => within.run? (by omega)⟩
  · intro program size words room
    have length := Image.length_toWords program
    have loadable : Loadable (size * 2) program :=
      ⟨Nat.mul_mod_left size 2, by omega, by omega⟩
    obtain ⟨machine, made⟩ := exists_ofProgram loadable device
    have fresh := fresh_ofProgram made
    obtain ⟨run, within⟩ := fresh.endsWithin words (by omega)
    have cycles := within.cycles
    rw [fresh.cycles, Nat.zero_add] at cycles
    exact ⟨machine, run, made, within, cycles, by omega, fun fits => within.run? (by omega)⟩

/-- An instruction at the end of the memory, with the exit code at its start. -/
def wrapping : Machine Console where
  registers := RegisterBank.zeroed
  memory :=
    { cells := #[Word.ofNat 0x4000, Word.ofNat 0x051A]
      programCounter := Counter.ofNat 2 1 Nat.zero_lt_two
      memoryCounter := Counter.ofNat 2 1 Nat.zero_lt_two }
  device := Console.silent
  status := .running
  cycles := 7
  last? := none

theorem wrapping_ends : wrapping.isRunning = true ∧ wrapping.memory.Sized 2 ∧
    (∀ word ∈ wrapping.memory.words, word.Straight) ∧
    (∃ run, wrapping.run? = some run ∧ run.machine.cycles < wrapping.cycles + 2) ∧
    ∃ machine run, ofProgram (3 * 2) [0x05, 0x1A, 0x32] Console.silent = .ok machine ∧
      machine.run? = some run ∧ run.machine.cycles ≤ 2 := by
  obtain ⟨machines, images⟩ := straight_lines_end Console.silent
  have running : wrapping.isRunning = true := rfl
  have sized : wrapping.memory.Sized 2 := ⟨⟨rfl, rfl⟩, rfl⟩
  have words : ∀ word ∈ wrapping.memory.words, word.Straight := by decide
  obtain ⟨run, -, cycles, -, ended⟩ := machines wrapping 2 running sized words
    ⟨Word.ofNat 0x4000, by decide, .custom 4, by decide⟩
  obtain ⟨machine, other, made, -, few, -, stopped⟩ :=
    images [0x05, 0x1A, 0x32] 3 (by decide) (by decide)
  exact ⟨running, sized, words, ⟨run, ended (by decide), cycles⟩,
    machine, other, made, stopped (by decide), few⟩

end Machine

end WordMachine
