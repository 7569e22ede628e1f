import WordMachine.Proofs.Machine.Dump

/-! New machines. A machine is made from a size and a program if and only if the size is even and
not zero and the program fits into it, and then size and program determine it. -/

set_option autoImplicit false

namespace WordMachine

theorem Image.length_toWords (bytes : List UInt8) :
    (toWords bytes).length * 2 = bytes.length + bytes.length % 2 := by
  have whole := congrArg List.length (ofWords_toWords bytes)
  rwa [length_ofWords, List.length_append, List.length_replicate] at whole

/-- A memory of the size can be made and the program fits into it. -/
structure Loadable (bytes : Nat) (program : List UInt8) : Prop where
  even : bytes % 2 = 0
  positive : bytes ≠ 0
  fits : program.length ≤ bytes

/-- The memory of a size with a program at its start and zeros after it, and its counters where they
begin. -/
structure Memory.Fresh (memory : Memory) (bytes : Nat) (program : List UInt8) : Prop
    extends memory.Sized (bytes / 2) where
  words : memory.words =
    Image.toWords program ++ List.replicate (bytes / 2 - (Image.toWords program).length) Word.zero
  programCounter : memory.programCounter.value = 0
  memoryCounter : memory.memoryCounter.value = bytes / 2 / 2

private theorem Memory.zeroed_of_ofSize {bytes : Nat} {memory : Memory}
    (made : ofSize bytes = .ok memory) :
    bytes % 2 = 0 ∧ bytes ≠ 0 ∧ memory.Sized (bytes / 2) ∧
      memory.words = List.replicate (bytes / 2) Word.zero ∧
      memory.programCounter.value = 0 ∧ memory.memoryCounter.value = bytes / 2 / 2 := by
  have wellFormed := wellFormed_of_ofSize made
  simp only [ofSize] at made
  split at made
  next valid =>
    cases made
    have half : bytes / 2 / 2 < bytes / 2 := Nat.div_lt_self valid.2 (by decide)
    exact ⟨valid.1, by omega, ⟨wellFormed, Array.size_replicate⟩, Array.toList_replicate,
      Nat.zero_mod _, Nat.mod_eq_of_lt half⟩
  next => cases made

private theorem Memory.Sized.capacity_mul_two {memory : Memory} {bytes : Nat}
    (sized : memory.Sized (bytes / 2)) (even : bytes % 2 = 0) : memory.capacity * 2 = bytes := by
  rw [sized.capacity, Nat.div_mul_cancel (Nat.dvd_of_mod_eq_zero even)]

private theorem Memory.invalidSize_of_ofSize {bytes : Nat} {error : MemoryError}
    (failed : ofSize bytes = .error error) :
    (bytes % 2 = 0 → bytes = 0) ∧ error = .invalidSize bytes := by
  simp only [ofSize] at failed
  split at failed
  next => cases failed
  next invalid =>
    cases failed
    exact ⟨by omega, rfl⟩

namespace Machine

variable {Device : Type}

/-- A machine that has executed nothing, with a fresh memory. -/
structure Fresh (machine : Machine Device) (bytes : Nat) (program : List UInt8) (device : Device) :
    Prop where
  registers : machine.registers = RegisterBank.zeroed
  memory : machine.memory.Fresh bytes program
  device : machine.device = device
  status : machine.status = .running
  cycles : machine.cycles = 0
  last? : machine.last? = none

theorem fresh_ofProgram {bytes : Nat} {program : List UInt8} {device : Device}
    {machine : Machine Device} (made : ofProgram bytes program device = .ok machine) :
    machine.Fresh bytes program device := by
  rw [ofProgram, ofSize] at made
  cases empty : Memory.ofSize bytes with
  | error error =>
    rw [empty] at made
    cases made
  | ok memory =>
    rw [empty] at made
    simp only [Except.map, loadProgram] at made
    cases done : memory.loadProgram program with
    | error error =>
      rw [done] at made
      cases made
    | ok loaded =>
      rw [done] at made
      cases made
      obtain ⟨-, -, sized, words, programCounter, memoryCounter⟩ := Memory.zeroed_of_ofSize empty
      have overwrites := Memory.overwrites_loadProgram done
      refine ⟨rfl, ⟨sized.loadProgram done, ?_, ?_, ?_⟩, rfl, rfl, rfl, rfl⟩
      · rw [overwrites.words_start, words, List.drop_replicate]
      · rw [overwrites.programCounter, programCounter]
      · rw [overwrites.memoryCounter, memoryCounter]

theorem exists_ofProgram {bytes : Nat} {program : List UInt8} (loadable : Loadable bytes program)
    (device : Device) : ∃ machine, ofProgram bytes program device = .ok machine := by
  obtain ⟨memory, made, sized⟩ := Memory.sized_ofSize loadable.even loadable.positive
  have fits : program.length ≤ memory.capacity * 2 := by
    rw [sized.capacity_mul_two loadable.even]
    exact loadable.fits
  obtain ⟨loaded, done⟩ := Memory.exists_loadProgram fits
  rw [ofProgram, ofSize, made]
  simp only [Except.map, loadProgram, done]
  exact ⟨_, rfl⟩

/-- The error of a machine that cannot be made tells what is wrong with its size or its program. -/
theorem ofProgram_of_not_loadable {bytes : Nat} {program : List UInt8}
    (refused : ¬Loadable bytes program) (device : Device) :
    ∃ error, ofProgram bytes program device = .error error ∧
      ((bytes % 2 = 0 → bytes = 0) ∧ error = .invalidSize bytes ∨
        bytes < program.length ∧ error = .overflow program.length bytes) := by
  rw [ofProgram, ofSize]
  cases empty : Memory.ofSize bytes with
  | error error => exact ⟨error, rfl, .inl (Memory.invalidSize_of_ofSize empty)⟩
  | ok memory =>
    obtain ⟨even, positive, sized, -⟩ := Memory.zeroed_of_ofSize empty
    have long : bytes < program.length := by
      by_contra short
      exact refused ⟨even, positive, not_lt.mp short⟩
    have whole := sized.capacity_mul_two even
    obtain ⟨overflow, -⟩ := Memory.refuses_of_not_fits (whole.symm ▸ long)
    simp only [Except.map, loadProgram, overflow, whole]
    exact ⟨_, rfl, .inr ⟨long, rfl⟩⟩

end Machine

end WordMachine
