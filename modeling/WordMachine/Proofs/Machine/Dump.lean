import WordMachine.Proofs.Machine.Loading

/-! Images and dumps. Words and bytes are taken apart and put together in the same way by images and
by the memory, so that a program that has been loaded is found again in a dump, and a dump is loaded
again as the memory it was taken from. -/

set_option autoImplicit false

namespace WordMachine

private theorem Word.toBytes_ofBytes (high low : UInt8) :
    (ofBytes high low).toBytes = (high, low) := by
  have left : (high.toBitVec ++ low.toBitVec).extractLsb' 8 8 = high.toBitVec :=
    BitVec.extractLsb'_append_eq_left
  have right : (high.toBitVec ++ low.toBitVec).extractLsb' 0 8 = low.toBitVec :=
    BitVec.extractLsb'_append_eq_right
  simp only [toBytes, ofBytes, left, right]

namespace Image

private theorem ofWords_cons (word : Word) (words : List Word) :
    ofWords (word :: words) = word.toBytes.1 :: word.toBytes.2 :: ofWords words := rfl

/-- Bytes come back as they were, with a zero after an odd number of them. -/
theorem ofWords_toWords (bytes : List UInt8) :
    ofWords (toWords bytes) = bytes ++ List.replicate (bytes.length % 2) 0 := by
  induction bytes using List.twoStepInduction with
  | nil => rfl
  | singleton high =>
    have one : toWords [high] = [Word.ofBytes high 0] := rfl
    rw [one, ofWords_cons, Word.toBytes_ofBytes]
    rfl
  | cons_cons high low rest ih _ =>
    have parity : (high :: low :: rest).length % 2 = rest.length % 2 := Nat.add_mod_right _ 2
    rw [toWords_cons_cons, ofWords_cons, Word.toBytes_ofBytes, ih, parity]
    rfl

end Image

namespace Memory

/-- What storing in place leaves behind: the memory with the words stored so far, and the fault of a
word that could not be stored. -/
structure Stored where
  memory : Memory
  fault? : Option MemoryError

/-- Stores an image word by word, each in the memory that the words before it have left. -/
def storeInPlace (memory : Memory) (address : Nat) : List UInt8 → Stored
  | [] => ⟨memory, none⟩
  | [high] =>
    match memory.store address (Word.ofBytes high 0) with
    | .ok stored => ⟨stored, none⟩
    | .error fault => ⟨memory, some fault⟩
  | high :: low :: rest =>
    match memory.store address (Word.ofBytes high low) with
    | .ok stored => stored.storeInPlace (address + 1) rest
    | .error fault => ⟨memory, some fault⟩

def loadInPlace (memory : Memory) (bytes : List UInt8) : Stored :=
  let available := memory.capacity * 2
  if bytes.length ≤ available then memory.storeInPlace 0 bytes
  else ⟨memory, some (.overflow bytes.length available)⟩

private theorem storeInPlace_of_ok {memory stored : Memory} {address : Nat} {bytes : List UInt8}
    (done : memory.storeImage address bytes = .ok stored) :
    memory.storeInPlace address bytes = ⟨stored, none⟩ := by
  have stores := stores_of_ok done
  clear done
  induction stores with
  | nil => rfl
  | last only => rw [storeInPlace, only]
  | pair first _ ih =>
    rw [storeInPlace, first]
    exact ih

theorem Overwrites.words_start {memory stored : Memory} {words : List Word}
    (overwrites : memory.Overwrites 0 words stored) :
    stored.words = words ++ memory.words.drop words.length := by
  rw [overwrites.words, List.take_zero, List.nil_append, Nat.zero_add]

/-- A program that fits is stored to its end, at the start of the memory. -/
theorem loads_of_fits {memory : Memory} {bytes : List UInt8}
    (fits : bytes.length ≤ memory.capacity * 2) :
    ∃ loaded, memory.loadProgram bytes = .ok loaded ∧
      memory.loadInPlace bytes = ⟨loaded, none⟩ ∧
      memory.Overwrites 0 (Image.toWords bytes) loaded := by
  obtain ⟨loaded, done⟩ := exists_loadProgram fits
  refine ⟨loaded, done, ?_, overwrites_loadProgram done⟩
  rw [loadProgram, if_pos fits] at done
  rw [loadInPlace, if_pos fits, storeInPlace_of_ok done]

/-- A program that does not fit is refused before any of it has been stored. -/
theorem refuses_of_not_fits {memory : Memory} {bytes : List UInt8}
    (long : memory.capacity * 2 < bytes.length) :
    memory.loadProgram bytes = .error (.overflow bytes.length (memory.capacity * 2)) ∧
      memory.loadInPlace bytes =
        ⟨memory, some (.overflow bytes.length (memory.capacity * 2))⟩ :=
  ⟨if_neg (Nat.not_le.mpr long), if_neg (Nat.not_le.mpr long)⟩

private theorem loads_dump {memory source : Memory} (same : source.capacity = memory.capacity) :
    ∃ loaded, memory.loadProgram source.dump = .ok loaded ∧ loaded.words = source.words ∧
      loaded.programCounter = memory.programCounter ∧
      loaded.memoryCounter = memory.memoryCounter := by
  have length : source.words.length = memory.words.length := same
  have fits : source.dump.length ≤ memory.capacity * 2 := by
    rw [dump, Image.length_ofWords, length]
    exact le_rfl
  obtain ⟨loaded, done, -, overwrites⟩ := loads_of_fits fits
  rw [dump, Image.toWords_ofWords] at overwrites
  refine ⟨loaded, done, ?_, overwrites.programCounter, overwrites.memoryCounter⟩
  rw [overwrites.words_start, length, List.drop_length, List.append_nil]

/-- Words survive the way through bytes, and bytes the way through words but for the zero that makes
their number even. A program is loaded if and only if it fits, as the words of its image before the
cells that it does not reach; otherwise nothing is stored. A dump is the image of all cells, and
loading it into a memory of the same size reproduces them. -/
theorem images_load_and_dump (memory : Memory) (bytes : List UInt8) (words : List Word) :
    Image.toWords (Image.ofWords words) = words ∧
    Image.ofWords (Image.toWords bytes) = bytes ++ List.replicate (bytes.length % 2) 0 ∧
    (bytes.length ≤ memory.capacity * 2 → ∃ loaded, memory.loadProgram bytes = .ok loaded ∧
      memory.loadInPlace bytes = ⟨loaded, none⟩ ∧
      loaded.words =
        Image.toWords bytes ++ memory.words.drop (Image.toWords bytes).length ∧
      loaded.programCounter = memory.programCounter ∧
      loaded.memoryCounter = memory.memoryCounter) ∧
    (memory.capacity * 2 < bytes.length →
      memory.loadProgram bytes = .error (.overflow bytes.length (memory.capacity * 2)) ∧
      memory.loadInPlace bytes =
        ⟨memory, some (.overflow bytes.length (memory.capacity * 2))⟩) ∧
    memory.dump = Image.ofWords memory.words ∧
    ∀ source : Memory, source.capacity = memory.capacity →
      ∃ loaded, memory.loadProgram source.dump = .ok loaded ∧ loaded.words = source.words ∧
        loaded.programCounter = memory.programCounter ∧
        loaded.memoryCounter = memory.memoryCounter := by
  refine ⟨Image.toWords_ofWords words, Image.ofWords_toWords bytes, ?_, refuses_of_not_fits, rfl,
    fun source same => loads_dump same⟩
  intro fits
  obtain ⟨loaded, done, inPlace, overwrites⟩ := loads_of_fits fits
  exact ⟨loaded, done, inPlace, overwrites.words_start, overwrites.programCounter,
    overwrites.memoryCounter⟩

/-- A memory of two words with its counters away from where they begin. -/
def marked : Memory where
  cells := #[Word.ofNat 0x0102, Word.ofNat 0x0304]
  programCounter := Counter.ofNat 2 1 Nat.zero_lt_two
  memoryCounter := Counter.ofNat 2 0 Nat.zero_lt_two

theorem marked_loads_and_dumps :
    (∃ loaded, marked.loadProgram [0x12, 0x34, 0x56] = .ok loaded ∧
      loaded.dump = [0x12, 0x34, 0x56, 0]) ∧
    marked.loadInPlace [1, 2, 3, 4, 5] = ⟨marked, some (.overflow 5 4)⟩ ∧
    ∃ memory loaded, ofSize 4 = .ok memory ∧ memory.loadProgram marked.dump = .ok loaded ∧
      loaded.words = marked.words ∧ loaded.programCounter.value = 0 := by
  obtain ⟨-, -, loads, -, -, -⟩ := images_load_and_dump marked [0x12, 0x34, 0x56] []
  obtain ⟨-, -, -, refuses, -, -⟩ := images_load_and_dump marked [1, 2, 3, 4, 5] []
  refine ⟨?_, (refuses (by decide)).2, ?_⟩
  · obtain ⟨loaded, done, -, words, -⟩ := loads (by decide)
    exact ⟨loaded, done, by rw [dump, words]; decide⟩
  · obtain ⟨memory, made, sized⟩ := @sized_ofSize 4 rfl (by decide)
    have same : marked.capacity = memory.capacity := sized.capacity.symm
    obtain ⟨-, -, -, -, -, dumps⟩ := images_load_and_dump memory [] []
    obtain ⟨loaded, done, words, counter, -⟩ := dumps marked same
    refine ⟨memory, loaded, made, done, words, ?_⟩
    cases made
    rw [counter]
    rfl

end Memory

end WordMachine
