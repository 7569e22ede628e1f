import WordMachine.Proofs.Machine.Size

/-! Loading. The words of an image take the places of the cells from an address on; the other cells
and the counters stay as they are. -/

set_option autoImplicit false

namespace WordMachine

/-! ## Words of an image -/

namespace Image

private theorem finish_foldl_feed (before : Array Word) (bytes : List UInt8) (reading : Reading) :
    (bytes.foldl Reading.feed ⟨before ++ reading.words, reading.high?⟩).finish =
      before.toList ++ (bytes.foldl Reading.feed reading).finish := by
  induction bytes generalizing reading with
  | nil =>
    simp only [List.foldl_nil, Reading.finish]
    cases reading.high? with
    | none => exact Array.toList_append
    | some high => simp only [Array.toList_push, Array.toList_append, List.append_assoc]
  | cons byte rest ih =>
    have fed : Reading.feed ⟨before ++ reading.words, reading.high?⟩ byte =
        ⟨before ++ (reading.feed byte).words, (reading.feed byte).high?⟩ := by
      simp only [Reading.feed]
      cases reading.high? with
      | none => rfl
      | some high => simp only [Array.push_append]
    rw [List.foldl_cons, List.foldl_cons, fed]
    exact ih (reading.feed byte)

theorem toWords_cons_cons (high low : UInt8) (rest : List UInt8) :
    toWords (high :: low :: rest) = Word.ofBytes high low :: toWords rest :=
  finish_foldl_feed #[Word.ofBytes high low] rest ⟨#[], none⟩

theorem length_ofWords (words : List Word) : (ofWords words).length = words.length * 2 := by
  induction words with
  | nil => rfl
  | cons word rest ih =>
    rw [ofWords, List.flatMap_cons, List.length_append, List.length_cons]
    rw [ofWords] at ih
    rw [ih]
    simp only [List.length_cons, List.length_nil]
    omega

end Image

/-! ## Memories -/

namespace Memory

/-- The stored memory is the other one with words in place of its cells from an address on. -/
structure Overwrites (memory : Memory) (address : Nat) (words : List Word) (stored : Memory) :
    Prop where
  words : stored.words =
    memory.words.take address ++ words ++ memory.words.drop (address + words.length)
  programCounter : stored.programCounter = memory.programCounter
  memoryCounter : stored.memoryCounter = memory.memoryCounter

private theorem overwrites_nil (memory : Memory) (address : Nat) :
    memory.Overwrites address [] memory := by
  refine ⟨?_, rfl, rfl⟩
  rw [List.append_nil, List.length_nil, Nat.add_zero, List.take_append_drop]

private theorem words_store {memory stored : Memory} {address : Nat} {word : Word}
    (done : memory.store address word = .ok stored) :
    stored.words = memory.words.take address ++ word :: memory.words.drop (address + 1) ∧
      address < memory.words.length := by
  rw [store] at done
  split at done
  next usable =>
    cases done
    have inside : address < memory.words.length := fault?_eq_none.mp usable
    have words : (memory.put address word).words = memory.words.set address word :=
      Array.toList_setIfInBounds
    rw [List.set_eq_take_append_cons_drop, if_pos inside] at words
    exact ⟨words, inside⟩
  next => cases done

private theorem overwrites_store {memory stored : Memory} {address : Nat} {word : Word}
    (done : memory.store address word = .ok stored) : memory.Overwrites address [word] stored := by
  obtain ⟨words, -⟩ := words_store done
  rw [store] at done
  split at done
  next =>
    cases done
    refine ⟨?_, rfl, rfl⟩
    rw [words, List.append_assoc]
    rfl
  next => cases done

/-- Words that are put one after another are put together. -/
theorem Overwrites.cons {memory middle stored : Memory} {address : Nat} {word : Word}
    {words : List Word} (first : memory.store address word = .ok middle)
    (rest : middle.Overwrites (address + 1) words stored) :
    memory.Overwrites address (word :: words) stored := by
  obtain ⟨cells, inside⟩ := words_store first
  have before : (memory.words.take address).length = address := List.length_take_of_le inside.le
  have one := overwrites_store first
  refine ⟨?_, rest.programCounter.trans one.programCounter,
    rest.memoryCounter.trans one.memoryCounter⟩
  have kept : middle.words.take (address + 1) = memory.words.take address ++ [word] := by
    rw [cells, List.take_append, before, Nat.add_sub_cancel_left, List.take_of_length_le (by omega)]
    rfl
  have others : middle.words.drop (address + 1 + words.length) =
      memory.words.drop (address + (word :: words).length) := by
    have length : address + 1 + words.length = (memory.words.take address).length +
        (words.length + 1) := by omega
    rw [cells, length, List.drop_length_add_append, List.drop_succ_cons, List.drop_drop]
    congr 1
    rw [List.length_cons]
    omega
  rw [rest.words, kept, others, List.append_assoc, List.append_assoc, List.append_assoc]
  rfl

private theorem overwrites_storeImage {memory stored : Memory} {address : Nat} {bytes : List UInt8}
    (done : memory.storeImage address bytes = .ok stored) :
    memory.Overwrites address (Image.toWords bytes) stored := by
  have stores := stores_of_ok done
  clear done
  induction stores with
  | nil => exact overwrites_nil _ _
  | last only => exact overwrites_store only
  | pair first _ ih =>
    rw [Image.toWords_cons_cons]
    exact .cons first ih

theorem overwrites_loadProgram {memory loaded : Memory} {bytes : List UInt8}
    (done : memory.loadProgram bytes = .ok loaded) :
    memory.Overwrites 0 (Image.toWords bytes) loaded := by
  rw [loadProgram] at done
  split at done
  next => exact overwrites_storeImage done
  next => cases done

theorem exists_loadProgram {memory : Memory} {bytes : List UInt8}
    (fits : bytes.length ≤ memory.capacity * 2) :
    ∃ loaded, memory.loadProgram bytes = .ok loaded := by
  rw [loadProgram, if_pos fits]
  exact exists_storeImage (by omega)

theorem load_of_getElem? {memory : Memory} {address : Nat} {word : Word}
    (found : memory.words[address]? = some word) : memory.load address = .ok word := by
  have cell : memory.cells[address]? = some word := Array.getElem?_toList ▸ found
  rw [load, cell]

end Memory

/-! ## Machines -/

namespace Machine

variable {Device : Type}

/-- A machine with the words of an image in its first cells. -/
structure Holds (machine : Machine Device) (words : List Word) (loaded : Machine Device) :
    Prop where
  loads : machine.loadProgram (Image.ofWords words) = .ok loaded
  memory : machine.memory.Overwrites 0 words loaded.memory

theorem exists_holds {machine : Machine Device} {words : List Word}
    (fits : words.length ≤ machine.memory.capacity) : ∃ loaded, machine.Holds words loaded := by
  have room : (Image.ofWords words).length ≤ machine.memory.capacity * 2 := by
    rw [Image.length_ofWords]
    omega
  obtain ⟨memory, loaded⟩ := Memory.exists_loadProgram room
  have overwrites := Memory.overwrites_loadProgram loaded
  rw [Image.toWords_ofWords] at overwrites
  exact ⟨{ machine with memory }, by rw [loadProgram, loaded]; rfl, overwrites⟩

theorem Holds.load {machine loaded : Machine Device} {words : List Word} {address : Nat}
    {word : Word} (holds : machine.Holds words loaded) (found : words[address]? = some word) :
    loaded.memory.load address = .ok word := by
  apply Memory.load_of_getElem?
  have inside : address < words.length := (List.getElem?_eq_some_iff.mp found).1
  rw [holds.memory.words, List.take_zero, List.nil_append, List.getElem?_append_left inside, found]

end Machine

end WordMachine
