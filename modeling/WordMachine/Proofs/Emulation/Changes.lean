import WordMachine.Proofs.Emulation

/-! What emulations do to files. An emulation whose program cannot be loaded changes no file. Before
the run only the image of a source may be stored, and the dump is not touched unless the run has
come to an end or to its limit. -/

set_option autoImplicit false

namespace WordMachine

namespace Directory

/-- Where a file goes that is written under the path, unless the system refuses it. There is no such
place, if there is no path or it does not lead to one. -/
def places (directory : Directory) (path? : Option Path) : Set Location :=
  {place | ∃ path, path? = some path ∧ directory.target path = .ok place}

/-- Outside of the places every file is as it was, and no file has been created. -/
structure Keeps (places : Set Location) (before after : Directory) : Prop where
  files : Set.EqOn after.file? before.file? placesᶜ
  folders : after.folders = before.folders

private theorem Keeps.refl (places : Set Location) (directory : Directory) :
    Keeps places directory directory := ⟨fun _ _ => rfl, rfl⟩

private theorem Keeps.trans {first second : Set Location} {before middle after : Directory}
    (earlier : Keeps first before middle) (later : Keeps second middle after) :
    Keeps (first ∪ second) before after := by
  refine ⟨fun place outside => ?_, later.folders.trans earlier.folders⟩
  rw [Set.compl_union] at outside
  exact (later.files outside.2).trans (earlier.files outside.1)

private theorem keeps_put (directory : Directory) (place : Location) (bytes : List UInt8) :
    Keeps {place} directory (directory.put place bytes) :=
  ⟨fun _ outside => file?_put_other directory bytes outside, rfl⟩

private theorem places_none (directory : Directory) : directory.places none = ∅ :=
  Set.eq_empty_of_forall_notMem fun _ ⟨_, asked, _⟩ => nomatch asked

private theorem places_of_target {directory : Directory} {path : Path} {place : Location}
    (found : directory.target path = .ok place) : directory.places (some path) = {place} := by
  ext other
  simp [places, found, eq_comm]

private theorem places_write {directory written : Directory} {path : Path} {bytes : List UInt8}
    (done : directory.write path bytes = .ok written) (path? : Option Path) :
    written.places path? = directory.places path? := by
  ext place
  simp only [places, target_write_iff done]

/-- What cannot be written has no place, or the system refuses it there. -/
theorem refused_of_write {directory : Directory} {path : Path} {bytes : List UInt8}
    {cause : IoError} (failed : directory.write path bytes = .error cause) :
    ∀ place ∈ directory.places (some path),
      (directory.refusal? place (.write bytes)).isSome = true := by
  rintro place ⟨_, ⟨⟩, there⟩
  have writes := directory.writes_write path bytes
  rw [failed] at writes
  cases writes with
  | nowhere nowhere => cases nowhere.symm.trans there
  | refused found refusal =>
    cases found.symm.trans there
    rw [refusal]
    rfl

end Directory

namespace Emulation

open Directory (Keeps)

variable {Device : Type}

/-! ## Dumps -/

inductive Dumps (dump? : Option Path) (directory : Directory) (outcome : Outcome Device) :
    Directory × Outcome Device → Prop where
  | failed {error : Error} : outcome.result = .error error →
      Dumps dump? directory outcome (directory, outcome)
  | unasked {machine : Machine Device} : outcome.result = .ok machine → dump? = none →
      Dumps dump? directory outcome (directory, outcome)
  | written {machine : Machine Device} {path : Path} {place : Location} :
      outcome.result = .ok machine → dump? = some path → directory.target path = .ok place →
      Dumps dump? directory outcome (directory.put place machine.memory.dump, outcome)
  | unwritten {machine : Machine Device} {path : Path} {error : ImageError} :
      outcome.result = .ok machine → dump? = some path →
      Dumps dump? directory outcome (directory, { outcome with result := .error (.image error) })

private theorem dumps_dump (dump? : Option Path) (directory : Directory)
    (outcome : Outcome Device) :
    Dumps dump? directory outcome (dump dump? directory outcome) := by
  cases completed : outcome.result with
  | error error =>
    rw [dump_error dump? directory completed]
    exact .failed completed
  | ok machine =>
    cases dump? with
    | none =>
      rw [dump_none]
      exact .unasked completed rfl
    | some path =>
      have writes := directory.writes_write path machine.memory.dump
      cases result : directory.write path machine.memory.dump with
      | ok written =>
        rw [result] at writes
        cases writes with
        | put found granted =>
          rw [dump_some found completed granted]
          exact .written completed rfl found
      | error cause =>
        have failed : directory.writeImage path machine.memory.words = .error ⟨path, cause⟩ := by
          rw [Directory.writeImage]
          show (directory.write path machine.memory.dump).mapError _ = _
          rw [result]
          rfl
        have unwritten : dump (some path) directory outcome =
            (directory, { outcome with result := .error (.image ⟨path, cause⟩) }) := by
          simp only [dump, completed, failed]
        rw [unwritten]
        exact .unwritten completed rfl

private theorem Dumps.keeps {dump? : Option Path} {directory : Directory} {outcome : Outcome Device}
    {left : Directory × Outcome Device} (dumps : Dumps dump? directory outcome left) :
    Keeps (directory.places dump?) directory left.1 := by
  cases dumps with
  | failed | unasked | unwritten => exact .refl _ directory
  | @written machine path place _ asked found =>
    rw [asked, Directory.places_of_target found]
    exact Directory.keeps_put directory place _

private theorem Dumps.of_error {dump? : Option Path} {directory : Directory}
    {outcome : Outcome Device} {left : Directory × Outcome Device} {error : Error}
    (dumps : Dumps dump? directory outcome left) (failed : left.2.result = .error error) :
    left.1 = directory := by
  cases dumps with
  | failed | unasked | unwritten => rfl
  | written completed =>
    cases completed.symm.trans failed

private theorem Dumps.of_failed {dump? : Option Path} {directory : Directory}
    {outcome : Outcome Device} {left : Directory × Outcome Device} {error : Error}
    (dumps : Dumps dump? directory outcome left) (failed : outcome.result = .error error) :
    left = (directory, outcome) := by
  cases dumps with
  | failed => rfl
  | unasked completed | written completed | unwritten completed =>
    cases completed.symm.trans failed

private theorem Dumps.of_ok {dump? : Option Path} {directory : Directory} {outcome : Outcome Device}
    {left : Directory × Outcome Device} {machine : Machine Device}
    (dumps : Dumps dump? directory outcome left) (done : left.2.result = .ok machine) :
    outcome.result = .ok machine ∧
      ∀ place ∈ directory.places dump?, left.1.file? place = some machine.memory.dump := by
  cases dumps with
  | failed failed => cases failed.symm.trans done
  | unasked completed unasked =>
    cases completed.symm.trans done
    subst unasked
    refine ⟨completed, ?_⟩
    rw [Directory.places_none]
    exact fun _ => False.elim
  | written completed asked found =>
    cases completed.symm.trans done
    subst asked
    refine ⟨completed, ?_⟩
    rw [Directory.places_of_target found]
    rintro _ rfl
    exact Directory.file?_put_same directory _ _
  | unwritten => cases done

/-! ## Calls -/

/-- The ways to emulate a program in a file. -/
inductive Call where
  /-- Takes an assembly text or an image. -/
  | file
  | image
  /-- Takes an assembly text and stores its image. -/
  | source

namespace Call

def perform [Peripheral Device] (call : Call) (configuration : Configuration)
    (directory : Directory) (path : Path) (dump? : Option Path) (device : Device) :
    Directory × Outcome Device :=
  match call with
  | file => runFile configuration directory path dump? device
  | image => emulateImage configuration directory path dump? device
  | source => emulateSource configuration directory path dump? device

/-- The program that is run, or why there is none. -/
def program (call : Call) (directory : Directory) (path : Path) : Except Error (List UInt8) :=
  match call with
  | file => loadProgram directory path
  | image => (directory.readImage path).mapError .image
  | source => (assembleFile directory path).map Image.ofWords

/-- The path under which the program is stored before it is run. -/
def stored? (call : Call) (path : Path) : Option Path :=
  match call with
  | file | image => none
  | source => some path.image

def TakesText (call : Call) (path : Path) : Prop :=
  match call with
  | file => path.isSource = true
  | image => False
  | source => True

/-- The file cannot be read, or it is to be an assembly text and is no text or does not assemble. -/
inductive Unloadable (call : Call) (directory : Directory) (path : Path) : Prop where
  | unreadable {cause : IoError} : directory.read path = .error cause →
      Unloadable call directory path
  | notUtf8 {bytes : List UInt8} : call.TakesText path → directory.read path = .ok bytes →
      Utf8.decode? bytes = none → Unloadable call directory path
  | refused {source : Text} {failure : Assembly.Error} : call.TakesText path →
      directory.readText path = .ok source → Assembly.assemble source = .error failure →
      Unloadable call directory path

private theorem program_file (directory : Directory) (path : Path) :
    program .file directory path =
      program (if path.isSource then .source else .image) directory path := by
  show loadProgram directory path = _
  rw [loadProgram]
  split <;> rfl

private theorem Unloadable.program_image {directory : Directory} {path : Path}
    (unloadable : Unloadable .image directory path) :
    ∃ error, program .image directory path = .error error := by
  cases unloadable with
  | unreadable failed => simp [program, Directory.readImage, failed, Except.mapError]
  | notUtf8 text | refused text => exact text.elim

private theorem Unloadable.program_source {directory : Directory} {path : Path}
    (unloadable : Unloadable .source directory path) :
    ∃ error, program .source directory path = .error error := by
  simp only [program, assembleFile]
  cases unloadable with
  | unreadable failed =>
    simp [Directory.readText, failed, bind, Except.bind, Except.map]
  | notUtf8 _ read decoded =>
    simp [Directory.readText, read, decoded, bind, Except.bind, Except.map]
  | refused _ read failed => simp [read, failed, Except.map, Except.mapError]

private theorem Unloadable.program {call : Call} {directory : Directory} {path : Path}
    (unloadable : Unloadable call directory path) :
    ∃ error, call.program directory path = .error error := by
  cases call with
  | image => exact unloadable.program_image
  | source => exact unloadable.program_source
  | file =>
    rw [program_file]
    split
    next =>
      apply program_source
      cases unloadable with
      | unreadable failed => exact .unreadable failed
      | notUtf8 _ read decoded => exact .notUtf8 trivial read decoded
      | refused _ read failed => exact .refused trivial read failed
    next isImage =>
      apply program_image
      cases unloadable with
      | unreadable failed => exact .unreadable failed
      | notUtf8 text | refused text => exact absurd text isImage

/-- The program has been stored where the call stores it, if it does. -/
structure Stores (call : Call) (directory : Directory) (path : Path) (bytes : List UInt8)
    (stored : Directory) : Prop where
  keeps : Keeps (directory.places (call.stored? path)) directory stored
  holds : ∀ place ∈ directory.places (call.stored? path), stored.file? place = some bytes
  places : ∀ path?, stored.places path? = directory.places path?

private theorem stores_nothing {call : Call} {path : Path} (storesNot : call.stored? path = none)
    (directory : Directory) (bytes : List UInt8) : call.Stores directory path bytes directory := by
  refine ⟨.refl _ directory, ?_, fun _ => rfl⟩
  rw [storesNot, Directory.places_none]
  exact fun _ => False.elim

private theorem stores_write {directory written : Directory} {path : Path} {bytes : List UInt8}
    (done : directory.write path.image bytes = .ok written) :
    Stores .source directory path bytes written := by
  obtain ⟨place, found, rfl⟩ := Directory.exists_put done
  have same : directory.places (stored? .source path) = {place} :=
    Directory.places_of_target found
  refine ⟨?_, ?_, Directory.places_write done⟩
  · rw [same]
    exact Directory.keeps_put directory place bytes
  · rw [same]
    rintro _ rfl
    exact Directory.file?_put_same directory _ bytes

variable [Peripheral Device]

/-- A call ends before it has stored the program or read it back, or with what the run leaves to be
dumped. -/
inductive Ends (call : Call) (configuration : Configuration) (directory : Directory) (path : Path)
    (dump? : Option Path) (device : Device) : Directory × Outcome Device → Prop where
  | unloaded {error : Error} : call.program directory path = .error error →
      Ends call configuration directory path dump? device (directory, ⟨device, .error error⟩)
  | unstored {bytes : List UInt8} {error : Error} : call.program directory path = .ok bytes →
      (∀ place ∈ directory.places (call.stored? path),
        (directory.refusal? place (.write bytes)).isSome = true) →
      Ends call configuration directory path dump? device (directory, ⟨device, .error error⟩)
  | unread {bytes : List UInt8} {stored : Directory} {error : Error} :
      call.program directory path = .ok bytes → call.Stores directory path bytes stored →
      Ends call configuration directory path dump? device (stored, ⟨device, .error error⟩)
  | ran {bytes : List UInt8} {stored : Directory} {left : Directory × Outcome Device} :
      call.program directory path = .ok bytes → call.Stores directory path bytes stored →
      Dumps dump? stored (runProgram configuration bytes device) left →
      Ends call configuration directory path dump? device left

private theorem ends_runLoaded {call : Call} {path : Path} (storesNot : call.stored? path = none)
    (configuration : Configuration) (directory : Directory) (dump? : Option Path)
    (device : Device) :
    Ends call configuration directory path dump? device
      (runLoaded configuration dump? directory (call.program directory path) device) := by
  cases loaded : call.program directory path with
  | error error => exact .unloaded loaded
  | ok bytes => exact .ran loaded (stores_nothing storesNot directory bytes) (dumps_dump _ _ _)

/-- The image of a source that could be stored is read back and run, unless it cannot be read. -/
theorem ends_emulateImage (configuration : Configuration) {directory stored : Directory}
    {path : Path} (dump? : Option Path) (device : Device) {bytes : List UInt8}
    (loaded : program .source directory path = .ok bytes)
    (written : directory.write path.image bytes = .ok stored) :
    Ends .source configuration directory path dump? device
      (emulateImage configuration stored path.image dump? device) := by
  have stores := stores_write written
  obtain ⟨place, found, rfl⟩ := Directory.exists_put written
  have back := Directory.read_of_target (Directory.target_write written found)
    (Directory.file?_put_same directory place bytes)
  cases refusal : (directory.put place bytes).refusal? place .read with
  | some cause =>
    rw [refusal] at back
    rw [emulateImage, Directory.readImage, back]
    exact .unread loaded stores
  | none =>
    rw [refusal] at back
    rw [emulateImage_eq configuration dump? device back]
    exact .ran loaded stores (dumps_dump _ _ _)

private theorem ends_source (configuration : Configuration) (directory : Directory) (path : Path)
    (dump? : Option Path) (device : Device) :
    Ends .source configuration directory path dump? device
      (emulateSource configuration directory path dump? device) := by
  cases assembled : assembleFile directory path with
  | error error =>
    have failed : storeImage directory path = .error error := by
      rw [storeImage, assembled]
      rfl
    rw [emulateSource, failed]
    exact .unloaded (by rw [program, assembled]; rfl)
  | ok words =>
    have loaded : program .source directory path = .ok (Image.ofWords words) := by
      rw [program, assembled]
      rfl
    have storing := storeImage_eq assembled
    cases written : directory.write path.image (Image.ofWords words) with
    | error cause =>
      rw [written] at storing
      rw [emulateSource, storing]
      exact .unstored loaded (Directory.refused_of_write written)
    | ok stored =>
      rw [written] at storing
      rw [emulateSource, storing]
      exact ends_emulateImage configuration dump? device loaded written

private theorem ends_perform (call : Call) (configuration : Configuration) (directory : Directory)
    (path : Path) (dump? : Option Path) (device : Device) :
    Ends call configuration directory path dump? device
      (call.perform configuration directory path dump? device) := by
  cases call with
  | file | image => exact ends_runLoaded rfl configuration directory dump? device
  | source => exact ends_source configuration directory path dump? device

namespace Ends

variable {call : Call} {configuration : Configuration} {directory : Directory} {path : Path}
  {dump? : Option Path} {device : Device} {left : Directory × Outcome Device}

private theorem of_unloadable (ends : Ends call configuration directory path dump? device left)
    (unloadable : call.Unloadable directory path) :
    left.1 = directory ∧ ∃ error, left.2.result = .error error := by
  obtain ⟨reason, failed⟩ := unloadable.program
  cases ends with
  | unloaded => exact ⟨rfl, _, rfl⟩
  | unstored loaded | unread loaded | ran loaded => cases failed.symm.trans loaded

private theorem of_failed (ends : Ends call configuration directory path dump? device left)
    {bytes : List UInt8} {error : Error} (loaded : call.program directory path = .ok bytes)
    (failed : (runProgram configuration bytes device).result = .error error) :
    ∃ reason, left.2.result = .error reason := by
  cases ends with
  | unloaded failed => cases failed.symm.trans loaded
  | unstored | unread => exact ⟨_, rfl⟩
  | ran same _ dumps =>
    cases same.symm.trans loaded
    rw [dumps.of_failed failed]
    exact ⟨error, failed⟩

/-- A call that fails has stored the program, unless it could not and has changed nothing. -/
theorem of_error (ends : Ends call configuration directory path dump? device left) {error : Error}
    (failed : left.2.result = .error error) :
    Keeps (directory.places (call.stored? path)) directory left.1 ∧
      ∀ bytes, call.program directory path = .ok bytes →
        ∀ place ∈ directory.places (call.stored? path), left.1.file? place = some bytes ∨
          (directory.refusal? place (.write bytes)).isSome = true ∧ left.1 = directory := by
  cases ends with
  | unloaded unloaded =>
    refine ⟨.refl _ directory, fun bytes loaded => ?_⟩
    cases unloaded.symm.trans loaded
  | unstored loaded refused =>
    refine ⟨.refl _ directory, fun bytes same place there => .inr ⟨?_, rfl⟩⟩
    cases loaded.symm.trans same
    exact refused place there
  | unread loaded stores =>
    refine ⟨stores.keeps, fun bytes same place there => .inl ?_⟩
    cases loaded.symm.trans same
    exact stores.holds place there
  | ran loaded stores dumps =>
    rw [dumps.of_error failed]
    refine ⟨stores.keeps, fun bytes same place there => .inl ?_⟩
    cases loaded.symm.trans same
    exact stores.holds place there

private theorem keeps (ends : Ends call configuration directory path dump? device left) :
    Keeps (directory.places (call.stored? path) ∪ directory.places dump?) directory left.1 := by
  cases ends with
  | unloaded | unstored => exact .refl _ directory
  | unread _ stores => exact stores.keeps.trans (.refl _ _)
  | ran _ stores dumps =>
    have keeps := dumps.keeps
    rw [stores.places dump?] at keeps
    exact stores.keeps.trans keeps

/-- A call that succeeds has stored the program and written the dump, if they are asked for. -/
theorem of_ok (ends : Ends call configuration directory path dump? device left)
    {machine : Machine Device} (done : left.2.result = .ok machine) :
    Keeps (directory.places (call.stored? path) ∪ directory.places dump?) directory left.1 ∧
      (∀ place ∈ directory.places dump?, left.1.file? place = some machine.memory.dump) ∧
      ∃ bytes, call.program directory path = .ok bytes ∧
        ∀ place ∈ directory.places (call.stored? path), place ∉ directory.places dump? →
          left.1.file? place = some bytes := by
  refine ⟨ends.keeps, ?_⟩
  cases ends with
  | unloaded | unstored | unread => cases done
  | @ran bytes stored left loaded stores dumps =>
    have keeps := dumps.keeps
    have dumped := (dumps.of_ok done).2
    rw [stores.places dump?] at keeps dumped
    refine ⟨dumped, bytes, loaded, fun place there outside => ?_⟩
    rw [keeps.files outside]
    exact stores.holds place there

end Ends

end Call

/-- A call whose program cannot be loaded changes no file. A call that fails later changes at most
the stored image, which is then the program unless it could not be written and nothing has changed,
and leaves the dump alone where it goes elsewhere. A call that succeeds changes at most the stored
image and the dump. Where the program may be of either kind it is not stored. -/
theorem files_after_emulation [Peripheral Device] (call : Call) (configuration : Configuration)
    (directory : Directory) (path : Path) (dump? : Option Path) (device : Device) :
    let left := call.perform configuration directory path dump? device
    let stored := directory.places (call.stored? path)
    let dumped := directory.places dump?
    (call.Unloadable directory path →
      left.1 = directory ∧ ∃ error, left.2.result = .error error) ∧
    (∀ bytes error, call.program directory path = .ok bytes →
      (runProgram configuration bytes device).result = .error error →
      ∃ reason, left.2.result = .error reason) ∧
    (∀ error, left.2.result = .error error → Keeps stored directory left.1 ∧
      (Disjoint dumped stored → Set.EqOn left.1.file? directory.file? dumped) ∧
      ∀ bytes, call.program directory path = .ok bytes →
        ∀ place ∈ stored, left.1.file? place = some bytes ∨
          (directory.refusal? place (.write bytes)).isSome = true ∧ left.1 = directory) ∧
    (∀ machine, left.2.result = .ok machine → Keeps (stored ∪ dumped) directory left.1 ∧
      (∀ place ∈ dumped, left.1.file? place = some machine.memory.dump) ∧
      ∃ bytes, call.program directory path = .ok bytes ∧
        (Disjoint dumped stored → ∀ place ∈ stored, left.1.file? place = some bytes)) ∧
    Keeps dumped directory (runFile configuration directory path dump? device).1 := by
  intro left stored dumped
  have ends := call.ends_perform configuration directory path dump? device
  refine ⟨ends.of_unloadable, fun _ _ => ends.of_failed, ?_, ?_, ?_⟩
  · intro error failed
    obtain ⟨keeps, holds⟩ := ends.of_error failed
    exact ⟨keeps, fun apart place there => keeps.files (apart.notMem_of_mem_left there), holds⟩
  · intro machine done
    obtain ⟨keeps, dumps, bytes, loaded, holds⟩ := ends.of_ok done
    exact ⟨keeps, dumps, bytes, loaded, fun apart place there =>
      holds place there (apart.notMem_of_mem_right there)⟩
  · have kept := (Call.file.ends_perform configuration directory path dump? device).keeps
    rwa [Call.stored?, Directory.places_none, Set.empty_union] at kept

/-- The text of a program that asks the console for something unknown, an older image of it and an
older dump. -/
def asking : Directory where
  folders := []
  files := [(["a.asm".toList], Utf8.encode "piu x,9"), (["a.bin".toList], [0xFF]),
    (["dump".toList], [0xFF])]

/-- The same files where there is no room for another image. -/
def crowded : Directory :=
  { asking with refusals := fun _ _ access =>
      match access with
      | .read => none
      | .write _ => some .storageFull }

theorem asking_keeps_dump :
    let configuration : Configuration := ⟨4, some 9, .hexadecimal⟩
    let path : Path := ⟨"a.asm".toList⟩
    let dump? : Option Path := some ⟨"./dump".toList⟩
    let source := Call.source.perform configuration asking path dump? Console.silent
    let image := Call.image.perform configuration asking ⟨"a.bin".toList⟩ dump? Console.silent
    let missing := Call.image.perform configuration asking ⟨"b.bin".toList⟩ dump? Console.silent
    let unstored := Call.source.perform configuration crowded path dump? Console.silent
    source.1.file? ["a.bin".toList] = some [0x09, 0xFE] ∧
      source.1.file? ["dump".toList] = some [0xFF] ∧
      image.1.file? ["dump".toList] = some [0xFF, 0x00, 0x00, 0x00] ∧ missing.1 = asking ∧
      unstored.1 = crowded := by
  intro configuration path dump? source image missing unstored
  have stored : asking.places (Call.source.stored? path) = {["a.bin".toList]} :=
    Directory.places_of_target (by decide +kernel)
  have crowding : crowded.places (Call.source.stored? path) = {["a.bin".toList]} :=
    Directory.places_of_target (by decide +kernel)
  have dumped : asking.places dump? = {["dump".toList]} :=
    Directory.places_of_target (by decide +kernel)
  obtain ⟨-, fails, failed, -⟩ := files_after_emulation .source configuration asking path dump?
    Console.silent
  obtain ⟨-, -, -, succeeded, -⟩ := files_after_emulation .image configuration asking
    ⟨"a.bin".toList⟩ dump? Console.silent
  obtain ⟨unloaded, -⟩ := files_after_emulation .image configuration asking
    ⟨"b.bin".toList⟩ dump? Console.silent
  obtain ⟨-, refuses, refused, -⟩ := files_after_emulation .source configuration crowded path dump?
    Console.silent
  have absent : asking.read ⟨"b.bin".toList⟩ = .error .notFound := by decide +kernel
  have loaded : Call.source.program asking path = .ok [0x09, 0xFE] := by decide +kernel
  have readable : Call.source.program crowded path = .ok [0x09, 0xFE] := by decide +kernel
  obtain ⟨error, run⟩ := error_of_toOption (show
    (runProgram configuration [0x09, 0xFE] Console.silent).result.toOption.isNone = true by decide)
  obtain ⟨machine, result, dump⟩ := ok_of_toOption (show
    image.2.result.toOption.map (fun machine => machine.memory.dump) =
      some [0xFF, 0x00, 0x00, 0x00] by decide +kernel)
  obtain ⟨reason, ended⟩ := fails _ error loaded run
  obtain ⟨-, same, holds⟩ := failed reason ended
  obtain ⟨cause, stopped⟩ := refuses _ error readable run
  obtain ⟨-, -, either⟩ := refused cause stopped
  have apart : Disjoint (asking.places dump?) (asking.places (Call.source.stored? path)) := by
    rw [stored, dumped, Set.disjoint_singleton]
    decide
  refine ⟨?_, ?_, ?_, ?_, ?_⟩
  · rcases holds _ loaded ["a.bin".toList] (stored ▸ rfl) with held | ⟨nothing, -⟩
    · exact held
    · cases nothing
  · rw [same apart (dumped ▸ rfl)]
    decide
  · rw [(succeeded machine result).2.1 _ (dumped ▸ rfl), dump]
  · exact (unloaded (.unreadable absent)).1
  · have older : unstored.1.file? ["a.bin".toList] = some [0xFF] := by decide +kernel
    rcases either _ readable ["a.bin".toList] (crowding ▸ rfl) with held | ⟨-, same⟩
    · cases older.symm.trans held
    · exact same

end Emulation

end WordMachine
