import WordMachine.Assembly
import WordMachine.Configuration
import WordMachine.Files.ImageFile
import WordMachine.Machine.Run

/-!
Emulations: a program is loaded into a new machine and run, and what it leaves behind may be
dumped to a file. Nothing carries over from one emulation to the next.
-/

set_option autoImplicit false

namespace WordMachine.Emulation

inductive Error where
  | unreadable (path : Path) (cause : IoError)
  | assembly (failure : Assembly.Error)
  | image (failure : ImageError)
  | memory (failure : MemoryError)
  | fault (failure : Fault)
  /-- The run has neither an end nor a limit, and stops when the cycle count is exhausted. -/
  | endless
deriving DecidableEq

/-- The report of an error. There is none where the program just stops. -/
def Error.message? : Error → Option String
  | unreadable path cause => s!"cannot read {String.ofList path.text}: {cause.message}"
  | assembly failure => failure.message?.map fun message => s!"assembly error: {message}"
  | image failure => failure.message
  | memory failure => failure.message
  | fault failure => failure.message
  | endless => none

variable {Device : Type}

/-- What an emulation leaves behind: the device, and the machine if the run was completed or stopped
at the limit. -/
structure Outcome (Device : Type) where
  device : Device
  result : Except Error (Machine Device)

def Outcome.ofRun (run : Machine.Run Device) : Outcome Device :=
  match run.fault? with
  | none => ⟨run.machine.device, .ok run.machine⟩
  | some fault => ⟨run.machine.device, .error (.fault fault)⟩

def start? [Peripheral Device] (configuration : Configuration) (machine : Machine Device) :
    Option (Machine.Run Device) :=
  match configuration.maxCycles with
  | some limit => machine.runLimited? limit
  | none => machine.run?

def runProgram [Peripheral Device] (configuration : Configuration) (program : List UInt8)
    (device : Device) : Outcome Device :=
  match Machine.ofProgram configuration.memoryBytes program device with
  | .error error => ⟨device, .error (.memory error)⟩
  | .ok machine =>
    match start? configuration machine with
    | some run => .ofRun run
    | none => ⟨device, .error .endless⟩

def assembleFile (directory : Directory) (path : Path) : Except Error (List Word) :=
  match directory.readText path with
  | .error cause => .error (.unreadable path cause)
  | .ok source => (Assembly.assemble source).mapError .assembly

/-- The bytes of the program at a path, which is an assembly text or an image. -/
def loadProgram (directory : Directory) (path : Path) : Except Error (List UInt8) :=
  if path.isSource then (assembleFile directory path).map Image.ofWords
  else (directory.readImage path).mapError .image

/-- The directory after the memory of a completed run has been written to a file, if that is asked
for. -/
def dump (dump? : Option Path) (directory : Directory) (outcome : Outcome Device) :
    Directory × Outcome Device :=
  match outcome.result, dump? with
  | .ok machine, some path =>
    match directory.writeImage path machine.memory.words with
    | .ok written => (written, outcome)
    | .error error => (directory, { outcome with result := .error (.image error) })
  | _, _ => (directory, outcome)

def runLoaded [Peripheral Device] (configuration : Configuration) (dump? : Option Path)
    (directory : Directory) (program : Except Error (List UInt8)) (device : Device) :
    Directory × Outcome Device :=
  match program with
  | .ok bytes => dump dump? directory (runProgram configuration bytes device)
  | .error error => (directory, ⟨device, .error error⟩)

/-- Runs the program at a path, which is an assembly text or an image. -/
def runFile [Peripheral Device] (configuration : Configuration) (directory : Directory)
    (path : Path) (dump? : Option Path) (device : Device) : Directory × Outcome Device :=
  runLoaded configuration dump? directory (loadProgram directory path) device

def emulateImage [Peripheral Device] (configuration : Configuration) (directory : Directory)
    (path : Path) (dump? : Option Path) (device : Device) : Directory × Outcome Device :=
  runLoaded configuration dump? directory ((directory.readImage path).mapError .image) device

def storeImage (directory : Directory) (path : Path) : Except Error Directory := do
  let words ← assembleFile directory path
  (directory.writeImage path.image words).mapError .image

/-- Stores the image of the assembly text at a path next to it, and runs the image. -/
def emulateSource [Peripheral Device] (configuration : Configuration) (directory : Directory)
    (path : Path) (dump? : Option Path) (device : Device) : Directory × Outcome Device :=
  match storeImage directory path with
  | .ok stored => emulateImage configuration stored path.image dump? device
  | .error error => (directory, ⟨device, .error error⟩)

end WordMachine.Emulation
