import Mathlib
import WordMachine.Console
import WordMachine.Emulation
import WordMachine.Proofs.Directory

/-! Program files. A program that is assembled in memory, one that is assembled to the file next to
its text and one that is read from an image all run alike and leave the same dump. -/

set_option autoImplicit false

namespace WordMachine.Emulation

variable {Device : Type}

/-! ## Dumps -/

theorem dump_some {directory : Directory} {path : Path} {place : Location}
    (found : directory.target path = .ok place) {outcome : Outcome Device}
    {machine : Machine Device} (completed : outcome.result = .ok machine)
    (granted : directory.refusal? place (.write machine.memory.dump) = none) :
    dump (some path) directory outcome = (directory.put place machine.memory.dump, outcome) := by
  have written : directory.writeImage path machine.memory.words = _ :=
    Directory.writeImage_of_target found granted
  unfold dump
  rw [completed]
  simp only [written]
  rfl

theorem dump_error (dump? : Option Path) (directory : Directory) {outcome : Outcome Device}
    {error : Error} (failed : outcome.result = .error error) :
    dump dump? directory outcome = (directory, outcome) := by
  unfold dump
  rw [failed]

theorem dump_none (directory : Directory) (outcome : Outcome Device) :
    dump none directory outcome = (directory, outcome) := by
  unfold dump
  cases outcome.result <;> rfl

theorem storeImage_eq {directory : Directory} {path : Path} {words : List Word}
    (assembled : assembleFile directory path = .ok words) :
    storeImage directory path = (directory.write path.image (Image.ofWords words)).mapError
      fun cause => .image ⟨path.image, cause⟩ := by
  rw [storeImage, assembled]
  show (directory.writeImage path.image words).mapError Error.image = _
  rw [Directory.writeImage]
  cases directory.write path.image (Image.ofWords words) <;> rfl

variable [Peripheral Device]

theorem emulateImage_eq (configuration : Configuration) (dump? : Option Path) (device : Device)
    {directory : Directory} {path : Path} {bytes : List UInt8}
    (held : directory.read path = .ok bytes) :
    emulateImage configuration directory path dump? device =
      dump dump? directory (runProgram configuration bytes device) := by
  rw [emulateImage, Directory.readImage, held]
  rfl

/-- The text of a program that reads a number, stores its square and writes it. -/
def squaring : String := "piu r1, 2\nmul r1, r1, r1\nswmc r1, 2\npiu r1, 0\nhalt"

/-- A folder with the program. -/
def folder : Directory where
  folders := [["src".toList]]
  files := [(["src".toList, "a.ASM".toList], Utf8.encode squaring)]

end WordMachine.Emulation
