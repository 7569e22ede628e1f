import WordMachine.CommandLine

/-!
The program: it hands the files that the arguments name, and the input, to the command line, and
writes and prints what comes back.
-/

set_option autoImplicit false

namespace WordMachine.Program

/-- The bytes of the file at a place, or nothing for a folder; none if there is neither. -/
def probe (place : String) : IO (Option (Option ByteArray)) :=
  try
    let bytes ← IO.FS.readBinFile place
    return some (some bytes)
  catch
    | .inappropriateType .. => return some none
    | _ => return none

/-- The places that a path passes through, the path's own last. -/
def placesOf (path : Path) : List Text :=
  (List.range path.pieces.length).map fun count =>
    Text.joinWith ['/'] (path.pieces.take (count + 1))

/-- The directory with what is found at a place in a folder that is known already. -/
def discover (directory : Directory) (place : Text) : IO Directory := do
  let path : Path := ⟨place⟩
  let follow (pieces : List Text) : Option Location :=
    (directory.walk (Directory.start path) pieces).toOption
  match follow path.pieces, follow path.pieces.dropLast with
  | none, some folder =>
    let location := folder ++ [path.pieces.getLastD []]
    match ← probe (String.ofList place) with
    | some (some bytes) => return directory.put location bytes.toList
    | some none => return { directory with folders := location :: directory.folders }
    | none => return directory
  | _, _ => return directory

def survey (command : CommandLine.Command) : IO Directory :=
  (command.paths.flatMap placesOf).foldlM discover Directory.empty

def store (command : CommandLine.Command) (before after : Directory) : IO Unit := do
  for path in command.paths do
    match after.read path with
    | .error _ => pure ()
    | .ok bytes =>
      if (before.read path).toOption ≠ some bytes then
        IO.FS.writeBinFile (String.ofList path.text) ⟨bytes.toArray⟩

partial def readAll (stream : IO.FS.Stream) (before : ByteArray) : IO ByteArray := do
  let bytes ← stream.read 65536
  if bytes.isEmpty then return before else readAll stream (before ++ bytes)

def run (arguments : List String) : IO UInt32 := do
  let texts := arguments.map String.toList
  let command := (CommandLine.readArguments texts).toOption.getD .help
  let before ← survey command
  let input ← if command.readsInput then readAll (← IO.getStdin) .empty else pure .empty
  let outcome := CommandLine.perform texts input.toList before
  store command before outcome.directory
  let output ← IO.getStdout
  output.write ⟨outcome.output.toArray⟩
  output.flush
  IO.eprint outcome.errors
  return outcome.status.toUInt32

end WordMachine.Program

def main (arguments : List String) : IO UInt32 := WordMachine.Program.run arguments
