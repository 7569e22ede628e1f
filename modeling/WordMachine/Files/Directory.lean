import WordMachine.Files.Path
import WordMachine.IoError
import WordMachine.Text.Utf8

/-!
A working directory: the files that a program can reach and what they hold. A path is followed
piece by piece, and every piece but the last has to lead to a folder. An access to the file at its
end takes place as a whole, or the system refuses it. Main statements: a file that is put at a
location is found there, and every other file stays as it was.
-/

set_option autoImplicit false

namespace WordMachine

/-- Where a path leads: the names from the working directory on. Folders above it are written with
the parent's name, and an absolute place begins with the empty name. -/
abbrev Location := List Text

/-- What is done with the file at a location. -/
inductive Access where
  | read
  | write (bytes : List UInt8)

/-- The folders and files within reach. A folder that holds a file need not be listed. -/
structure Directory where
  folders : List Location
  files : List (Location × List UInt8)
  /-- Why the system refuses an access, if it does: a permission may be missing, or room. That may
  hang on what the files hold by then. -/
  refusals : List (Location × List UInt8) → Location → Access → Option IoError := fun _ _ _ => none

namespace Directory

def nameLimit : Nat := 255

def pathLimit : Nat := 4096

def empty : Directory where
  folders := []
  files := []

def file? (directory : Directory) (location : Location) : Option (List UInt8) :=
  directory.files.lookup location

def refusal? (directory : Directory) (location : Location) (access : Access) : Option IoError :=
  directory.refusals directory.files location access

/-- Whether a location is a folder whatever the directory holds. -/
def isAnchor (location : Location) : Bool :=
  location == [[]] || location.all (· == Path.parentPiece)

def isFolder (directory : Directory) (location : Location) : Bool :=
  isAnchor location || directory.folders.contains location ||
    directory.files.any fun (place, _) => location.isPrefixOf place && location != place

def parent (location : Location) : Location :=
  if location == [[]] then location
  else if isAnchor location then location ++ [Path.parentPiece]
  else location.dropLast

def start (path : Path) : Location := if path.text.head? = some '/' then [[]] else []

def byteCount (text : Text) : Nat := (Utf8.encode (String.ofList text)).length

def checked (path : Path) : Except IoError Path :=
  if path.text.contains '\x00' then .error .nulInName
  else if pathLimit ≤ byteCount path.text then .error .nameTooLong
  else if path.text.isEmpty then .error .notFound
  else .ok path

def child (folder : Location) (name : Text) : Except IoError Location :=
  if nameLimit < byteCount name then .error .nameTooLong else .ok (folder ++ [name])

def enter (directory : Directory) (location : Location) (piece : Text) :
    Except IoError Location :=
  if !directory.isFolder location then .error .notDirectory
  else if Path.isVoid piece then .ok location
  else if piece = Path.parentPiece then .ok (parent location)
  else do
    let place ← child location piece
    if directory.isFolder place || (directory.file? place).isSome then .ok place
    else .error .notFound

def walk (directory : Directory) (location : Location) (pieces : List Text) :
    Except IoError Location :=
  pieces.foldlM directory.enter location

def read (directory : Directory) (path : Path) : Except IoError (List UInt8) := do
  let path ← checked path
  let location ← directory.walk (start path) path.pieces
  match directory.refusal? location .read, directory.file? location with
  | some cause, _ => .error cause
  | none, some bytes => .ok bytes
  | none, none => .error .isDirectory

def readText (directory : Directory) (path : Path) : Except IoError Text := do
  let bytes ← directory.read path
  match Utf8.decode? bytes with
  | some text => .ok text
  | none => .error .notUtf8

def target (directory : Directory) (path : Path) : Except IoError Location := do
  let path ← checked path
  match path.pieces.reverse.dropWhile List.isEmpty with
  | [] => .error .isDirectory
  | last :: before =>
    let folder ← directory.walk (start path) before.reverse
    if !directory.isFolder folder then .error .notDirectory
    else if path.text.getLast? = some '/' || Path.isVoid last || last = Path.parentPiece then
      .error .isDirectory
    else
      let place ← child folder last
      if directory.isFolder place then .error .isDirectory else .ok place

def put (directory : Directory) (location : Location) (bytes : List UInt8) : Directory :=
  { directory with
    files := (location, bytes) :: directory.files.filter fun (place, _) => place != location }

def write (directory : Directory) (path : Path) (bytes : List UInt8) :
    Except IoError Directory := do
  let location ← directory.target path
  match directory.refusal? location (.write bytes) with
  | some cause => .error cause
  | none => .ok (directory.put location bytes)

theorem file?_put_same (directory : Directory) (location : Location) (bytes : List UInt8) :
    (directory.put location bytes).file? location = some bytes := by
  exact List.lookup_cons_self

theorem file?_put_other (directory : Directory) {location other : Location} (bytes : List UInt8)
    (different : other ≠ location) :
    (directory.put location bytes).file? other = directory.file? other := by
  have distinct : (other == location) = false := by simpa using different
  rw [put, file?, file?, List.lookup_cons, distinct]
  induction directory.files with
  | nil => rfl
  | cons entry rest inductionHypothesis =>
    obtain ⟨place, held⟩ := entry
    by_cases here : place = location
    · subst here
      rw [List.lookup_cons, distinct]
      simpa using inductionHypothesis
    · simp only [List.filter, bne, beq_eq_false_iff_ne.2 here, Bool.not_false, List.lookup_cons]
      cases other == place with
      | true => rfl
      | false => exact inductionHypothesis

end Directory

end WordMachine
