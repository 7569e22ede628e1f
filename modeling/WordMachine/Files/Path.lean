import WordMachine.Text

/-!
Paths of files. A path is kept as it is written; slashes separate its pieces. Its file name is the
last piece that names something, and the file name's extension is what follows its last dot. A dot
at the very start of a file name begins no extension.
-/

set_option autoImplicit false

namespace WordMachine

structure Path where
  text : Text
deriving DecidableEq

namespace Path

/-- The pieces between the slashes; some may be empty. -/
def pieces (path : Path) : List Text := path.text.splitOn '/'

/-- Whether a piece names nothing: the empty piece, or the dot that stays where it is. -/
def isVoid (piece : Text) : Bool := piece.isEmpty || piece == ['.']

def parentPiece : Text := ['.', '.']

/-- The pieces up to the last one that names something, the last first. -/
def namedPieces (path : Path) : List Text := path.pieces.reverse.dropWhile isVoid

def fileName? (path : Path) : Option (Text × List Text) :=
  match path.namedPieces with
  | [] => none
  | name :: before => if name = parentPiece then none else some (name, before)

def splitExtension (name : Text) : Text × Option Text :=
  let behind := name.reverse.takeWhile (· != '.')
  match name.reverse.dropWhile (· != '.') with
  | [] => (name, none)
  | [_] => (name, none)
  | _ :: stem => (stem.reverse, some behind.reverse)

def extension? (path : Path) : Option Text :=
  path.fileName?.bind fun (name, _) => (splitExtension name).2

/-- The path without as many characters at its end as its extension has. Where the file name ends
the path, these are the extension, and the dot before it stays. -/
def dropExtension (path : Path) : Path :=
  ⟨path.text.take (path.text.length - (path.extension?.getD []).length)⟩

/-- The path with another extension, or with one more where there is none. The old one is dropped
first. A path that has no file name then stays as it is: two dots and an extension leave the
directory above, which takes no other. -/
def withExtension (path : Path) (extension : Text) : Path :=
  match path.dropExtension.fileName? with
  | none => path.dropExtension
  | some (name, before) =>
    let name := (splitExtension name).1 ++ '.' :: extension
    ⟨Text.joinWith ['/'] (name :: before).reverse⟩

def isSource (path : Path) : Bool :=
  match path.extension? with
  | some extension => extension.sameName "asm".toList
  | none => false

def image (path : Path) : Path := path.withExtension "bin".toList

end Path

end WordMachine
