import WordMachine.Files.Directory
import WordMachine.Image

/-!
Images in files.
-/

set_option autoImplicit false

namespace WordMachine

structure ImageError where
  path : Path
  cause : IoError
deriving DecidableEq

def ImageError.message (error : ImageError) : String :=
  s!"I/O error on {String.ofList error.path.text}: {error.cause.message}"

namespace Directory

def readImage (directory : Directory) (path : Path) : Except ImageError (List UInt8) :=
  (directory.read path).mapError fun cause => ⟨path, cause⟩

def writeImage (directory : Directory) (path : Path) (words : List Word) :
    Except ImageError Directory :=
  (directory.write path (Image.ofWords words)).mapError fun cause => ⟨path, cause⟩

end Directory

end WordMachine
