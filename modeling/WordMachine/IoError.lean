/-!
What can go wrong with a file or a stream, with the text under which the system reports it.
-/

set_option autoImplicit false

namespace WordMachine

inductive IoError where
  | notFound
  | noTerminal
  | permissionDenied
  | notDirectory
  | isDirectory
  | storageFull
  | nameTooLong
  | nulInName
  | notUtf8
deriving DecidableEq

def IoError.message : IoError → String
  | notFound => "No such file or directory (os error 2)"
  | noTerminal => "No such device or address (os error 6)"
  | permissionDenied => "Permission denied (os error 13)"
  | notDirectory => "Not a directory (os error 20)"
  | isDirectory => "Is a directory (os error 21)"
  | storageFull => "No space left on device (os error 28)"
  | nameTooLong => "File name too long (os error 36)"
  | nulInName => "file name contained an unexpected NUL byte"
  | notUtf8 => "stream did not contain valid UTF-8"

end WordMachine
