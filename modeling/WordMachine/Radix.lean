import WordMachine.Word

/-!
The numeric bases in which words and addresses are shown. Decimal shows the signed value; the other
bases show all sixteen bits with leading zeros.
-/

set_option autoImplicit false

namespace WordMachine

inductive Radix where
  | binary
  | octal
  | decimal
  | hexadecimal
deriving DecidableEq, Inhabited

namespace Radix

def all : List Radix := [binary, octal, decimal, hexadecimal]

def base : Radix → Nat
  | binary => 2
  | octal => 8
  | decimal => 10
  | hexadecimal => 16

def width : Radix → Nat
  | binary => 16
  | octal => 6
  | decimal => 6
  | hexadecimal => 4

def name : Radix → String
  | binary => "bin"
  | octal => "oct"
  | decimal => "dec"
  | hexadecimal => "hex"

def ofName? (name : String) : Option Radix := all.find? fun radix => radix.name == name

end Radix

def Word.format (word : Word) (radix : Radix) : Text :=
  match radix with
  | .decimal => word.decimal
  | other => Numeral.padded other.base other.width word.toNat

/-- The word in the given base, flush right in a field that holds every word. -/
def Word.field (word : Word) (radix : Radix) : Text := (word.format radix).padLeft radix.width

end WordMachine
