import WordMachine.Json.Codec
import WordMachine.Radix

/-!
The configuration of a machine, kept as a JSON record of which every field may be missing.
-/

set_option autoImplicit false

namespace WordMachine

structure Configuration where
  /-- The size of the memory; it should be even and not zero. -/
  memoryBytes : Nat
  maxCycles : Option Nat
  base : Radix
deriving DecidableEq

namespace Configuration

def standard : Configuration := ⟨1024, none, .hexadecimal⟩

section

variable (codec : JsonCodec)

def bases : List (Text × Radix) := Radix.all.map fun base => (base.name.toList, base)

def fields : List (JsonField Configuration) :=
  [{ name := "memory_bytes".toList
     set? := fun value => (codec.size? value).map fun memoryBytes configuration =>
       { configuration with memoryBytes } },
   { name := "max_cycles".toList
     set? := fun value => (codec.optional? codec.size? value).map fun maxCycles configuration =>
       { configuration with maxCycles } },
   { name := "base".toList
     set? := fun value => (codec.choice? bases value).map fun base configuration =>
       { configuration with base } }]

def readWith? (text : Text) : Option Configuration :=
  (codec.read? text).bind (codec.record? standard (fields codec))

def printWith (configuration : Configuration) : Text :=
  codec.print <| codec.ofRecord
    [("memory_bytes".toList, codec.ofSize configuration.memoryBytes),
     ("max_cycles".toList, codec.ofOptional codec.ofSize configuration.maxCycles),
     ("base".toList, codec.ofChoice configuration.base.name.toList)]

end

def read? : Text → Option Configuration := readWith? .standard

def print : Configuration → Text := printWith .standard

end Configuration

end WordMachine
