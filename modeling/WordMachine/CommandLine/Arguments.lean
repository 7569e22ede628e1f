import WordMachine.CommandLine.Command
import WordMachine.Numeral

/-!
Reading the arguments of the command line. The first argument is a verb; then come one path and any
options of the verb, in any order, each option at most once. An option's value is the next argument,
or follows an equals sign, or follows the option's letter at once. After two dashes on their own
nothing is an option any more.
-/

set_option autoImplicit false

namespace WordMachine.CommandLine

inductive Flag where
  | config
  | memoryBytes
  | base
  | maxCycles
  | dump
  | json
  | output
  | help
deriving DecidableEq

namespace Flag

def name : Flag → Text
  | config => "config".toList
  | memoryBytes => "memory-bytes".toList
  | base => "base".toList
  | maxCycles => "max-cycles".toList
  | dump => "dump".toList
  | json => "json".toList
  | output => "output".toList
  | help => "help".toList

def letter? : Flag → Option Char
  | config => some 'c'
  | base => some 'b'
  | maxCycles => some 'm'
  | dump => some 'd'
  | output => some 'o'
  | help => some 'h'
  | memoryBytes => none
  | json => none

def isSwitch : Flag → Bool
  | json => true
  | help => true
  | _ => false

end Flag

inductive Verb where
  | run
  | debug
  | assemble
  | disassemble
deriving DecidableEq

namespace Verb

def all : List Verb := [run, debug, assemble, disassemble]

def name : Verb → Text
  | run => "run".toList
  | debug => "debug".toList
  | assemble => "asm".toList
  | disassemble => "disasm".toList

def flags : Verb → List Flag
  | run => [.config, .memoryBytes, .base, .maxCycles, .dump, .json, .help]
  | debug => [.config, .memoryBytes, .base, .help]
  | assemble => [.output, .help]
  | disassemble => [.help]

end Verb

structure Given where
  path? : Option Path
  config? : Option Path
  memoryBytes? : Option Nat
  base? : Option Radix
  maxCycles? : Option Nat
  dump? : Option Path
  output? : Option Path
  json : Bool

/-- Why the reading of the arguments ends before the last of them. -/
inductive Stop where
  | help
  | misuse
deriving DecidableEq

/-- A value that must be well formed and may be given only once. -/
def once {α : Type} (earlier? value? : Option α) : Except Stop (Option α) :=
  match earlier?, value? with
  | none, some value => .ok (some value)
  | _, _ => .error .misuse

def pathArgument? (text : Text) : Option Path := if text.isEmpty then none else some ⟨text⟩

def numberArgument? (text : Text) : Option Nat := Numeral.below? 0x10000000000000000 text

def baseArgument? (text : Text) : Option Radix := Radix.ofName? (String.ofList text)

namespace Given

def nothing : Given := ⟨none, none, none, none, none, none, none, false⟩

def addPath (given : Given) (text : Text) : Except Stop Given :=
  (once given.path? (pathArgument? text)).map fun path? => { given with path? }

def setValue (given : Given) (flag : Flag) (text : Text) : Except Stop Given :=
  match flag with
  | .config => (once given.config? (pathArgument? text)).map fun config? => { given with config? }
  | .memoryBytes =>
    (once given.memoryBytes? (numberArgument? text)).map fun memoryBytes? =>
      { given with memoryBytes? }
  | .base => (once given.base? (baseArgument? text)).map fun base? => { given with base? }
  | .maxCycles =>
    (once given.maxCycles? (numberArgument? text)).map fun maxCycles? => { given with maxCycles? }
  | .dump => (once given.dump? (pathArgument? text)).map fun dump? => { given with dump? }
  | .output => (once given.output? (pathArgument? text)).map fun output? => { given with output? }
  | .json => .error .misuse
  | .help => .error .misuse

def setSwitch (given : Given) (flag : Flag) : Except Stop Given :=
  match flag with
  | .help => .error .help
  | .json => if given.json then .error .misuse else .ok { given with json := true }
  | _ => .error .misuse

def settings (given : Given) : Settings := ⟨given.config?, given.memoryBytes?, given.base?⟩

def command (given : Given) (verb : Verb) : Except Stop Command :=
  match given.path? with
  | none => .error .misuse
  | some path =>
    .ok (match verb with
      | .run => .run ⟨path, given.settings, given.maxCycles?, given.dump?, given.json⟩
      | .debug => .debug path given.settings
      | .assemble => .assemble path given.output?
      | .disassemble => .disassemble path)

end Given

/-- The reading of a verb's arguments between two of them. -/
structure Reading where
  given : Given
  pending? : Option Flag
  pathsOnly : Bool

namespace Reading

def ofGiven (given : Given) : Reading := ⟨given, none, false⟩

/-- Takes an option that has been found, with the value attached to it if there is one. -/
def feedFlag (given : Given) (flag : Flag) (attached? : Option Text) : Except Stop Reading :=
  match flag.isSwitch, attached? with
  | true, none => (given.setSwitch flag).map ofGiven
  | true, some _ => .error .misuse
  | false, none => .ok ⟨given, some flag, false⟩
  | false, some text => (given.setValue flag text).map ofGiven

/-- Takes an option by its name; a value may follow an equals sign. -/
def feedName (verb : Verb) (given : Given) (text : Text) : Except Stop Reading :=
  let name := text.takeWhile (· != '=')
  let attached? := match text.dropWhile (· != '=') with
    | [] => none
    | _ :: value => some value
  match verb.flags.find? fun flag => flag.name == name with
  | some flag => feedFlag given flag attached?
  | none => .error .misuse

/-- Takes an option by its letter; a value may follow at once or after an equals sign. -/
def feedLetter (verb : Verb) (given : Given) (letter : Char) (rest : Text) :
    Except Stop Reading :=
  match verb.flags.find? fun flag => flag.letter? == some letter with
  | none => .error .misuse
  | some flag =>
    match flag.isSwitch, rest with
    | true, _ => (given.setSwitch flag).map ofGiven
    | false, [] => feedFlag given flag none
    | false, '=' :: value => feedFlag given flag (some value)
    | false, value => feedFlag given flag (some value)

/-- Takes the next argument. Nothing that looks like an option can be a value. -/
def feed (verb : Verb) (reading : Reading) (argument : Text) : Except Stop Reading :=
  let given := reading.given
  if reading.pathsOnly then
    (given.addPath argument).map fun given => { reading with given }
  else
    match reading.pending?, argument with
    | some _, '-' :: _ :: _ => .error .misuse
    | some flag, value => (given.setValue flag value).map ofGiven
    | none, ['-', '-'] => .ok ⟨given, none, true⟩
    | none, '-' :: '-' :: text => feedName verb given text
    | none, '-' :: letter :: rest => feedLetter verb given letter rest
    | none, text => (given.addPath text).map ofGiven

def finish (verb : Verb) (reading : Reading) : Except Stop Command :=
  match reading.pending? with
  | some _ => .error .misuse
  | none => reading.given.command verb

end Reading

def readVerb (verb : Verb) (arguments : List Text) : Except Stop Command := do
  let reading ← arguments.foldlM (Reading.feed verb) (.ofGiven .nothing)
  reading.finish verb

def readHelp : List Text → Except Stop Command
  | [] => .ok .help
  | [topic] =>
    if topic = "help".toList ∨ topic ∈ Verb.all.map Verb.name then .ok .help else .error .misuse
  | _ => .error .misuse

def readArguments : List Text → Except Stop Command
  | [] => .ok .welcome
  | [['-', '-']] => .ok .welcome
  | first :: rest =>
    match Verb.all.find? fun verb => verb.name == first with
    | some verb => readVerb verb rest
    | none =>
      if first = "help".toList then readHelp rest
      else if first = "--help".toList then .error .help
      else if first = "--version".toList then .ok .version
      else
        match first with
        | '-' :: 'h' :: _ => .error .help
        | '-' :: 'V' :: _ => .ok .version
        | _ => .error .misuse

end WordMachine.CommandLine
