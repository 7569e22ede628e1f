import WordMachine.CommandLine.Arguments
import WordMachine.Configuration.File
import WordMachine.Debugger
import WordMachine.Emulation
import WordMachine.Machine.ReportJson

/-!
The command line: what each command prints and which files it leaves behind. A command that fails
says so on the error stream and keeps what it has printed before.
-/

set_option autoImplicit false

namespace WordMachine.CommandLine

structure Outcome where
  status : Nat
  output : List UInt8
  errors : String
  directory : Directory

def line (text : String) : List UInt8 := Utf8.encode (text ++ "\n")

/-- Where a command stands: what it has printed and the files. -/
structure Progress where
  output : List UInt8
  directory : Directory

namespace Progress

def say (progress : Progress) (text : String) : Progress :=
  { progress with output := progress.output ++ line text }

def done (progress : Progress) : Outcome := ⟨0, progress.output, "", progress.directory⟩

/-- A command that fails says why. One that has nothing to report just stops, with a status of its
own; what the system says of the stop is left out. -/
def fail (progress : Progress) (activity : String) (message? : Option String) : Outcome :=
  match message? with
  | some message => ⟨1, progress.output, s!"❌ {activity}: {message}\n", progress.directory⟩
  | none => ⟨101, progress.output, "", progress.directory⟩

end Progress

def versionText : String := "zedecim-emu 0.1.0"

def welcomeText : String :=
  "Zedecim Emulator v0.1.0\nA 16-bit virtual processor emulator\n\n"
    ++ "Use --help for available commands"

def helpText : String :=
  "Usage: zedecim-emu <command>\n\n"
    ++ "  run <program>     Run a program until it halts\n"
    ++ "                      -m, --max-cycles <n>  -d, --dump <file>  --json\n"
    ++ "  debug <program>   Interactive debugger\n"
    ++ "  asm <source>      Assemble source to a binary image\n"
    ++ "                      -o, --output <file>\n"
    ++ "  disasm <binary>   Disassemble a binary image to readable text\n\n"
    ++ "Machine settings of run and debug:\n"
    ++ "  -c, --config <file>  --memory-bytes <n>  -b, --base <bin|oct|dec|hex>"

def misuseText : String := "Unknown arguments. Use --help for available commands\n"

def shown (path : Path) : String := String.ofList path.text

def loadSettings (directory : Directory) (settings : Settings) :
    Except Configuration.LoadError Configuration :=
  match settings.file? with
  | none => .ok (settings.override Configuration.standard)
  | some path => (Configuration.load directory path).map settings.override

/-- The last word on a machine that has run: its state, whether it ran into the limit, and where its
memory went. -/
def describeRun (configuration : Configuration) (dump? : Option Path)
    (machine : Machine Console) (progress : Progress) : Progress :=
  let stated := ((progress.say "").say (machine.render configuration.base)).say
    s!"Cycles: {machine.cycles}"
  let limited := match machine.isRunning, configuration.maxCycles with
    | true, some limit => (stated.say "").say
        s!"⚠️  Reached max cycles limit ({limit}). Use --max-cycles to increase."
    | _, _ => stated
  match dump? with
  | some path => limited.say s!"✓ Memory dumped to {shown path}"
  | none => limited

def run (input : List UInt8) (directory : Directory) (request : RunRequest) : Outcome :=
  match loadSettings directory request.settings with
  | .error error => Progress.fail ⟨[], directory⟩ "Failed to load config" error.message
  | .ok loaded =>
    let configuration :=
      { loaded with maxCycles := request.maxCycles? <|> loaded.maxCycles }
    let (written, outcome) := Emulation.runFile configuration directory request.program
      request.dump? (Console.ofInput input)
    let progress : Progress := ⟨outcome.device.output, written⟩
    match outcome.result with
    | .error error => progress.fail "Run failed" error.message?
    | .ok machine =>
      if request.json then (progress.say (String.ofList machine.report.toJson.pretty)).done
      else (describeRun configuration request.dump? machine progress).done

/-- Prepares a debugger. There is no terminal for it to be shown on. -/
def debug (directory : Directory) (program : Path) (settings : Settings) : Outcome :=
  match loadSettings directory settings with
  | .error error => Progress.fail ⟨[], directory⟩ "Failed to load config" error.message
  | .ok configuration =>
    let progress := Progress.say ⟨[], directory⟩ s!"🔍 Loading: {shown program}"
    match Emulation.loadProgram directory program with
    | .error error => progress.fail "Failed to load program" error.message?
    | .ok bytes =>
      match Debugger.ofProgram configuration bytes with
      | .error error => progress.fail "Failed to load program" error.message
      | .ok _ => progress.fail "Debugger error" IoError.noTerminal.message

def assemble (directory : Directory) (source : Path) (output? : Option Path) : Outcome :=
  let target := outputPath source output?
  let progress := Progress.say ⟨[], directory⟩ s!"📝 Assembling: {shown source} → {shown target}"
  match directory.readText source with
  | .error cause => progress.fail "Failed to read file" cause.message
  | .ok text =>
    match Assembly.assemble text with
    | .error error => progress.fail "Assembly error" error.message?
    | .ok words =>
      let counted := progress.say s!"✓ Assembled {words.length} words"
      match directory.writeImage target words with
      | .error error => counted.fail "Failed to save image" error.message
      | .ok written => { counted.say s!"✓ Saved to {shown target}" with directory := written }.done

def disassemble (directory : Directory) (image : Path) : Outcome :=
  let progress := (Progress.say ⟨[], directory⟩ s!"📖 Disassembling: {shown image}").say ""
  match directory.readImage image with
  | .error error => progress.fail "Failed to load image" error.message
  | .ok bytes => (progress.say (String.ofList (Listing.render (Image.toWords bytes)))).done

def execute (input : List UInt8) (directory : Directory) : Command → Outcome
  | .welcome => (Progress.say ⟨[], directory⟩ welcomeText).done
  | .version => (Progress.say ⟨[], directory⟩ versionText).done
  | .help => (Progress.say ⟨[], directory⟩ helpText).done
  | .run request => run input directory request
  | .debug program settings => debug directory program settings
  | .assemble source output? => assemble directory source output?
  | .disassemble image => disassemble directory image

def perform (arguments : List Text) (input : List UInt8) (directory : Directory) : Outcome :=
  match readArguments arguments with
  | .ok command => execute input directory command
  | .error .help => execute input directory .help
  | .error .misuse => ⟨2, [], misuseText, directory⟩

end WordMachine.CommandLine
