import WordMachine.Proofs.Assembly.Literal
import WordMachine.Proofs.Machine.Input

/-! Requests to a console, one after another. Whatever is asked for and whether or not it fails, the
input is taken from its front without a gap, and the output grows at its end. A request changes no
register but the one that it names, and none when it fails. -/

set_option autoImplicit false

namespace WordMachine

theorem Word.toInt_ofNat_of_lt {value : Nat} (small : value < 0x8000) :
    (ofNat value).toInt = value := by
  rw [toInt, ofNat, BitVec.toInt_ofNat']
  exact Int.bmod_eq_of_le (by omega) (by omega)

namespace Console

open Assembly.Literal (Fits SignedDigits cases_of_integer? int64?_eq_some_iff)
open Assembly.Program (WritesDigits)

/-! ## Command words -/

def Command.word : Command → Word
  | writeInt => Word.ofNat 0
  | writeChar => Word.ofNat 1
  | readInt => Word.ofNat 2
  | readChar => Word.ofNat 3
  | exit => Word.ofNat 4

private theorem Command.ofWord?_word (command : Command) : ofWord? command.word = some command := by
  cases command <;> rfl

private theorem Command.ofWord?_eq_some_iff {word : Word} {command : Command} :
    ofWord? word = some command ↔ word = command.word := by
  constructor
  · intro known
    apply Word.toNat_injective
    unfold ofWord? at known
    split at known
    case h_6 => cases known
    all_goals
      cases known
      assumption
  · rintro rfl
    exact command.ofWord?_word

theorem perform_word (console : Console) (command : Command) (register : Register)
    (registers : RegisterBank) :
    perform command.word register registers console = console.run registers register command := by
  simp only [perform, command.ofWord?_word]

/-! ## Lines with a number -/

/-- Decimal digits with at most one sign before them. -/
inductive WritesInteger : Int → Text → Prop where
  | plain {value : Nat} {text : Text} : WritesDigits 10 value text → WritesInteger value text
  | signed {value : Int} {text : Text} : SignedDigits 10 value text → WritesInteger value text

theorem integer?_eq_some_iff {text : Text} {value : Int} :
    Numeral.integer? 10 text = some value ↔ WritesInteger value text := by
  constructor
  · intro read
    rcases cases_of_integer? read with ⟨number, written, rfl⟩ | signed
    · exact .plain written
    · exact .signed signed
  · intro written
    cases written with
    | @plain number text digits =>
      have read := digits.natural? (by decide)
      cases text with
      | nil => exact absurd rfl digits.ne_nil
      | cons first rest =>
        have alphanumeric := digits.isAlphanum (by decide) first List.mem_cons_self
        rw [Numeral.integer?_of_isAlphanum alphanumeric, read]
        rfl
    | signed signed =>
      cases signed with
      | plus digits | minus digits =>
        rw [Numeral.integer?, digits.natural? (by decide)]
        rfl

/-- The line is UTF-8, and between blanks it writes a number of at most 64 bits. -/
inductive HoldsNumber (line : List UInt8) (value : Int) : Prop where
  | text {text : Text} : Utf8.decode? line = some text → WritesInteger value text.trim →
      Fits value → HoldsNumber line value

theorem number_eq_ok_iff {line : List UInt8} {word : Word} :
    number line = .ok word ↔ ∃ value, HoldsNumber line value ∧ word = Word.ofInt value := by
  rw [number]
  constructor
  · intro read
    split at read
    next => cases read
    next text decoded =>
      split at read
      next value found =>
        cases read
        obtain ⟨written, fits⟩ := int64?_eq_some_iff.mp found
        exact ⟨value, .text decoded (integer?_eq_some_iff.mp written) fits, rfl⟩
      next => cases read
  · rintro ⟨value, ⟨decoded, written, fits⟩, rfl⟩
    have found := int64?_eq_some_iff.mpr ⟨integer?_eq_some_iff.mpr written, fits⟩
    simp only [decoded, found]

/-! ## Requests -/

/-- A command with the register that it names, and what the registers hold when it is given. -/
structure Request where
  command : Word
  register : Register
  registers : RegisterBank

def Request.perform (request : Request) (console : Console) : Reply Console :=
  Console.perform request.command request.register request.registers console

/-- The console after the requests. The program may change the registers between two of them. -/
def after (console : Console) (requests : List Request) : Console :=
  requests.foldl (fun reached request => (request.perform reached).device) console

@[simp] theorem after_nil (console : Console) : console.after [] = console := rfl

@[simp] theorem after_cons (console : Console) (request : Request) (requests : List Request) :
    console.after (request :: requests) = (request.perform console).device.after requests := rfl

@[simp] private theorem after_append (console : Console) (before later : List Request) :
    console.after (before ++ later) = (console.after before).after later := by
  simp [after]

/-- A byte has been taken from the input and stored, or -1 at its end. -/
inductive TakesByte (input rest : List UInt8) (stored : Word) : Prop where
  | byte {byte : UInt8} : input = byte :: rest → stored.toInt = byte.toNat →
      TakesByte input rest stored
  | ended : input = [] → rest = [] → stored.toInt = -1 → TakesByte input rest stored

/-- What a request for a number gives after it has taken a line. -/
inductive GivesNumber (line : List UInt8) (stored : Word) :
    Except PeripheralError (Option ExitCode) → Prop where
  | number {value : Int} : HoldsNumber line value → stored.toInt = value.bmod 0x10000 →
      GivesNumber line stored (.ok none)
  | refused {error : PeripheralError} : (∀ value, ¬HoldsNumber line value) →
      GivesNumber line stored (.error error)

/-- The reply to a request takes from the input, adds to the output and changes registers only as
the command allows. -/
structure Disciplined (console : Console) (request : Request) (reply : Reply Console) : Prop where
  unread : reply.device.unread <:+ console.unread
  output : console.output <+: reply.device.output
  readChar : request.command = Command.readChar.word → reply.result = .ok none ∧
    TakesByte console.unread reply.device.unread (reply.registers.read request.register)
  readInt : request.command = Command.readInt.word →
    TakesLine console.unread reply.device.unread ∧
      ∃ line, console.unread = line ++ reply.device.unread ∧
        GivesNumber line (reply.registers.read request.register) reply.result
  others : request.command ≠ Command.readChar.word → request.command ≠ Command.readInt.word →
    reply.device.unread = console.unread
  frame : ∀ register, register ≠ request.register →
    reply.registers.read register = request.registers.read register
  failed : ∀ error, reply.result = .error error → reply.registers = request.registers

section

variable (console : Console) (registers : RegisterBank) (register : Register)

private theorem output_run (command : Command) :
    console.output <+: (console.run registers register command).device.output := by
  cases command with
  | writeInt | writeChar =>
    simp only [run, output_write]
    exact List.prefix_append _ _
  | readInt =>
    rw [run_readInt]
    exact List.prefix_rfl
  | readChar =>
    cases input : console.unread with
    | nil => simp [run, input]
    | cons byte rest =>
      rw [run_readChar input]
      exact List.prefix_rfl
  | exit =>
    simp only [run]
    split <;> exact List.prefix_rfl

private theorem read_run_other (command : Command) {other : Register}
    (different : other ≠ register) :
    (console.run registers register command).registers.read other = registers.read other := by
  have kept (word : Word) : (registers.write register word).read other = registers.read other :=
    registers.read_write_other word different.symm
  cases command with
  | writeInt | writeChar => rfl
  | readInt =>
    simp only [run_readInt, takeNumber]
    split
    next word _ => exact kept word
    next => rfl
  | readChar =>
    simp only [run]
    split <;> exact kept _
  | exit =>
    simp only [run]
    split <;> rfl

private theorem takesByte_run :
    (console.run registers register .readChar).result = .ok none ∧
      TakesByte console.unread (console.run registers register .readChar).device.unread
        ((console.run registers register .readChar).registers.read register) := by
  cases input : console.unread with
  | nil =>
    simp only [run, input, RegisterBank.read_write_same]
    exact ⟨trivial, .ended rfl rfl (by decide)⟩
  | cons byte rest =>
    rw [run_readChar input]
    refine ⟨rfl, .byte rfl ?_⟩
    rw [RegisterBank.read_write_same]
    exact Word.toInt_ofNat_of_lt (Nat.lt_trans byte.toNat_lt (by decide))

private theorem givesNumber_run :
    ∃ line, console.unread =
        line ++ (console.run registers register .readInt).device.unread ∧
      GivesNumber line ((console.run registers register .readInt).registers.read register)
        (console.run registers register .readInt).result := by
  refine ⟨(splitLine console.unread).1, ?_, ?_⟩
  · rw [run_readInt]
    exact (splitLine_append console.unread).symm
  · simp only [run_readInt, takeNumber]
    cases read : number (splitLine console.unread).1 with
    | ok word =>
      obtain ⟨value, holds, rfl⟩ := number_eq_ok_iff.mp read
      refine .number holds ?_
      rw [RegisterBank.read_write_same, Word.toInt_ofInt]
    | error error =>
      refine .refused fun value holds => ?_
      cases read.symm.trans (number_eq_ok_iff.mpr ⟨value, holds, rfl⟩)

end

private theorem disciplined_perform (console : Console) (request : Request) :
    Disciplined console request (request.perform console) := by
  obtain ⟨command, register, registers⟩ := request
  refine ⟨unread_perform console command register registers, ?_, ?_, ?_, ?_, ?_,
    fun _ failed => (perform_of_error failed).1⟩
  · show console.output <+: (perform command register registers console).device.output
    unfold perform
    split
    next known _ => exact output_run console registers register known
    next => exact List.prefix_rfl
  · rintro rfl
    simp only [Request.perform, perform_word]
    exact takesByte_run console registers register
  · rintro rfl
    simp only [Request.perform, perform_word]
    refine ⟨?_, givesNumber_run console registers register⟩
    rw [run_readInt]
    exact takesLine_splitLine console.unread
  · intro noChar noInt
    apply unread_perform_of_silent
    rw [readsInput, Option.any_eq_false]
    intro known found
    obtain rfl : command = known.word := Command.ofWord?_eq_some_iff.mp found
    cases known with
    | readInt => exact absurd rfl noInt
    | readChar => exact absurd rfl noChar
    | writeInt | writeChar | exit => rfl
  · intro other different
    show (perform command register registers console).registers.read other = registers.read other
    unfold perform
    split
    next known _ => exact read_run_other console registers register known different
    next => rfl

private theorem unread_after (console : Console) (requests : List Request) :
    (console.after requests).unread <:+ console.unread := by
  induction requests generalizing console with
  | nil => exact List.suffix_rfl
  | cons request requests ih => exact (ih _).trans (disciplined_perform console request).unread

private theorem output_after (console : Console) (requests : List Request) :
    console.output <+: (console.after requests).output := by
  induction requests generalizing console with
  | nil => exact List.prefix_rfl
  | cons request requests ih => exact (disciplined_perform console request).output.trans (ih _)

/-- After any requests, what is left unread is the end of the input and the output has grown at its
end, and the next request keeps to the same rules. -/
theorem streams_are_disciplined (console : Console) (requests : List Request) (next : Request) :
    (console.after requests).unread <:+ console.unread ∧
      console.output <+: (console.after requests).output ∧
      console.after (requests ++ [next]) = (next.perform (console.after requests)).device ∧
      Disciplined (console.after requests) next (next.perform (console.after requests)) :=
  ⟨unread_after console requests, output_after console requests, by simp,
    disciplined_perform _ next⟩

/-- A line that holds no number is gone all the same. -/
example : ((ofInput [0x78, 0x0A, 0x41]).after
    [⟨Command.readInt.word, Register.first, RegisterBank.zeroed⟩]).unread = [0x41] := by decide

end Console

end WordMachine
