import WordMachine.Proofs.Assembly.Disassembly
import WordMachine.Proofs.Console.Streams

/-! Consoles that talk to each other. What one console writes another one reads: a line gives the
word back, a byte the low half of it, in whatever order lines and bytes follow each other. -/

set_option autoImplicit false

namespace WordMachine

/-! ## ASCII -/

namespace Utf8

def IsAscii (text : Text) : Prop := ∀ char ∈ text, char.toNat < 0x80

private theorem toNat_toUInt8 {char : Char} (ascii : char.toNat < 0x80) :
    char.toUInt8.toNat = char.toNat := by
  rw [Char.toUInt8, UInt32.toNat_toUInt8]
  exact Nat.mod_eq_of_lt (Nat.lt_trans ascii (by decide))

private theorem feed_ascii {char : Char} (ascii : char.toNat < 0x80)
    (pieces : Array (Option Char)) :
    Decoder.feed ⟨pieces, none⟩ char.toUInt8 = ⟨pieces.push (some char), none⟩ := by
  have value := toNat_toUInt8 ascii
  have below : char.toUInt8 < 0x80 := by
    rw [UInt8.lt_iff_toNat_lt, value]
    exact ascii
  simp only [Decoder.feed, Decoder.start, if_pos below, value, Char.ofNat_toNat]

private theorem foldl_feed_ascii {text : Text} (ascii : IsAscii text)
    (pieces : Array (Option Char)) :
    (text.map Char.toUInt8).foldl Decoder.feed ⟨pieces, none⟩ =
      ⟨pieces ++ (text.map some).toArray, none⟩ := by
  induction text generalizing pieces with
  | nil => simp
  | cons char rest ih =>
    obtain ⟨first, others⟩ := List.forall_mem_cons.mp ascii
    simp [feed_ascii first, ih others]

/-- ASCII characters are bytes. -/
theorem decode?_ascii {text : Text} (ascii : IsAscii text) :
    decode? (text.map Char.toUInt8) = some text := by
  simp only [decode?, pieces, foldl_feed_ascii ascii, Array.toList_append, List.nil_append]
  exact mapM_of_forall₂ (List.forall₂_map_left_iff.mpr (List.forall₂_same.mpr fun _ _ => rfl))

end Utf8

/-! ## Decimal numbers -/

namespace Numeral

theorem mem_decimal {value : Int} {char : Char} (member : char ∈ decimal value) :
    char = '-' ∨ char.isDigit = true := by
  have digit {number : Nat} (member : char ∈ digits 10 number) : char.isDigit = true :=
    Nat.isDigit_of_mem_toDigits (by decide) (by decide) member
  rw [decimal] at member
  split at member
  · rcases List.mem_cons.mp member with sign | member
    · exact .inl sign
    · exact .inr (digit member)
  · exact .inr (digit member)

private theorem isAscii_decimal (value : Int) : Utf8.IsAscii (decimal value) := by
  intro char member
  rcases mem_decimal member with rfl | digit
  · decide
  · simp only [Char.isDigit, Bool.and_eq_true, decide_eq_true_eq, UInt32.le_iff_toNat_le,
      Char.toNat_val] at digit
    exact Nat.lt_of_le_of_lt digit.2 (by decide)

end Numeral

namespace Console

theorem writesInteger_decimal (value : Int) : WritesInteger value (Numeral.decimal value) := by
  have written := Assembly.Program.writesDigits_ten value.natAbs
  rw [Numeral.decimal]
  split
  next negative =>
    have same : value = -(value.natAbs : Int) := by omega
    have signed : Assembly.Literal.SignedDigits 10 (-(value.natAbs : Int))
        ('-' :: Numeral.digits 10 value.natAbs) := .minus written
    rw [← same] at signed
    exact .signed signed
  next natural =>
    have same : (value.natAbs : Int) = value := by omega
    have plain : WritesInteger (value.natAbs : Int) (Numeral.digits 10 value.natAbs) :=
      .plain written
    rwa [same] at plain

/-- The bytes of a line with the signed value of a word, its end left out. -/
def decimalBytes (word : Word) : List UInt8 := word.decimal.map Char.toUInt8

private theorem lineFeed_not_mem_decimalBytes (word : Word) : lineFeed ∉ decimalBytes word := by
  intro member
  obtain ⟨char, member, same⟩ := List.mem_map.mp member
  have value := Utf8.toNat_toUInt8 (Numeral.isAscii_decimal word.toInt char member)
  rw [same] at value
  obtain rfl : char = '\n' := Char.toNat_inj.mp value.symm
  rcases Numeral.mem_decimal member with minus | digit
  · cases minus
  · cases digit

private theorem number_decimalBytes (word : Word) :
    number (decimalBytes word ++ [lineFeed]) = .ok word := by
  refine number_eq_ok_iff.mpr ⟨word.toInt, ?_, word.ofInt_toInt.symm⟩
  have ascii : Utf8.IsAscii (word.decimal ++ ['\n']) :=
    List.forall_mem_append.mpr
      ⟨Numeral.isAscii_decimal word.toInt, List.forall_mem_singleton.mpr (by decide)⟩
  have decoded := Utf8.decode?_ascii ascii
  rw [List.map_append] at decoded
  have solid := (Assembly.Program.writesNumber_decimal word.toInt).solid
  have trimmed : Text.trim (word.decimal ++ ['\n']) = word.decimal := by
    rw [Text.trim_append_right (by simp [Text.Blank]; decide)]
    exact solid.trimmed.trim_eq
  refine .text decoded ?_ ?_
  · rw [trimmed]
    exact writesInteger_decimal word.toInt
  · have least := word.le_toInt
    have most := word.toInt_lt
    constructor
    · exact Int.le_trans (by decide) least
    · exact Int.lt_trans most (by decide)

/-! ## Transfers -/

/-- A word is sent as a line with its signed value, or as its low byte. -/
inductive Form where
  | line
  | byte

def Form.writing : Form → Command
  | line => .writeInt
  | byte => .writeChar

def Form.reading : Form → Command
  | line => .readInt
  | byte => .readChar

/-- A word that one program writes from a register and another one reads into a register, with what
the registers of the two programs hold before. -/
structure Transfer where
  form : Form
  word : Word
  source : Register
  sender : RegisterBank
  target : Register
  receiver : RegisterBank

namespace Transfer

def write (transfer : Transfer) : Request :=
  ⟨transfer.form.writing.word, transfer.source,
    transfer.sender.write transfer.source transfer.word⟩

def read (transfer : Transfer) : Request :=
  ⟨transfer.form.reading.word, transfer.target, transfer.receiver⟩

/-- The signed value that comes out: the one of the word, or its low byte. -/
def value (transfer : Transfer) : Int :=
  match transfer.form with
  | .line => transfer.word.toInt
  | .byte => transfer.word.toNat % 0x100

def bytes (transfer : Transfer) : List UInt8 :=
  match transfer.form with
  | .line => decimalBytes transfer.word ++ [lineFeed]
  | .byte => [transfer.word.toBytes.2]

end Transfer

/-- The reply stores the value that has been sent, and changes no other register. -/
structure Delivers (transfer : Transfer) (reply : Reply Console) : Prop where
  result : reply.result = .ok none
  stored : (reply.registers.read transfer.target).toInt = transfer.value
  frame : ∀ register, register ≠ transfer.target →
    reply.registers.read register = transfer.receiver.read register

/-- The replies to requests that are made one after another. -/
def replies (console : Console) : List Request → List (Reply Console)
  | [] => []
  | request :: requests =>
    request.perform console :: (request.perform console).device.replies requests

namespace Transfer

private theorem perform_write (transfer : Transfer) (console : Console) :
    transfer.write.perform console =
      ⟨console.write transfer.bytes, transfer.write.registers, .ok none⟩ := by
  obtain ⟨form, word, source, sender, target, receiver⟩ := transfer
  cases form <;>
    simp [write, Request.perform, perform_word, Form.writing, run, bytes, decimalBytes,
      RegisterBank.read_write_same]

private theorem result_of_mem_writes {transfers : List Transfer} {console : Console}
    {reply : Reply Console} (member : reply ∈ console.replies (transfers.map write)) :
    reply.result = .ok none := by
  induction transfers generalizing console with
  | nil => cases member
  | cons transfer transfers ih =>
    rcases List.mem_cons.mp member with rfl | later
    · rw [perform_write]
    · exact ih later

private theorem output_after_writes (transfers : List Transfer) (console : Console) :
    (console.after (transfers.map write)).output = console.output ++ transfers.flatMap bytes := by
  induction transfers generalizing console with
  | nil => simp
  | cons transfer transfers ih =>
    simp [perform_write, ih, output_write]

/-- A read of the same form takes exactly the bytes of a transfer and stores its value. -/
theorem perform_read {transfer : Transfer} {console : Console} {rest : List UInt8}
    (input : console.unread = transfer.bytes ++ rest) :
    (transfer.read.perform console).device.unread = rest ∧
      Delivers transfer (transfer.read.perform console) := by
  obtain ⟨form, word, source, sender, target, receiver⟩ := transfer
  cases form with
  | line =>
    have split : splitLine console.unread = (decimalBytes word ++ [lineFeed], rest) := by
      rw [input]
      simp only [bytes, List.append_assoc, List.cons_append, List.nil_append]
      exact splitLine_ended (lineFeed_not_mem_decimalBytes word)
    have reply : (read ⟨.line, word, source, sender, target, receiver⟩).perform console =
        ⟨console.withInput rest, receiver.write target word, .ok none⟩ := by
      simp only [read, Request.perform, Form.reading, perform_word, run_readInt, split, takeNumber,
        number_decimalBytes]
      rfl
    rw [reply]
    refine ⟨rfl, rfl, ?_, fun register different => ?_⟩
    · simp only [RegisterBank.read_write_same, value]
    · exact receiver.read_write_other word different.symm
  | byte =>
    have first : console.unread = word.toBytes.2 :: rest := input
    have reply : (read ⟨.byte, word, source, sender, target, receiver⟩).perform console =
        ⟨console.withInput rest, receiver.write target (Word.ofNat word.toBytes.2.toNat),
          .ok none⟩ := by
      simp only [read, Request.perform, Form.reading, perform_word, run_readChar first]
    have low : word.toBytes.2.toNat = word.toNat % 0x100 := by
      simp [Word.toBytes, Word.toNat]
    rw [reply]
    refine ⟨rfl, rfl, ?_, fun register different => ?_⟩
    · simp only [RegisterBank.read_write_same, value, low]
      exact Word.toInt_ofNat_of_lt (by omega)
    · exact receiver.read_write_other _ different.symm

private theorem delivers_reads (transfers : List Transfer) {console : Console} {rest : List UInt8}
    (input : console.unread = transfers.flatMap bytes ++ rest) :
    (console.after (transfers.map read)).unread = rest ∧
      List.Forall₂ Delivers transfers (console.replies (transfers.map read)) := by
  induction transfers generalizing console with
  | nil => exact ⟨input, .nil⟩
  | cons transfer transfers ih =>
    rw [List.flatMap_cons, List.append_assoc] at input
    obtain ⟨left, delivers⟩ := perform_read input
    obtain ⟨unread, others⟩ := ih left
    exact ⟨unread, .cons delivers others⟩

end Transfer

/-- What a console writes, another one reads back in the same order: every read succeeds with the
value that has been sent, and nothing is left of the output. -/
theorem written_words_are_read_back (transfers : List Transfer) (input : List UInt8) :
    let writer := ofInput input
    let writes := transfers.map Transfer.write
    let reader := ofInput (writer.after writes).output
    let reads := transfers.map Transfer.read
    (∀ reply ∈ writer.replies writes, reply.result = .ok none) ∧
      List.Forall₂ Delivers transfers (reader.replies reads) ∧
      (reader.after reads).unread = [] := by
  intro writer writes reader reads
  have written : reader.unread = transfers.flatMap Transfer.bytes ++ [] := by
    rw [List.append_nil]
    exact Transfer.output_after_writes transfers writer
  obtain ⟨unread, delivers⟩ := Transfer.delivers_reads transfers written
  exact ⟨fun _ => Transfer.result_of_mem_writes, delivers, unread⟩

end Console

end WordMachine
