import WordMachine.Proofs.Assembly.Disassembly

/-! Listings. Each row has the address of a word, the line that assembles to the word, and the word
as a comment. Without the addresses a listing is a text that assembles to the words listed. -/

set_option autoImplicit false

namespace WordMachine

/-! ## Hexadecimal numbers -/

namespace Numeral

/-- A hexadecimal digit that is no letter in lower case. -/
def isHexDigit (char : Char) : Bool := char.isDigit || (decide ('A' ≤ char) && decide (char ≤ 'F'))

/-- The digits of a number, with zeros in front up to a width and none beyond it. -/
structure WritesHex (width value : Nat) (text : Text) : Prop where
  digits : ∀ char ∈ text, isHexDigit char = true
  read : natural? 16 text = some value
  length : text.length = max width (Nat.toDigits 16 value).length

open Assembly.Program (WritesDigits writesDigits_toDigits)

private theorem WritesDigits.isHexDigit_of_mem_upper {value : Nat} {text : Text}
    (written : WritesDigits 16 value text) : ∀ char ∈ text.upper, isHexDigit char = true := by
  have known : ∀ digit : Fin 16, isHexDigit (Nat.digitChar digit).toUpper = true := by decide
  obtain ⟨digits, -, small, same, -⟩ := written
  intro char member
  rw [← Text.upper_lower, same] at member
  obtain ⟨lower, written, rfl⟩ := List.mem_map.mp member
  obtain ⟨digit, listed, rfl⟩ := List.mem_map.mp written
  exact known ⟨digit, small digit listed⟩

theorem padded_eq (base width value : Nat) : padded base width value =
    Text.upper (List.replicate (width - (Nat.toDigits base value).length) '0' ++
      Nat.toDigits base value) := by
  rw [padded, upperDigits, List.leftpad, List.length_map, Text.upper, List.map_append,
    List.map_replicate]
  rfl

theorem writesHex_padded (width value : Nat) : WritesHex width value (padded 16 width value) := by
  have written := (writesDigits_toDigits (by decide) (Nat.le_refl 16) value).zeros (by decide)
    (width - (Nat.toDigits 16 value).length)
  have upper : WritesDigits 16 value (padded 16 width value) := by
    obtain ⟨digits, some, small, same, sum⟩ := written
    exact ⟨digits, some, small, by rw [padded_eq, Text.lower_upper, same], sum⟩
  refine ⟨?_, upper.natural? (Nat.le_refl 16), ?_⟩
  · rw [padded_eq]
    exact WritesDigits.isHexDigit_of_mem_upper written
  · rw [padded, List.length_leftpad, upperDigits, List.length_map, digits]

theorem WritesHex.not_mem {width value : Nat} {text : Text} (written : WritesHex width value text)
    {mark : Char} (foreign : isHexDigit mark = false) : mark ∉ text := by
  intro member
  rw [written.digits mark member] at foreign
  cases foreign

end Numeral

namespace Listing

open Assembly (assemble)
open Assembly.Program
open Numeral (WritesHex)

/-! ## Rows -/

/-- A row without its end. -/
def rowText (address : Nat) (word : Word) : Text :=
  Numeral.hex4 address ++ ": ".toList ++ (line word).padRight 20 ++ " ; ".toList ++ word.hex

/-- The row begins with an address and a colon and ends with a word as a comment. -/
def Shows (address : Nat) (word : Word) (row : Text) : Prop :=
  ∃ place text digits, row = place ++ ':' :: (text ++ "; ".toList ++ digits) ∧
    WritesHex 4 address place ∧ WritesHex 4 word.toNat digits ∧ digits.length = 4

/-- The row after its first colon. -/
def withoutAddress (row : Text) : Text := (row.dropWhile (· != ':')).tail

/-- What stands between the colon of a row and the word at its end. -/
def content (word : Word) : Text := ' ' :: ((line word).padRight 20 ++ [' '])

private theorem rowText_eq (address : Nat) (word : Word) : rowText address word =
    Numeral.hex4 address ++ ':' :: (content word ++ ';' :: ' ' :: word.hex) := by
  simp [rowText, content]

theorem withoutAddress_append {place rest : Text} (plain : ':' ∉ place) :
    withoutAddress (place ++ ':' :: rest) = rest := by
  rw [withoutAddress,
    List.dropWhile_append_of_pos (bne_of_not_mem plain)]
  rfl

private theorem length_hex (word : Word) : word.hex.length = 4 := by
  have short : (Nat.toDigits 16 word.toNat).length ≤ 4 :=
    Nat.toDigits_length 16 word.toNat 4 (by decide) word.toNat_lt
  rw [Word.hex, Numeral.hex4, (Numeral.writesHex_padded 4 word.toNat).length]
  exact Nat.max_eq_left short

private theorem shows_rowText (address : Nat) (word : Word) :
    Shows address word (rowText address word) := by
  refine ⟨Numeral.hex4 address, content word, word.hex, ?_, Numeral.writesHex_padded 4 address,
    Numeral.writesHex_padded 4 word.toNat, length_hex word⟩
  rw [rowText_eq, List.append_assoc]
  rfl

private theorem withoutAddress_rowText (address : Nat) (word : Word) :
    withoutAddress (rowText address word) = content word ++ ';' :: ' ' :: word.hex := by
  have plain : ':' ∉ Numeral.hex4 address := (Numeral.writesHex_padded 4 address).not_mem rfl
  rw [rowText_eq, withoutAddress_append plain]

/-! ## Text without addresses -/

private theorem writesLine_content {word : Word} {item : Item}
    (lists : Lists word (line word) item) :
    WritesLine ⟨none, some item⟩ (content word ++ ';' :: ' ' :: word.hex) := by
  have unbroken : '\n' ∉ ' ' :: word.hex := by
    rw [List.mem_cons, not_or]
    exact ⟨by decide, (Numeral.writesHex_padded 4 word.toNat).not_mem rfl⟩
  have blanks : Gap (List.replicate (20 - (line word).length) ' ' ++ [' ']) := by
    intro char member
    have space : char = ' ' := by
      rcases List.mem_append.mp member with filled | last
      · exact List.eq_of_mem_replicate filled
      · exact List.mem_singleton.mp last
    exact space ▸ ⟨rfl, by decide⟩
  have written : WritesLine ⟨none, some item⟩ _ :=
    .parts gap_space .nothing gap_nil (.item lists.written)
      blanks (.comment unbroken)
  simpa [content, Text.padRight, List.rightpad] using written

private theorem line_rowText (address : Nat) (word : Word) : Text.Line (rowText address word) := by
  have number : '\n' ∉ Numeral.hex4 address := (Numeral.writesHex_padded 4 address).not_mem rfl
  constructor
  · obtain ⟨item, lists⟩ := lists_line word
    rw [rowText_eq, List.mem_append, List.mem_cons, not_or, not_or]
    exact ⟨number, by decide, (writesLine_content lists).unbroken⟩
  · -- The last character is a digit of the word.
    intro ends
    have digits : word.hex ≠ [] := List.ne_nil_of_length_pos (by rw [length_hex]; decide)
    rw [rowText, List.getLast?_append_of_ne_nil _ digits] at ends
    exact (Numeral.writesHex_padded 4 word.toNat).not_mem rfl (List.mem_of_getLast? ends)

def headerLines : List Text := ["; Zedecim Disassembly".toList, "; -------------------".toList, []]

private theorem header_eq : header = headerLines.flatMap fun text => text ++ ['\n'] := by
  decide +kernel

private theorem line_header : ∀ text ∈ headerLines, Text.Line text := by
  intro text member
  simp only [headerLines, List.mem_cons, List.not_mem_nil, or_false] at member
  rcases member with rfl | rfl | rfl <;> exact ⟨by decide, by decide⟩

private theorem writesLine_of_comment {comment : Text} (written : WritesComment comment) :
    WritesLine ⟨none, none⟩ comment := by
  have parts : WritesLine ⟨none, none⟩ ([] ++ [] ++ [] ++ [] ++ [] ++ comment) :=
    .parts gap_nil .nothing gap_nil .nothing gap_nil written
  exact parts

private theorem writesLine_header : ∀ text ∈ headerLines, WritesLine ⟨none, none⟩ text := by
  intro text member
  apply writesLine_of_comment
  simp only [headerLines, List.mem_cons, List.not_mem_nil, or_false] at member
  rcases member with rfl | rfl | rfl
  · exact .comment (by decide)
  · exact .comment (by decide)
  · exact .nothing

private theorem writesLines_append {program : Assembly.Program} {before texts : List Text}
    (blank : ∀ text ∈ before, WritesLine ⟨none, none⟩ text) (written : WritesLines program texts) :
    WritesLines program (before ++ texts) := by
  induction before with
  | nil => exact written
  | cons first before ih =>
    have rest := ih fun text member => blank text (List.mem_cons_of_mem _ member)
    exact .blank (blank first List.mem_cons_self) rest

/-- The text after the header and the one after the last row hold nothing. -/
theorem writes_withoutAddresses {item : Word → Item}
    (lists : ∀ word, Lists word (line word) (item word)) (words : List Word) :
    Writes (words.map fun word => ⟨none, some (item word)⟩)
      (header ++ words.flatMap fun word => content word ++ ';' :: ' ' :: word.hex ++ ['\n']) := by
  refine ⟨headerLines ++ ((words.map fun word => content word ++ ';' :: ' ' :: word.hex) ++ [[]]),
    writesLines_append writesLine_header ?_, ?_⟩
  · induction words with
    | nil => exact .blank (writesLine_of_comment .nothing) .nil
    | cons word words ih => exact .line (writesLine_content (lists word)) ih
  · rw [← List.append_assoc, ← Text.flatMap_ended, List.flatMap_append, ← header_eq,
      List.flatMap_map]

/-- A listing is its header and one row for each word, in order. Each row begins with the address
and ends with the word. Without the addresses the listing assembles to the words again. -/
theorem listings_are_faithful (words : List Word) :
    ∃ rows : List Text, rows.length = words.length ∧
      render words = header ++ rows.flatMap (fun row => row ++ ['\n']) ∧
      (render words).lines = header.lines ++ rows ∧
      (∀ address word, words[address]? = some word →
        ∃ row, rows[address]? = some row ∧ Shows address word row) ∧
      assemble (header ++ rows.flatMap fun row => withoutAddress row ++ ['\n']) = .ok words := by
  have rendered : render words = header ++
      (words.zipIdx.map fun entry => rowText entry.2 entry.1).flatMap fun row =>
        row ++ ['\n'] := by
    rw [List.flatMap_map]
    rfl
  refine ⟨_, ?_, rendered, ?_, ?_, ?_⟩
  · rw [List.length_map, List.length_zipIdx]
  · rw [rendered, header_eq, ← List.flatMap_append, Text.lines_flatMap_ended line_header]
    apply Text.lines_flatMap_ended
    intro text member
    rcases List.mem_append.mp member with above | row
    · exact line_header text above
    · obtain ⟨entry, -, rfl⟩ := List.mem_map.mp row
      exact line_rowText entry.2 entry.1
  · intro address word found
    refine ⟨rowText address word, ?_, shows_rowText address word⟩
    simp [found]
  · obtain ⟨item, lists⟩ := Classical.skolem.mp lists_line
    have text : (words.zipIdx.map fun entry => rowText entry.2 entry.1).flatMap
        (fun row => withoutAddress row ++ ['\n']) =
          words.flatMap fun word => content word ++ ';' :: ' ' :: word.hex ++ ['\n'] := by
      simp only [List.flatMap_map, withoutAddress_rowText]
      conv_rhs => rw [← List.zipIdx_map_fst 0 words, List.flatMap_map]
    rw [text, (assemble_succeeds (writes_withoutAddresses lists words)).eq_ok_iff]
    exact ⟨wellFormed_listing lists words, (wordsFrom_listing lists _ _ words).symm⟩

end Listing

end WordMachine
