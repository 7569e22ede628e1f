import WordMachine.Proofs.Assembly.Listing
import WordMachine.Proofs.Console.ReadBack
import WordMachine.Proofs.Wrapping

/-! The report of the memory. Every row has the address of its first word and then words in fields
of one width, so the words stand in columns, and the report is read back as the words of the
memory. -/

set_option autoImplicit false

namespace WordMachine

open Assembly.Program (WritesDigits writesDigits_toDigits writesNumber_decimal)
open Numeral (WritesHex writesHex_padded)

/-! ## Fields -/

/-- The number that stands in a field, without the blanks around it. -/
def Radix.numberIn? (radix : Radix) (field : Text) : Option Int :=
  match radix with
  | .decimal => Numeral.integer? 10 field.trim
  | other => (Numeral.natural? other.base field.trim).map Int.ofNat

namespace Word

/-- What a base shows of a word: decimal the signed value, the others the bit pattern. -/
def shown (word : Word) : Radix → Int
  | .decimal => word.toInt
  | _ => word.toNat

private theorem ofInt_shown (word : Word) (radix : Radix) : ofInt (word.shown radix) = word := by
  cases radix with
  | decimal => exact word.ofInt_toInt
  | binary | octal | hexadecimal =>
    apply toNat_injective
    have small := word.toNat_lt
    simp only [shown, toNat_ofInt]
    omega

theorem writesDigits_format (word : Word) {radix : Radix} (raw : radix ≠ .decimal) :
    WritesDigits radix.base word.toNat (word.format radix) := by
  have two : 2 ≤ radix.base := by cases radix <;> decide
  have sixteen : radix.base ≤ 16 := by cases radix <;> decide
  obtain ⟨digits, some, small, same, sum⟩ := (writesDigits_toDigits two sixteen word.toNat).zeros
    (by omega) (radix.width - (Nat.toDigits radix.base word.toNat).length)
  have format : word.format radix = Numeral.padded radix.base radix.width word.toNat := by
    cases radix with
    | decimal => exact absurd rfl raw
    | binary | octal | hexadecimal => rfl
  exact ⟨digits, some, small, by rw [format, Numeral.padded_eq, Text.lower_upper, same], sum⟩

theorem solid_format (word : Word) (radix : Radix) : Text.Solid (word.format radix) := by
  by_cases raw : radix = .decimal
  · subst raw
    exact (writesNumber_decimal word.toInt).solid
  · have sixteen : radix.base ≤ 16 := by cases radix <;> decide
    exact (word.writesDigits_format raw).solid sixteen

/-- A word in any base is read back, with any blanks before it. -/
theorem numberIn?_format (word : Word) (radix : Radix) {blanks : Text} (blank : Text.Blank blanks) :
    radix.numberIn? (blanks ++ word.format radix) = some (word.shown radix) := by
  have trimmed : Text.trim (blanks ++ word.format radix) = word.format radix := by
    rw [Text.trim_append_left blank, (word.solid_format radix).trimmed.trim_eq]
  by_cases raw : radix = .decimal
  · subst raw
    simp only [Radix.numberIn?, trimmed]
    exact Console.integer?_eq_some_iff.mpr (Console.writesInteger_decimal word.toInt)
  · have sixteen : radix.base ≤ 16 := by cases radix <;> decide
    have read := (word.writesDigits_format raw).natural? sixteen
    cases radix with
    | decimal => exact absurd rfl raw
    | binary | octal | hexadecimal =>
      simp only [Radix.numberIn?, trimmed, read, Option.map_some]
      rfl

theorem length_format_of_ne_decimal (word : Word) {radix : Radix} (raw : radix ≠ .decimal) :
    (word.format radix).length = radix.width := by
  have short (base width : Nat) (positive : 0 < width) (bound : 0x10000 ≤ base ^ width) :
      (Numeral.padded base width word.toNat).length = width := by
    have fits := Nat.toDigits_length base word.toNat width positive
      (Nat.lt_of_lt_of_le word.toNat_lt bound)
    simp only [Numeral.padded, List.length_leftpad, Numeral.upperDigits, List.length_map,
      Numeral.digits]
    omega
  cases radix with
  | decimal => exact absurd rfl raw
  | binary => exact short 2 16 (by decide) (by decide)
  | octal => exact short 8 6 (by decide) (by decide)
  | hexadecimal => exact short 16 4 (by decide) (by decide)

theorem length_format_le (word : Word) (radix : Radix) :
    (word.format radix).length ≤ radix.width := by
  by_cases raw : radix = .decimal
  · subst raw
    have least := word.le_toInt
    have most := word.toInt_lt
    have small : word.toInt.natAbs < 10 ^ 5 := by omega
    have digits := Nat.toDigits_length 10 word.toInt.natAbs 5 (by decide) small
    simp only [format, decimal, Numeral.decimal, Numeral.digits, Radix.width]
    split
    next => exact Nat.succ_le_succ digits
    next => exact Nat.le_succ_of_le digits
  · exact (word.length_format_of_ne_decimal raw).le

private theorem length_field (word : Word) (radix : Radix) :
    (word.field radix).length = radix.width := by
  rw [field, Text.length_padLeft]
  exact Nat.max_eq_left (word.length_format_le radix)

/-- A field is read back, also with the blank before it. -/
theorem numberIn?_field (word : Word) (radix : Radix) :
    radix.numberIn? (word.field radix) = some (word.shown radix) ∧
      radix.numberIn? (' ' :: word.field radix) = some (word.shown radix) := by
  have blank : Text.Blank (List.replicate (radix.width - (word.format radix).length) ' ') := by
    intro char member
    rw [List.eq_of_mem_replicate member]
    rfl
  have more : Text.Blank (' ' :: List.replicate (radix.width - (word.format radix).length) ' ') :=
    List.forall_mem_cons.mpr ⟨rfl, blank⟩
  have whole := word.numberIn?_format radix more
  exact ⟨word.numberIn?_format radix blank, whole⟩

end Word

/-! ## Rows -/

namespace Memory

private theorem rowWords_eq (memory : Memory) (row : Nat) :
    memory.rowWords row = (memory.cells.toList.drop (row * 8)).take 8 := by
  simp [rowWords, rowAddress, rowWidth, List.extract_eq_take_drop]

theorem getElem?_rowWords (memory : Memory) (row : Nat) {position : Nat} (inside : position < 8) :
    (memory.rowWords row)[position]? = memory.cells[row * 8 + position]? := by
  simp [rowWords_eq, List.getElem?_take_of_lt inside, List.getElem?_drop]

theorem length_rowWords (memory : Memory) (row : Nat) :
    (memory.rowWords row).length = min 8 (memory.capacity - row * 8) := by
  simp [rowWords_eq, capacity]

private theorem rowWords_ne_nil {memory : Memory} {row : Nat} (listed : row < memory.rowCount) :
    memory.rowWords row ≠ [] := by
  apply List.ne_nil_of_length_pos
  rw [rowCount, rowWidth] at listed
  rw [length_rowWords]
  omega

/-- The rows hold the words of the memory in order. -/
theorem flatMap_rowWords (memory : Memory) :
    (List.range memory.rowCount).flatMap memory.rowWords = memory.cells.toList := by
  have chunks (count : Nat) :
      (List.range count).flatMap memory.rowWords = memory.cells.toList.take (count * 8) := by
    induction count with
    | zero => simp
    | succ count ih =>
      rw [List.range_succ, List.flatMap_append, ih, Nat.succ_mul, List.take_add,
        List.flatMap_singleton, rowWords_eq]
  rw [chunks, List.take_of_length_le]
  simp only [Array.length_toList, rowCount, rowWidth, capacity]
  omega

/-- The words of a row in fields, each with a blank before it. -/
def fields (radix : Radix) (words : List Word) : Text :=
  words.flatMap fun word => ' ' :: word.field radix

private theorem joinWith_fields (radix : Radix) {words : List Word} (some : words ≠ []) :
    ' ' :: Text.joinWith [' '] (words.map fun word => word.field radix) = fields radix words := by
  induction words with
  | nil => exact absurd rfl some
  | cons word rest ih =>
    cases rest with
    | nil => simp [Text.joinWith, fields]
    | cons second rest =>
      have others := ih (List.cons_ne_nil _ _)
      simp only [Text.joinWith, List.map_cons, List.intercalate_cons_cons] at others ⊢
      simp [fields, others]

theorem rowText_eq {memory : Memory} {row : Nat} (radix : Radix) (listed : row < memory.rowCount) :
    memory.rowText radix row =
      Numeral.hex4 (row * 8) ++ ':' :: fields radix (memory.rowWords row) := by
  have joined := joinWith_fields radix (rowWords_ne_nil listed)
  simp only [rowText, rowAddress, rowWidth, List.append_assoc, List.cons_append, List.nil_append,
    joined]

/-! ## Reading back -/

/-- The words in a row: after the colon stands one field after another. -/
def rowWords? (radix : Radix) (line : Text) : Option (List Word) :=
  (Text.cut (radix.width + 1) (Listing.withoutAddress line)).mapM fun field =>
    (radix.numberIn? field).map Word.ofInt

def reportWords? (radix : Radix) (report : Text) : Option (List Word) :=
  (report.lines.mapM (rowWords? radix)).map List.flatten

/-- The field at a place in a row, where the first one begins at `start`. -/
def fieldAt (radix : Radix) (start position : Nat) (line : Text) : Text :=
  (line.drop (start + position * (radix.width + 1))).take radix.width

/-- The line begins with the address of the row and holds nothing but its words, in fields at equal
distances. -/
structure ShowsRow (memory : Memory) (radix : Radix) (row : Nat) (place line : Text) : Prop where
  address : WritesHex 4 (row * 8) place
  begins : place ++ [':', ' '] <+: line
  length : line.length =
    place.length + 1 + min 8 (memory.capacity - row * 8) * (radix.width + 1)
  field : ∀ position < 8, ∀ word, memory.cells[row * 8 + position]? = some word →
    (fieldAt radix (place.length + 2) position line).length = radix.width ∧
      radix.numberIn? (fieldAt radix (place.length + 2) position line) = some (word.shown radix)

private theorem length_fields (radix : Radix) (words : List Word) :
    (fields radix words).length = words.length * (radix.width + 1) := by
  induction words with
  | nil => simp [fields]
  | cons word rest ih =>
    simp only [fields, List.flatMap_cons, List.length_append, List.length_cons,
      Word.length_field] at ih ⊢
    rw [ih]
    ring

private theorem drop_fields (radix : Radix) (words : List Word) (position : Nat) :
    (fields radix words).drop (position * (radix.width + 1)) =
      fields radix (words.drop position) := by
  induction position generalizing words with
  | zero => simp
  | succ position ih =>
    cases words with
    | nil => simp [fields]
    | cons word rest =>
      have width : (' ' :: word.field radix).length = radix.width + 1 := by
        rw [List.length_cons, Word.length_field]
      have split : fields radix (word :: rest) = (' ' :: word.field radix) ++ fields radix rest :=
        rfl
      rw [Nat.succ_mul, Nat.add_comm, ← List.drop_drop, split, ← width, List.drop_left, width, ih,
        List.drop_succ_cons]

private theorem cut_fields (radix : Radix) {words : List Word} (some : words ≠ []) :
    Text.cut (radix.width + 1) (fields radix words) =
      words.map fun word => ' ' :: word.field radix := by
  induction words with
  | nil => exact absurd rfl some
  | cons word rest ih =>
    have width : (' ' :: word.field radix).length = radix.width + 1 := by
      rw [List.length_cons, Word.length_field]
    cases rest with
    | nil =>
      have single : fields radix [word] = ' ' :: word.field radix := List.append_nil _
      rw [single, Text.cut_of_length_le (Nat.succ_pos _) width.le]
      rfl
    | cons second rest =>
      have more : fields radix (second :: rest) ≠ [] := List.cons_ne_nil _ _
      have split : fields radix (word :: second :: rest) =
          (' ' :: word.field radix) ++ fields radix (second :: rest) := rfl
      rw [split, Text.cut_append width (Nat.succ_pos _) more, ih (List.cons_ne_nil _ _)]
      rfl

private theorem not_mem_fields {mark : Char} (foreign : mark ≠ ' ')
    (divides : Text.isSolid mark = false) (radix : Radix) (words : List Word) :
    mark ∉ fields radix words := by
  intro member
  obtain ⟨word, -, inside⟩ := List.mem_flatMap.mp member
  rw [Word.field, Text.padLeft, List.leftpad, ← List.cons_append, ← List.replicate_succ] at inside
  rcases List.mem_append.mp inside with blanks | digits
  · exact foreign (List.eq_of_mem_replicate blanks)
  · exact (word.solid_format radix).not_mem divides digits

private theorem line_rowText {memory : Memory} {row : Nat} (radix : Radix)
    (listed : row < memory.rowCount) :
    Text.Line (memory.rowText radix row) := by
  have free {mark : Char} (foreign : mark ≠ ' ') (divides : Text.isSolid mark = false)
      (other : mark ≠ ':') (digit : Numeral.isHexDigit mark = false) :
      mark ∉ memory.rowText radix row := by
    rw [rowText_eq radix listed, List.mem_append, List.mem_cons, not_or, not_or]
    exact ⟨(writesHex_padded 4 (row * 8)).not_mem digit, other,
      not_mem_fields foreign divides radix _⟩
  have feed : '\n' ∉ memory.rowText radix row := free (by decide) rfl (by decide) rfl
  have carriage : '\r' ∉ memory.rowText radix row := free (by decide) rfl (by decide) rfl
  exact ⟨feed, fun ends => carriage (List.mem_of_getLast? ends)⟩

/-- The lines of the report are the rows. -/
theorem lines_render (memory : Memory) (radix : Radix) :
    (memory.render radix).lines = (List.range memory.rowCount).map (memory.rowText radix) := by
  have each : ∀ text ∈ (List.range memory.rowCount).map (memory.rowText radix), Text.Line text := by
    intro text member
    obtain ⟨row, listed, rfl⟩ := List.mem_map.mp member
    exact line_rowText radix (List.mem_range.mp listed)
  cases count : memory.rowCount with
  | zero =>
    rw [render, count]
    rfl
  | succ last =>
    have ends : ((List.range memory.rowCount).map (memory.rowText radix)).getLast? =
        some (memory.rowText radix last) := by
      rw [count, List.range_succ, List.map_append, List.map_singleton, List.getLast?_concat]
    have filled : memory.rowText radix last ≠ [] := by
      rw [rowText_eq radix (count ▸ Nat.lt_succ_self last)]
      exact List.append_ne_nil_of_right_ne_nil _ (List.cons_ne_nil _ _)
    rw [render, Text.lines_joinWith each ends filled, count]

private theorem withoutAddress_rowText {memory : Memory} {row : Nat} (radix : Radix)
    (listed : row < memory.rowCount) :
    Listing.withoutAddress (memory.rowText radix row) = fields radix (memory.rowWords row) := by
  have plain : ':' ∉ Numeral.hex4 (row * 8) := (writesHex_padded 4 (row * 8)).not_mem rfl
  rw [rowText_eq radix listed, Listing.withoutAddress_append plain]

private theorem rowWords?_rowText {memory : Memory} {row : Nat} (radix : Radix)
    (listed : row < memory.rowCount) :
    rowWords? radix (memory.rowText radix row) = some (memory.rowWords row) := by
  have read : ∀ word ∈ memory.rowWords row,
      (radix.numberIn? (' ' :: word.field radix)).map Word.ofInt = some word := by
    intro word _
    rw [(word.numberIn?_field radix).2, Option.map_some, word.ofInt_shown]
  rw [rowWords?, withoutAddress_rowText radix listed, cut_fields radix (rowWords_ne_nil listed),
    List.mapM_map]
  exact (mapM_eq_some_map read).trans (congrArg some (List.map_id _))

private theorem showsRow_rowText {memory : Memory} {row : Nat} (radix : Radix)
    (listed : row < memory.rowCount) :
    memory.ShowsRow radix row (Numeral.hex4 (row * 8)) (memory.rowText radix row) := by
  have shape := rowText_eq radix listed
  refine ⟨writesHex_padded 4 (row * 8), List.prefix_append _ _, ?_, ?_⟩
  · rw [shape, List.length_append, List.length_cons, length_fields, length_rowWords]
    omega
  · intro position inside word found
    have same : fieldAt radix ((Numeral.hex4 (row * 8)).length + 2) position
        (memory.rowText radix row) = word.field radix := by
      rw [← getElem?_rowWords memory row inside] at found
      have rest : (memory.rowWords row).drop position =
          word :: (memory.rowWords row).drop (position + 1) := by
        obtain ⟨given, rfl⟩ := List.getElem?_eq_some_iff.mp found
        exact List.drop_eq_getElem_cons given
      have place : (Numeral.hex4 (row * 8)).length + 2 + position * (radix.width + 1) =
          (Numeral.hex4 (row * 8)).length + (1 + (position * (radix.width + 1) + 1)) := by
        omega
      rw [fieldAt, shape, place, ← List.drop_drop, List.drop_left, ← List.drop_drop, List.drop_one,
        List.tail_cons, ← List.drop_drop, drop_fields, rest]
      exact List.take_left' (word.length_field radix)
    rw [same]
    exact ⟨word.length_field radix, (word.numberIn?_field radix).1⟩

/-- The report has a row for every eight words. Each row has its address and its words in fields of
one width, and what stands in the fields is the memory. -/
theorem reports_lose_nothing (memory : Memory) (radix : Radix) :
    (memory.render radix).lines.length = memory.capacity ⌈/⌉ 8 ∧
    (∀ row line, (memory.render radix).lines[row]? = some line →
      ∃ place, memory.ShowsRow radix row place line) ∧
    reportWords? radix (memory.render radix) = some memory.cells.toList := by
  have lines := memory.lines_render radix
  refine ⟨?_, ?_, ?_⟩
  · rw [lines, List.length_map, List.length_range, Nat.ceilDiv_eq_add_pred_div]
    rfl
  · intro row line found
    rw [lines, List.getElem?_map] at found
    obtain ⟨index, listed, rfl⟩ := Option.map_eq_some_iff.mp found
    obtain ⟨inside, same⟩ := List.getElem?_eq_some_iff.mp listed
    rw [List.length_range] at inside
    rw [List.getElem_range] at same
    subst same
    exact ⟨_, showsRow_rowText radix inside⟩
  · have read : ∀ row ∈ List.range memory.rowCount,
        rowWords? radix (memory.rowText radix row) = some (memory.rowWords row) :=
      fun row member => rowWords?_rowText radix (List.mem_range.mp member)
    have rows : (List.range memory.rowCount).mapM (rowWords? radix ∘ memory.rowText radix) =
        some ((List.range memory.rowCount).map memory.rowWords) := mapM_eq_some_map read
    rw [reportWords?, lines, List.mapM_map, rows, Option.map_some, ← flatMap_rowWords,
      List.flatMap_def]

end Memory

end WordMachine
