import WordMachine.Json.Printer
import WordMachine.Proofs.Assembly.Disassembly
import WordMachine.Proofs.Json.Reading

/-! What is printed of a JSON value is one of the ways of writing it down, so it is read back as
the value. -/

set_option autoImplicit false

namespace WordMachine.Json

open Assembly.Program (WritesDigits writesDigits_toDigits writesDigits_ten)
open JsonValue (charText pieceText stringText unitEscape compactItems compactMembers)

/-! ## Strings -/

/-- A half of a surrogate pair is one. -/
def Sound : StringPiece → Prop
  | .char _ => True
  | .surrogate unit => StringPiece.isHigh unit = true ∨ StringPiece.isLow unit = true

private theorem writes_unitEscape {unit : Nat} (small : unit < 0x10000) {pieces : List StringPiece}
    {text : Text} (others : WritesString pieces text) :
    WritesString (StringPiece.ofUnit unit :: pieces) (unitEscape unit ++ text) := by
  have short : (Nat.toDigits 16 unit).length ≤ 4 :=
    Nat.toDigits_length 16 unit 4 (by decide) small
  have written := (writesDigits_toDigits (show 2 ≤ 16 by decide) (Nat.le_refl 16) unit).zeros
    (by decide) (4 - (Nat.toDigits 16 unit).length)
  have four : (List.replicate (4 - (Nat.toDigits 16 unit).length) '0' ++
      Nat.toDigits 16 unit).length = 4 := by
    rw [List.length_append, List.length_replicate]
    omega
  exact .unicode written four others

private theorem writes_charText (char : Char) {pieces : List StringPiece} {text : Text}
    (others : WritesString pieces text) :
    WritesString (.char char :: pieces) (charText char ++ text) := by
  have escaped {letter meant : Char} (known : (letter, meant) ∈ escapes) (same : char = meant) :
      WritesString (.char char :: pieces) (['\\', letter] ++ text) :=
    same ▸ .escape known others
  unfold charText
  split_ifs with quote backslash backspace formFeed lineFeed carriageReturn tab control
  · exact escaped (by simp [escapes]) quote
  · exact escaped (by simp [escapes]) backslash
  · exact escaped (by simp [escapes]) backspace
  · exact escaped (by simp [escapes]) formFeed
  · exact escaped (by simp [escapes]) lineFeed
  · exact escaped (by simp [escapes]) carriageReturn
  · exact escaped (by simp [escapes]) tab
  · have written := writes_unitEscape (Nat.lt_trans control (by decide)) others
    have same : StringPiece.ofUnit char.toNat = .char char := by
      rw [StringPiece.ofUnit, if_neg, Char.ofNat_toNat]
      simp only [StringPiece.isHigh, StringPiece.isLow, Bool.or_eq_true, Bool.and_eq_true,
        decide_eq_true_eq]
      omega
    rwa [same] at written
  · exact .plain (Nat.not_lt.mp control) quote backslash others

theorem writes_string {pieces : List StringPiece} (sound : ∀ piece ∈ pieces, Sound piece) :
    WritesString pieces (pieces.flatMap pieceText) := by
  induction pieces with
  | nil => exact .nil
  | cons piece rest ih =>
    obtain ⟨first, others⟩ := List.forall_mem_cons.mp sound
    cases piece with
    | char char => exact writes_charText char (ih others)
    | surrogate unit =>
      have same : StringPiece.ofUnit unit = .surrogate unit := by
        rw [StringPiece.ofUnit, if_pos]
        rw [Bool.or_eq_true]
        exact first
      have small : unit < 0x10000 := by
        simp only [Sound, StringPiece.isHigh, StringPiece.isLow, Bool.and_eq_true,
          decide_eq_true_eq] at first
        omega
      have written := writes_unitEscape small (ih others)
      rwa [same] at written

/-! ## Numbers -/

private theorem head?_toDigits {value : Nat} (positive : 0 < value) :
    (Nat.toDigits 10 value).head? ≠ some '0' := by
  have nonzero : ∀ digit : Fin 10, 0 < digit.val → Nat.digitChar digit ≠ '0' := by decide
  induction value using Nat.strongRecOn with
  | ind value ih =>
    by_cases single : value < 10
    · rw [Nat.toDigits_of_lt_base single]
      exact fun same => nonzero ⟨value, single⟩ positive (Option.some.inj same)
    · have quotient := ih (value / 10) (Nat.div_lt_self positive (by decide)) (by omega)
      rw [Nat.toDigits_of_base_le (by decide) (by omega),
        List.head?_append_of_ne_nil _ Nat.toDigits_ne_nil]
      exact quotient

theorem writesWhole_toDigits (value : Nat) : WritesWhole value (Nat.toDigits 10 value) := by
  refine ⟨writesDigits_ten value, fun zero => ?_⟩
  cases value with
  | zero => rfl
  | succ value => exact absurd zero (head?_toDigits (Nat.succ_pos _))

private theorem writes_decimal (value : Int) :
    WritesNumber (.integer value) (Numeral.decimal value) := by
  have written := writesWhole_toDigits value.natAbs
  rw [Numeral.decimal]
  split
  next negative =>
    have number := WritesNumber.negative written (by omega)
    rwa [show -(value.natAbs : Int) = value by omega] at number
  next natural =>
    have number := WritesNumber.natural written
    rwa [show (value.natAbs : Int) = value by omega] at number

/-! ## Values -/

/-- The value is one that can be written down: its numbers and strings are. -/
inductive Printable : JsonValue → Prop where
  | null : Printable .null
  | bool (value : Bool) : Printable (.bool value)
  | integer (value : Int) : Printable (.integer value)
  | decimal {literal : Text} : WritesNumber (.decimal literal) literal →
      Printable (.decimal literal)
  | string {pieces : List StringPiece} : (∀ piece ∈ pieces, Sound piece) →
      Printable (.string pieces)
  | array {items : List JsonValue} : (∀ item ∈ items, Printable item) → Printable (.array items)
  | object {members : List (List StringPiece × JsonValue)} :
      (∀ member ∈ members, ∀ piece ∈ member.1, Sound piece) →
      (∀ member ∈ members, Printable member.2) → Printable (.object members)

theorem blanks_nil : Blanks [] := nofun

theorem spaced_of_value {value : JsonValue} {text : Text} (written : Writes (.value value) text) :
    Writes (.spaced value) text := by
  have spaced := Writes.spaced blanks_nil written blanks_nil
  rwa [List.nil_append, List.append_nil] at spaced

private theorem writes_items {items : List JsonValue} (filled : items ≠ [])
    (each : ∀ item ∈ items, Writes (.value item) item.compact) :
    Writes (.items items) (Text.joinWith [','] (compactItems items)) := by
  induction items with
  | nil => exact absurd rfl filled
  | cons item rest ih =>
    obtain ⟨first, others⟩ := List.forall_mem_cons.mp each
    cases rest with
    | nil => exact .lastItem (spaced_of_value (by simpa [compactItems, Text.joinWith] using first))
    | cons second rest =>
      have later := ih (List.cons_ne_nil _ _) others
      have split : Text.joinWith [','] (compactItems (item :: second :: rest)) =
          item.compact ++ ',' :: Text.joinWith [','] (compactItems (second :: rest)) := by
        simp [compactItems, Text.joinWith, List.intercalate_cons_cons]
      rw [split]
      exact .items (spaced_of_value first) later

private theorem writes_member {key : List StringPiece} {value : JsonValue}
    (sound : ∀ piece ∈ key, Sound piece) (written : Writes (.value value) value.compact) :
    Writes (.member key value) (stringText key ++ ':' :: value.compact) := by
  have member := Writes.member blanks_nil (writes_string sound) blanks_nil (spaced_of_value written)
  simpa [stringText] using member

private theorem writes_members {members : List (List StringPiece × JsonValue)}
    (filled : members ≠ []) (sound : ∀ member ∈ members, ∀ piece ∈ member.1, Sound piece)
    (each : ∀ member ∈ members, Writes (.value member.2) member.2.compact) :
    Writes (.members members) (Text.joinWith [','] (compactMembers members)) := by
  induction members with
  | nil => exact absurd rfl filled
  | cons member rest ih =>
    obtain ⟨key, value⟩ := member
    obtain ⟨first, others⟩ := List.forall_mem_cons.mp each
    obtain ⟨firstSound, othersSound⟩ := List.forall_mem_cons.mp sound
    have written := writes_member firstSound first
    cases rest with
    | nil => exact .lastMember (by simpa [compactMembers, Text.joinWith] using written)
    | cons second rest =>
      have later := ih (List.cons_ne_nil _ _) othersSound others
      have split : Text.joinWith [','] (compactMembers ((key, value) :: second :: rest)) =
          (stringText key ++ ':' :: value.compact) ++
            ',' :: Text.joinWith [','] (compactMembers (second :: rest)) := by
        obtain ⟨secondKey, secondValue⟩ := second
        simp [compactMembers, Text.joinWith, List.intercalate_cons_cons]
      rw [split]
      exact .members written later

theorem writes_compact {value : JsonValue} (printable : Printable value) :
    Writes (.value value) value.compact := by
  induction printable with
  | null => exact .null
  | bool value =>
    cases value
    · exact .false
    · exact .true
  | integer value => exact .number (writes_decimal value)
  | decimal written => exact .number written
  | string sound => exact .string (writes_string sound)
  | @array items _ ih =>
    cases items with
    | nil => exact .emptyArray blanks_nil
    | cons item rest => exact .array (writes_items (List.cons_ne_nil _ _) ih)
  | @object members sound _ ih =>
    cases members with
    | nil => exact .emptyObject blanks_nil
    | cons member rest => exact .object (writes_members (List.cons_ne_nil _ _) sound ih)

end WordMachine.Json
