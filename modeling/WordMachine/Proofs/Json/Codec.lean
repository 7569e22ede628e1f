import WordMachine.Json.Codec
import WordMachine.Proofs.Json.Printing

/-! What a codec is documented to do. Texts are read and printed by the grammar of JSON; a record is
read member by member, each by the field that has its key. The standard codec keeps to this. -/

set_option autoImplicit false

namespace WordMachine

open StringPiece (text?)

structure JsonCodec.Documented (codec : JsonCodec) : Prop where
  read : ∀ {value : JsonValue} {text : Text}, Json.Writes (.spaced value) text →
    codec.read? text = some value
  print : ∀ {value : JsonValue}, Json.Printable value → Json.Writes (.spaced value)
    (codec.print value)
  size : ∀ {size : Nat}, size < 2 ^ 64 → codec.size? (.integer size) = some size
  ofSize : ∀ size : Nat, codec.ofSize size = .integer size
  null : ∀ {Value : Type} (read? : JsonValue → Option Value),
    codec.optional? read? .null = some none
  present : ∀ {Value : Type} (read? : JsonValue → Option Value) {value : JsonValue},
    value ≠ .null → codec.optional? read? value = (read? value).map some
  ofNone : ∀ {Value : Type} (write : Value → JsonValue), codec.ofOptional write none = .null
  ofSome : ∀ {Value : Type} (write : Value → JsonValue) (value : Value),
    codec.ofOptional write (some value) = write value
  choice : ∀ {Value : Type} {choices : List (Text × Value)} {key : List StringPiece} {name : Text}
    {value : Value}, text? key = some name → choices.lookup name = some value →
    codec.choice? choices (.string key) = some value
  choiceKey : ∀ {Value : Type} {choices : List (Text × Value)} {key : List StringPiece}
    {name : Text} {value : Value}, text? key = some name → choices.lookup name = some value →
    codec.choice? choices (.object [(key, .null)]) = some value
  ofChoice : ∀ name : Text, codec.ofChoice name = .ofText name
  /-- What is not given has its default. -/
  empty : ∀ {Record : Type} (default : Record) (fields : List (JsonField Record)),
    codec.record? default fields (.object []) = some default
  /-- A field is read from the member with its name, if no other member has it. -/
  known : ∀ {Record : Type} (default : Record) {fields : List (JsonField Record)}
    {key : List StringPiece} {name : Text} {field : JsonField Record} (value : JsonValue)
    {rest : List (List StringPiece × JsonValue)}, text? key = some name →
    JsonField.find? fields name = some field → (∀ member ∈ rest, text? member.1 ≠ some name) →
    codec.record? default fields (.object ((key, value) :: rest)) =
      (field.set? value).bind fun set =>
        (codec.record? default fields (.object rest)).map set
  /-- A member that no field is named after is passed over, whatever its value. -/
  unknown : ∀ {Record : Type} (default : Record) {fields : List (JsonField Record)}
    {key : List StringPiece} {name : Text} (value : JsonValue)
    (rest : List (List StringPiece × JsonValue)), text? key = some name →
    JsonField.find? fields name = none →
    codec.record? default fields (.object ((key, value) :: rest)) =
      codec.record? default fields (.object rest)
  /-- A key that is no text is an error. -/
  noText : ∀ {Record : Type} (default : Record) (fields : List (JsonField Record))
    {members : List (List StringPiece × JsonValue)}, ¬Json.TextKeys members →
    codec.record? default fields (.object members) = none
  ofRecord : ∀ members : List (Text × JsonValue), codec.ofRecord members =
    .object (members.map fun member => (StringPiece.ofText member.1, member.2))

namespace JsonCodec.Standard

private theorem size?_integer {size : Nat} (small : size < 2 ^ 64) :
    size? (.integer size) = some size := by
  rw [size?, if_pos (by omega), Int.toNat_natCast]

private theorem named?_eq {Value : Type} {choices : List (Text × Value)} {key : List StringPiece}
    {name : Text} {value : Value} (named : text? key = some name)
    (found : choices.lookup name = some value) : named? choices key = some value := by
  rw [named?, named, Option.bind_some, found]

section

variable {Record : Type} (default : Record) {fields : List (JsonField Record)}
  {key : List StringPiece} {name : Text} (value : JsonValue)
  {rest : List (List StringPiece × JsonValue)}

private theorem recordOfMembers?_known {field : JsonField Record} (named : text? key = some name)
    (found : JsonField.find? fields name = some field)
    (others : ∀ member ∈ rest, text? member.1 ≠ some name) :
    recordOfMembers? default fields ((key, value) :: rest) = (field.set? value).bind fun set =>
      (recordOfMembers? default fields rest).map set := by
  have once : (rest.any fun member => text? member.1 == some name) = false := by
    simpa using others
  simp only [recordOfMembers?, named, found, once, Option.bind_eq_bind, Option.bind_some,
    Bool.false_eq_true, if_false]
  cases field.set? value with
  | none => rfl
  | some set => cases recordOfMembers? default fields rest <;> rfl

private theorem recordOfMembers?_unknown (named : text? key = some name)
    (missing : JsonField.find? fields name = none) :
    recordOfMembers? default fields ((key, value) :: rest) =
      recordOfMembers? default fields rest := by
  simp only [recordOfMembers?, named, missing, Option.bind_eq_bind, Option.bind_some]

end

private theorem recordOfMembers?_noText {Record : Type} (default : Record)
    (fields : List (JsonField Record)) {members : List (List StringPiece × JsonValue)}
    (halved : ¬Json.TextKeys members) : recordOfMembers? default fields members = none := by
  induction members with
  | nil => exact absurd (List.forall_mem_nil _) halved
  | cons member rest ih =>
    obtain ⟨key, value⟩ := member
    rw [recordOfMembers?]
    cases named : text? key with
    | none => rfl
    | some name =>
      have later := ih fun texts => halved (List.forall_mem_cons.mpr ⟨⟨name, named⟩, texts⟩)
      simp only [later, Option.bind_eq_bind, Option.bind_some, Option.bind_none,
        Option.bind_fun_none, ite_self]
      cases JsonField.find? fields name <;> rfl

end JsonCodec.Standard

theorem JsonCodec.documented_standard : JsonCodec.standard.Documented where
  read := Json.read?_of_writes
  print printable := Json.spaced_of_value (Json.writes_compact printable)
  size small := by
    rw [show standard.size? = Standard.size? from rfl]
    exact Standard.size?_integer small
  ofSize _ := rfl
  null _ := rfl
  present read? value other := by
    cases value with
    | null => exact absurd rfl other
    | _ => rfl
  ofNone _ := rfl
  ofSome _ _ := rfl
  choice := Standard.named?_eq
  choiceKey := Standard.named?_eq
  ofChoice _ := rfl
  empty _ _ := rfl
  known default _ _ _ _ value _ := Standard.recordOfMembers?_known default value
  unknown default _ _ _ value _ := Standard.recordOfMembers?_unknown default value
  noText := Standard.recordOfMembers?_noText
  ofRecord _ := rfl

end WordMachine
