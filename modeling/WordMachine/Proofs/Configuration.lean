import WordMachine.Configuration
import WordMachine.Proofs.Assembly.Literal
import WordMachine.Proofs.Json.Codec

/-! Configurations are read by the keys of an object. The order of the members does not matter, nor
do members with other keys, and what is not given has its default; so a configuration is read back
from what is printed of it. This holds for every codec that does what it is documented to do. -/

set_option autoImplicit false

namespace WordMachine.Configuration

open StringPiece (text?)

/-! ## Settings -/

/-- A plain number with at most 64 bits. -/
inductive SizeValue : JsonValue → Nat → Prop where
  | integer {size : Nat} : size < 2 ^ 64 → SizeValue (.integer size) size

inductive LimitValue : JsonValue → Option Nat → Prop where
  | null : LimitValue .null none
  | size {value : JsonValue} {limit : Nat} : SizeValue value limit → LimitValue value (some limit)

/-- The name of a base, alone or as the only key of an object, with null for the value. -/
inductive BaseValue : JsonValue → Radix → Prop where
  | name {pieces : List StringPiece} {base : Radix} :
      text? pieces = some base.name.toList → BaseValue (.string pieces) base
  | key {pieces : List StringPiece} {base : Radix} :
      text? pieces = some base.name.toList → BaseValue (.object [(pieces, .null)]) base

/-- No member has the key and the setting has its default, or one member has it and its value says
what the setting is. -/
inductive Gives {Setting : Type} (key : Text) (means : JsonValue → Setting → Prop)
    (default : Setting) (members : List (List StringPiece × JsonValue)) : Setting → Prop where
  | absent : (∀ member ∈ members, text? member.1 ≠ some key) →
      Gives key means default members default
  | present {before after : List (List StringPiece × JsonValue)} {pieces : List StringPiece}
      {value : JsonValue} {setting : Setting} :
      members = before ++ (pieces, value) :: after → text? pieces = some key →
      (∀ member ∈ before ++ after, text? member.1 ≠ some key) → means value setting →
      Gives key means default members setting

namespace Gives

variable {Setting : Type} {key : Text} {means : JsonValue → Setting → Prop}
  {default setting : Setting} {pieces : List StringPiece} {value : JsonValue}
  {rest : List (List StringPiece × JsonValue)}

private theorem of_nil (gives : Gives key means default [] setting) : setting = default := by
  cases gives with
  | absent => rfl
  | present split => simp at split

/-- The first member gives the setting and no other does, or it has another key. -/
theorem of_cons (gives : Gives key means default ((pieces, value) :: rest) setting) :
    (text? pieces = some key ∧ means value setting ∧
      ∀ member ∈ rest, text? member.1 ≠ some key) ∨
    (text? pieces ≠ some key ∧ Gives key means default rest setting) := by
  cases gives with
  | absent others =>
    obtain ⟨first, others⟩ := List.forall_mem_cons.mp others
    exact .inr ⟨first, .absent others⟩
  | @present before after _ _ _ split named others known =>
    cases before with
    | nil =>
      cases split
      exact .inl ⟨named, known, others⟩
    | cons member before =>
      cases split
      obtain ⟨first, others⟩ := List.forall_mem_cons.mp others
      exact .inr ⟨first, .present rfl named others known⟩

private theorem of_cons_of_ne (gives : Gives key means default ((pieces, value) :: rest) setting)
    {name : Text} (named : text? pieces = some name) (other : name ≠ key) :
    Gives key means default rest setting := by
  rcases gives.of_cons with ⟨same, -⟩ | ⟨-, rest⟩
  · exact absurd (Option.some.inj (named.symm.trans same)) other
  · exact rest

end Gives

/-! ## Objects -/

section

variable {codec : JsonCodec} (documented : codec.Documented)

include documented

private theorem size?_eq {value : JsonValue} {size : Nat} (means : SizeValue value size) :
    codec.size? value = some size := by
  cases means with
  | integer small => exact documented.size small

private theorem limit?_eq {value : JsonValue} {limit : Option Nat}
    (means : LimitValue value limit) :
    codec.optional? codec.size? value = some limit := by
  cases means with
  | null => exact documented.null codec.size?
  | @size _ limit means =>
    have other : value ≠ .null := by
      rintro rfl
      cases means
    rw [documented.present codec.size? other, size?_eq documented means, Option.map_some]

private theorem base?_eq {value : JsonValue} {base : Radix} (means : BaseValue value base) :
    codec.choice? bases value = some base := by
  have listed : bases.lookup base.name.toList = some base := by
    cases base <;> decide
  cases means with
  | name named => exact documented.choice named listed
  | key named => exact documented.choiceKey named listed

private theorem record?_cons {pieces : List StringPiece} {name : Text} {value : JsonValue}
    {rest : List (List StringPiece × JsonValue)} {field : JsonField Configuration}
    {set : Configuration → Configuration} {configuration : Configuration}
    (named : text? pieces = some name)
    (found : JsonField.find? (fields codec) name = some field)
    (others : ∀ member ∈ rest, text? member.1 ≠ some name) (means : field.set? value = some set)
    (read : codec.record? standard (fields codec) (.object rest) = some configuration) :
    codec.record? standard (fields codec) (.object ((pieces, value) :: rest)) =
      some (set configuration) := by
  rw [documented.known standard value named found others, means, read]
  rfl

/-- Each setting is read by its key. -/
theorem record?_of_gives {members : List (List StringPiece × JsonValue)}
    (texts : Json.TextKeys members) {memoryBytes : Nat} {maxCycles : Option Nat} {base : Radix}
    (first : Gives "memory_bytes".toList SizeValue 1024 members memoryBytes)
    (second : Gives "max_cycles".toList LimitValue none members maxCycles)
    (third : Gives "base".toList BaseValue .hexadecimal members base) :
    codec.record? standard (fields codec) (.object members) =
      some ⟨memoryBytes, maxCycles, base⟩ := by
  induction members generalizing memoryBytes maxCycles base with
  | nil =>
    cases first.of_nil
    cases second.of_nil
    cases third.of_nil
    exact documented.empty standard (fields codec)
  | cons member rest ih =>
    obtain ⟨pieces, value⟩ := member
    obtain ⟨⟨name, named⟩, texts⟩ := List.forall_mem_cons.mp texts
    by_cases bytes : name = "memory_bytes".toList
    · subst bytes
      rcases first.of_cons with ⟨-, means, others⟩ | ⟨other, -⟩
      · have read := ih texts (.absent others) (second.of_cons_of_ne named (by decide))
          (third.of_cons_of_ne named (by decide))
        exact record?_cons documented named rfl others
          (congrArg (Option.map _) (size?_eq documented means)) read
      · exact absurd named other
    by_cases cycles : name = "max_cycles".toList
    · subst cycles
      rcases second.of_cons with ⟨-, means, others⟩ | ⟨other, -⟩
      · have read := ih texts (first.of_cons_of_ne named (by decide)) (.absent others)
          (third.of_cons_of_ne named (by decide))
        exact record?_cons documented named rfl others
          (congrArg (Option.map _) (limit?_eq documented means)) read
      · exact absurd named other
    by_cases radix : name = "base".toList
    · subst radix
      rcases third.of_cons with ⟨-, means, others⟩ | ⟨other, -⟩
      · have read := ih texts (first.of_cons_of_ne named (by decide))
          (second.of_cons_of_ne named (by decide)) (.absent others)
        exact record?_cons documented named rfl others
          (congrArg (Option.map _) (base?_eq documented means)) read
      · exact absurd named other
    have missing : JsonField.find? (fields codec) name = none := by
      rw [JsonField.find?, List.find?_eq_none]
      simp only [fields, List.forall_mem_cons, beq_iff_eq]
      exact ⟨Ne.symm bytes, Ne.symm cycles, Ne.symm radix, nofun⟩
    rw [documented.unknown standard value rest named missing]
    exact ih texts (first.of_cons_of_ne named bytes) (second.of_cons_of_ne named cycles)
      (third.of_cons_of_ne named radix)

private theorem readWith?_of_gives {members : List (List StringPiece × JsonValue)} {text : Text}
    (written : Json.Writes (.spaced (.object members)) text) (texts : Json.TextKeys members)
    {memoryBytes : Nat} {maxCycles : Option Nat} {base : Radix}
    (first : Gives "memory_bytes".toList SizeValue 1024 members memoryBytes)
    (second : Gives "max_cycles".toList LimitValue none members maxCycles)
    (third : Gives "base".toList BaseValue .hexadecimal members base) :
    readWith? codec text = some ⟨memoryBytes, maxCycles, base⟩ := by
  rw [readWith?, documented.read written, Option.bind_some,
    record?_of_gives documented texts first second third]

private theorem readWith?_of_not_textKeys {members : List (List StringPiece × JsonValue)}
    {text : Text} (written : Json.Writes (.spaced (.object members)) text)
    (halved : ¬Json.TextKeys members) :
    readWith? codec text = none := by
  rw [readWith?, documented.read written, Option.bind_some, documented.noText _ _ halved]

/-! ## Printing -/

/-- The members of the object that a configuration is printed as. -/
def members (configuration : Configuration) : List (List StringPiece × JsonValue) :=
  [(StringPiece.ofText "memory_bytes".toList, .integer configuration.memoryBytes),
   (StringPiece.ofText "max_cycles".toList,
    match configuration.maxCycles with
    | none => .null
    | some limit => .integer limit),
   (StringPiece.ofText "base".toList, .ofText configuration.base.name.toList)]

omit documented in
private theorem sound_ofText (text : Text) :
    ∀ piece ∈ StringPiece.ofText text, Json.Sound piece := by
  intro piece member
  obtain ⟨char, -, rfl⟩ := List.mem_map.mp member
  trivial

private theorem writes_printWith (configuration : Configuration) :
    Json.Writes (.spaced (.object configuration.members)) (printWith codec configuration) := by
  have limit : codec.ofOptional codec.ofSize configuration.maxCycles =
      match configuration.maxCycles with
      | none => .null
      | some limit => .integer limit := by
    cases configuration.maxCycles with
    | none => exact documented.ofNone codec.ofSize
    | some limit => rw [documented.ofSome, documented.ofSize]
  have printable : Json.Printable (.object configuration.members) := by
    refine .object ?_ ?_
    · simp only [members, List.forall_mem_cons]
      exact ⟨sound_ofText _, sound_ofText _, sound_ofText _, nofun⟩
    · simp only [members, List.forall_mem_cons]
      refine ⟨.integer _, ?_, .string (sound_ofText _), nofun⟩
      cases configuration.maxCycles with
      | none => exact .null
      | some limit => exact .integer limit
  rw [printWith, documented.ofRecord, documented.ofSize, documented.ofChoice, limit]
  exact documented.print printable

/-- A configuration whose numbers have at most 64 bits is read back from what is printed of it. -/
theorem readWith?_printWith {configuration : Configuration}
    (bytes : configuration.memoryBytes < 2 ^ 64)
    (cycles : ∀ limit, configuration.maxCycles = some limit → limit < 2 ^ 64) :
    readWith? codec (printWith codec configuration) = some configuration := by
  have limit : LimitValue (match configuration.maxCycles with
      | none => .null
      | some limit => .integer limit) configuration.maxCycles := by
    cases given : configuration.maxCycles with
    | none => exact .null
    | some limit => exact .size (.integer (cycles limit given))
  have texts : Json.TextKeys configuration.members := by
    simp only [Json.TextKeys, members, List.forall_mem_cons, StringPiece.text?_ofText]
    exact ⟨⟨_, rfl⟩, ⟨_, rfl⟩, ⟨_, rfl⟩, nofun⟩
  refine readWith?_of_gives documented (writes_printWith documented configuration) texts
    (.present (show configuration.members = [] ++ (_, _) :: _ from rfl)
      (StringPiece.text?_ofText _) ?_ (.integer bytes))
    (.present (show configuration.members = [_] ++ (_, _) :: _ from rfl)
      (StringPiece.text?_ofText _) ?_ limit)
    (.present (show configuration.members = [_, _] ++ (_, _) :: _ from rfl)
      (StringPiece.text?_ofText _) ?_ (.name (StringPiece.text?_ofText _)))
  all_goals
    simp only [List.nil_append, List.cons_append, List.forall_mem_cons, StringPiece.text?_ofText]
    refine ⟨?_, ?_, nofun⟩ <;> decide

/-- Whatever codec is used, if it does what it is documented to do: a configuration is read back
from what is printed of it. From an object whose keys are texts each setting is read by its key if
one member has it, and has its default if none has, wherever the member stands and whatever other
members there are. An object with any other key is not read. -/
theorem settings_are_read_by_key :
    (∀ configuration : Configuration, configuration.memoryBytes < 2 ^ 64 →
      (∀ limit, configuration.maxCycles = some limit → limit < 2 ^ 64) →
      readWith? codec (printWith codec configuration) = some configuration) ∧
    ∀ members text, Json.Writes (.spaced (.object members)) text →
      (Json.TextKeys members → ∀ memoryBytes maxCycles base,
        Gives "memory_bytes".toList SizeValue 1024 members memoryBytes →
        Gives "max_cycles".toList LimitValue none members maxCycles →
        Gives "base".toList BaseValue .hexadecimal members base →
        readWith? codec text = some ⟨memoryBytes, maxCycles, base⟩) ∧
      (¬Json.TextKeys members → readWith? codec text = none) := by
  refine ⟨fun _ => readWith?_printWith documented, ?_⟩
  intro members text written
  refine ⟨?_, readWith?_of_not_textKeys documented written⟩
  intro texts memoryBytes maxCycles base first second third
  exact readWith?_of_gives documented written texts first second third

end

/-- A key that is passed over has an array with half of a surrogate pair and a number that is not an
integer; another key is written with an escape. -/
def unusual : Text :=
  ("\x7b\"x\": [null, \x7b\"\\ud800\": -1.5E+3\x7d], " ++
    "\"max_cycles\": 18446744073709551615, \"bas\\u0065\": \x7b\"oct\": null\x7d\x7d").toList

/-- The members of the text. -/
def unusualMembers : List (List StringPiece × JsonValue) :=
  [(StringPiece.ofText "x".toList,
    .array [.null, .object [([.surrogate 0xD800], .decimal "-1.5E+3".toList)]]),
   (StringPiece.ofText "max_cycles".toList, .integer 18446744073709551615),
   (StringPiece.ofText "base".toList, .object [(StringPiece.ofText "oct".toList, .null)])]

private theorem blanks_space : Json.Blanks [' '] :=
  List.forall_mem_singleton.mpr List.mem_cons_self

private theorem writes_half : Json.WritesString [.surrogate 0xD800] "\\ud800".toList :=
  .unicode (Assembly.Literal.writesDigits_of_natural? (show
    Numeral.natural? 16 ['d', '8', '0', '0'] = some 0xD800 from rfl)) rfl .nil

private theorem writes_unusual : Json.Writes (.spaced (.object unusualMembers)) unusual := by
  have plain (text : Text) := Json.writes_string (sound_ofText text)
  have escaped : Json.WritesString (StringPiece.ofText "base".toList) "bas\\u0065".toList :=
    .plain (by decide) (by decide) (by decide) <| .plain (by decide) (by decide) (by decide) <|
      .plain (by decide) (by decide) (by decide) <|
      .unicode (Assembly.Literal.writesDigits_of_natural? (show
        Numeral.natural? 16 ['0', '0', '6', '5'] = some 0x65 from rfl)) rfl .nil
  have number : Json.WritesNumber (.decimal "-1.5E+3".toList) "-1.5E+3".toList :=
    .decimal (show ['-'] ∈ [[], ['-']] by simp) (Json.writesWhole_toDigits 1)
      (.point ⟨List.cons_ne_nil '5' [], List.forall_mem_singleton.mpr rfl⟩)
      (.power (show 'E' ∈ ['e', 'E'] by simp) (show ['+'] ∈ [[], ['+'], ['-']] by simp)
        ⟨List.cons_ne_nil '3' [], List.forall_mem_singleton.mpr rfl⟩) (by simp)
  have limit : Json.WritesNumber (.integer 18446744073709551615) "18446744073709551615".toList :=
    .natural (Json.writesWhole_toDigits 18446744073709551615)
  have object := Json.Writes.object (.lastMember
    (.member Json.blanks_nil writes_half Json.blanks_nil
      (.spaced blanks_space (.number number) Json.blanks_nil)))
  have array := Json.Writes.array (.items (Json.spaced_of_value .null)
    (.lastItem (.spaced blanks_space object Json.blanks_nil)))
  have base := Json.Writes.object (.lastMember
    (.member Json.blanks_nil (plain "oct".toList) Json.blanks_nil
      (.spaced blanks_space .null Json.blanks_nil)))
  exact Json.spaced_of_value <| .object <|
    .members (.member Json.blanks_nil (plain "x".toList) Json.blanks_nil
      (.spaced blanks_space array Json.blanks_nil)) <|
    .members (.member blanks_space (plain "max_cycles".toList) Json.blanks_nil
      (.spaced blanks_space (.number limit) Json.blanks_nil)) <|
    .lastMember (.member blanks_space escaped Json.blanks_nil
      (.spaced blanks_space base Json.blanks_nil))

theorem unusual_is_read : JsonCodec.standard.Documented ∧
    read? unusual = some ⟨1024, some 18446744073709551615, .octal⟩ := by
  have texts : Json.TextKeys unusualMembers := by
    simp only [Json.TextKeys, unusualMembers, List.forall_mem_cons, StringPiece.text?_ofText]
    exact ⟨⟨_, rfl⟩, ⟨_, rfl⟩, ⟨_, rfl⟩, nofun⟩
  refine ⟨JsonCodec.documented_standard, ?_⟩
  refine ((settings_are_read_by_key JsonCodec.documented_standard).2 _ _ writes_unusual).1 texts
    _ _ _ (.absent ?_)
    (.present (show unusualMembers = [_] ++ (_, _) :: _ from rfl) (StringPiece.text?_ofText _) ?_
      (.size (.integer (by decide))))
    (.present (show unusualMembers = [_, _] ++ (_, _) :: _ from rfl) (StringPiece.text?_ofText _) ?_
      (.key (StringPiece.text?_ofText _)))
  all_goals simp only [unusualMembers, List.nil_append, List.cons_append, List.forall_mem_cons,
    StringPiece.text?_ofText]
  · exact ⟨by decide, by decide, by decide, nofun⟩
  · exact ⟨by decide, by decide, nofun⟩
  · exact ⟨by decide, by decide, nofun⟩

/-- An object may have half of a surrogate pair for a key, and that is no text. -/
def halved : Text := "\x7b\"\\ud800\": 1\x7d".toList

theorem halved_is_not_read :
    let members := [([StringPiece.surrogate 0xD800], JsonValue.integer 1)]
    Json.Writes (.spaced (.object members)) halved ∧
      Gives "memory_bytes".toList SizeValue 1024 members 1024 ∧
      Gives "max_cycles".toList LimitValue none members none ∧
      Gives "base".toList BaseValue .hexadecimal members .hexadecimal ∧ read? halved = none := by
  intro members
  have one : Json.WritesNumber (.integer 1) "1".toList := .natural (Json.writesWhole_toDigits 1)
  have written := Json.Writes.object (.lastMember (.member Json.blanks_nil writes_half
    Json.blanks_nil (.spaced blanks_space (.number one) Json.blanks_nil)))
  have others (key : Text) : ∀ member ∈ members, StringPiece.text? member.1 ≠ some key :=
    List.forall_mem_singleton.mpr nofun
  exact ⟨Json.spaced_of_value written, .absent (others _), .absent (others _),
    .absent (others _), by decide +kernel⟩

end WordMachine.Configuration
