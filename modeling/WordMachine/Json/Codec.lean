import WordMachine.Json.Printer
import WordMachine.Json.Reader

/-!
Records as JSON. A codec says how texts, numbers, values that may be missing, values with names and
records are read and written; a program describes its records by their fields and leaves the rest
to the codec. The standard codec is one that reads and prints all of JSON.
-/

set_option autoImplicit false

namespace WordMachine

/-- A field of a record: its name, and how a value that is given for it changes the record. -/
structure JsonField (Record : Type) where
  name : Text
  set? : JsonValue → Option (Record → Record)

def JsonField.find? {Record : Type} (fields : List (JsonField Record)) (name : Text) :
    Option (JsonField Record) :=
  List.find? (fun field => field.name == name) fields

structure JsonCodec where
  read? : Text → Option JsonValue
  print : JsonValue → Text
  /-- A plain number with at most 64 bits. -/
  size? : JsonValue → Option Nat
  ofSize : Nat → JsonValue
  /-- A value or null for none. -/
  optional? : {Value : Type} → (JsonValue → Option Value) → JsonValue → Option (Option Value)
  ofOptional : {Value : Type} → (Value → JsonValue) → Option Value → JsonValue
  /-- One of the values that have names. -/
  choice? : {Value : Type} → List (Text × Value) → JsonValue → Option Value
  ofChoice : Text → JsonValue
  /-- A record that has its defaults where nothing is given. -/
  record? : {Record : Type} → Record → List (JsonField Record) → JsonValue → Option Record
  ofRecord : List (Text × JsonValue) → JsonValue

namespace JsonCodec.Standard

def size? : JsonValue → Option Nat
  | .integer value => if 0 ≤ value ∧ value < 0x10000000000000000 then some value.toNat else none
  | _ => none

def optional? {Value : Type} (read? : JsonValue → Option Value) :
    JsonValue → Option (Option Value)
  | .null => some none
  | value => (read? value).map some

def ofOptional {Value : Type} (write : Value → JsonValue) : Option Value → JsonValue
  | none => .null
  | some value => write value

def named? {Value : Type} (choices : List (Text × Value)) (name : List StringPiece) :
    Option Value :=
  (StringPiece.text? name).bind fun name => choices.lookup name

/-- The name of a choice, or an object with the name for its only key and null for the value. -/
def choice? {Value : Type} (choices : List (Text × Value)) : JsonValue → Option Value
  | .string name => named? choices name
  | .object [(name, .null)] => named? choices name
  | _ => none

section

variable {Record : Type} (default : Record)

/-- The values of an array belong to the fields in order. -/
def recordOfItems? : List (JsonField Record) → List JsonValue → Option Record
  | _, [] => some default
  | [], _ :: _ => none
  | field :: fields, value :: values => do
    let set ← field.set? value
    let record ← recordOfItems? fields values
    some (set record)

/-- Members without a field are passed over. No field may be given twice, and every key has to be a
text. -/
def recordOfMembers? (fields : List (JsonField Record)) :
    List (List StringPiece × JsonValue) → Option Record
  | [] => some default
  | (key, value) :: rest => do
    let name ← StringPiece.text? key
    match JsonField.find? fields name with
    | none => recordOfMembers? fields rest
    | some field =>
      if rest.any fun member => StringPiece.text? member.1 == some name then none
      else do
        let set ← field.set? value
        let record ← recordOfMembers? fields rest
        some (set record)

def record? (fields : List (JsonField Record)) : JsonValue → Option Record
  | .array items => recordOfItems? default fields items
  | .object members => recordOfMembers? default fields members
  | _ => none

end

def ofRecord (members : List (Text × JsonValue)) : JsonValue :=
  .object (members.map fun (name, value) => (StringPiece.ofText name, value))

end JsonCodec.Standard

def JsonCodec.standard : JsonCodec where
  read? := Json.read?
  print := JsonValue.compact
  size? := Standard.size?
  ofSize size := .integer size
  optional? := Standard.optional?
  ofOptional := Standard.ofOptional
  choice? := Standard.choice?
  ofChoice := .ofText
  record? := Standard.record?
  ofRecord := Standard.ofRecord

end WordMachine
