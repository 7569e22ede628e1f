import WordMachine.Json.Printer
import WordMachine.Machine.Report

/-!
Reports as JSON values.
-/

set_option autoImplicit false

namespace WordMachine

def JsonValue.ofMembers (members : List (String × JsonValue)) : JsonValue :=
  .object (members.map fun (name, value) => (StringPiece.ofText name.toList, value))

def JsonValue.ofOption {α : Type} (encode : α → JsonValue) : Option α → JsonValue
  | none => .null
  | some value => encode value

/-- The snapshot as an object. Words are signed, but an exit code is shown as its bit pattern. -/
def Snapshot.toJson (snapshot : Snapshot) : JsonValue :=
  .ofMembers
    [("program_counter", .integer snapshot.programCounter),
     ("memory_counter", .integer snapshot.memoryCounter),
     ("registers", .array (snapshot.registers.map fun word => .integer word.toInt)),
     ("exit_code", .ofOption (fun code => .integer code.toWord.toNat) snapshot.exit?),
     ("exit_reason", .ofOption (fun code => .ofText code.reason.toList) snapshot.exit?),
     ("cycles", .integer snapshot.cycles)]

def Report.toJson (report : Report) : JsonValue :=
  .ofMembers [("snapshot", report.snapshot.toJson), ("completed", .bool report.completed)]

end WordMachine
