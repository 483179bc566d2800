import RequestSchema.Json.Display
import RequestSchema.Json.Printer
import RequestSchema.Log.Entry

set_option autoImplicit false

/-!
# Log lines

An entry is written as a JSON object with its keys in order, or as a line for a console.
-/

namespace RequestSchema

inductive LogFormat where
  | json
  | console
deriving DecidableEq

/-- The named values in the order of their names. -/
def sortedMembers (members : Members) : Members :=
  members.mergeSort fun a b => a.1 ≤ b.1

def padded (width : Nat) (text : Text) : Text :=
  text ++ Text.ofList (List.replicate (width - text.length) (char ' '))

/-- The characters that make a console value stand in quotes. -/
def needsQuotes (c : CodePoint) : Bool :=
  c = ' ' || c = '\t' || c = '=' || c = '\r' || c = '\n' || c = '"' || c = '\''

def consoleValue : Json → Text
  | .str text => if text.toList.any needsQuotes then (Json.str text).display else text
  | value => value.display

namespace LogEntry

def jsonLine (stamp : Text) (entry : LogEntry) : Text :=
  let own : Members :=
    [("event", .str entry.event), ("level", .str entry.level.text), ("logger", .str entry.logger),
      ("timestamp", .str stamp)]
  (Json.obj (sortedMembers (entry.values ++ own))).compactText

def consoleLine (stamp : Text) (entry : LogEntry) : Text :=
  Text.intercalate " " ([stamp, "[" ++ padded 9 entry.level.text ++ "]", padded 30 entry.event,
    "[" ++ entry.logger ++ "]"] ++
    (sortedMembers entry.values).map fun (name, value) => name ++ "=" ++ consoleValue value)

def line (format : LogFormat) (stamp : Text) (entry : LogEntry) : Text :=
  match format with
  | .json => entry.jsonLine stamp
  | .console => entry.consoleLine stamp

end LogEntry

end RequestSchema
