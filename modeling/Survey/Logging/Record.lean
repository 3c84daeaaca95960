import Survey.Engine.Log
import Survey.Json.Write
import Survey.Text.Quoted

/-!
# Log records and their lines

A log record is what a program reports as it runs: a level, the part of the program it comes
from (its target), a message, and named fields. Each record becomes one line, in one of two
formats.

* The compact line is the time stamp, the level right-aligned in five columns, the message,
  and each field as `name=value`, text values quoted:
  `<time>  INFO replaying script questionnaire="census" pages=1`.
* The JSON line is an object with the fields (the message among them, keys sorted), the level
  and the time stamp, such as
  `{"fields":{"message":"Started session s"},"level":"INFO","timestamp":"<time>"}`.
-/

namespace Survey

namespace Logging

/-- The value of a field. -/
inductive FieldValue where
  | text (s : String)
  | count (n : Nat)
  deriving DecidableEq, Repr

namespace FieldValue

/-- The value as a compact line shows it. -/
def shown : FieldValue → String
  | .text s => quotedText s
  | .count n => toString n

/-- The value as JSON. -/
def toJson : FieldValue → Json
  | .text s => .string s
  | .count n => .ofNat n

end FieldValue

/-- A record of something that happened. -/
structure Record where
  level : LogLevel
  target : String
  message : String
  /-- The fields besides the message, in the order they were given. -/
  fields : List (String × FieldValue)
  deriving Repr

namespace Record

/-- The names of the record's fields, the message first. -/
def fieldNames (r : Record) : List String := "message" :: r.fields.map (·.1)

/-- An engine event as a record with only a message, naming sessions with `showId`. -/
def ofEvent (showId : SessionId → String) (e : LogEvent) : Record :=
  ⟨e.level, e.target, e.message showId, []⟩

/-- The level as the compact line shows it, right-aligned in five columns. -/
def levelColumn : LogLevel → String
  | .error => "ERROR"
  | .warn => " WARN"
  | .info => " INFO"
  | .debug => "DEBUG"
  | .trace => "TRACE"

/-- The compact line of a record stamped `stamp`. -/
def compactLine (stamp : String) (r : Record) : String :=
  stamp ++ " " ++ levelColumn r.level ++ " " ++ r.message ++
    String.join (r.fields.map fun (name, v) => " " ++ name ++ "=" ++ v.shown) ++ "\n"

/-- The JSON line of a record stamped `stamp`. -/
def jsonLine (stamp : String) (r : Record) : String :=
  let fields := (("message", FieldValue.text r.message) :: r.fields).foldl
    (fun acc (name, v) => Json.insertMember name v.toJson acc) []
  Json.render (.object [("fields", .object fields), ("level", .string r.level.name),
    ("timestamp", .string stamp)]) ++ "\n"

end Record

end Logging

end Survey
