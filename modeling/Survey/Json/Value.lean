import Survey.Float.Binary64

/-!
# JSON values

A JSON number keeps the class a reader gives it: a non-negative integer that fits an unsigned
64-bit word, a negative integer that fits a signed 64-bit word, or else the double the reader
computed. An object is a list of members; a value read from text as a whole has its members
sorted by key with the last of equal keys kept (`Json.insertMember`), while a value built for
output keeps the order it was built in.
-/

namespace Survey

/-- A JSON number as a reader classifies it. -/
inductive JsonNumber where
  /-- A non-negative integer below `2^64`. -/
  | nat (value : Nat)
  /-- A negative integer from `-2^63`. -/
  | negative (value : Int)
  /-- Any other number, as the nearest double the reader found. -/
  | float (value : Binary64)
  deriving DecidableEq, Repr, Inhabited

/-- A JSON value. -/
inductive Json where
  | null
  | bool (value : Bool)
  | number (value : JsonNumber)
  | string (value : String)
  | array (items : List Json)
  | object (members : List (String × Json))
  deriving Repr, Inhabited

namespace Json

/-- A natural number as JSON. -/
def ofNat (n : Nat) : Json := .number (.nat n)

/-- An integer as JSON. -/
def ofInt (i : Int) : Json := if 0 ≤ i then .number (.nat i.toNat) else .number (.negative i)

/-- Insert a member into a list sorted by key, replacing a member of the same key. -/
def insertMember (key : String) (value : Json) : List (String × Json) → List (String × Json)
  | [] => [(key, value)]
  | (k, v) :: rest =>
    if key < k then (key, value) :: (k, v) :: rest
    else if key = k then (key, value) :: rest
    else (k, v) :: insertMember key value rest

/-- The value of a member of an object. -/
def get? (json : Json) (key : String) : Option Json :=
  match json with
  | .object members => (members.find? (·.1 == key)).map (·.2)
  | _ => none

/-- The text of a string value. -/
def getString? : Json → Option String
  | .string s => some s
  | _ => none

/-- The items of an array value. -/
def getArray? : Json → Option (List Json)
  | .array items => some items
  | _ => none

/-- The value of a boolean. -/
def getBool? : Json → Option Bool
  | .bool b => some b
  | _ => none

/-- The value of an integer number. -/
def getInt? : Json → Option Int
  | .number (.nat n) => some n
  | .number (.negative i) => some i
  | _ => none

end Json

end Survey
