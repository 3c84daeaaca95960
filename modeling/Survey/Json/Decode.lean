import Survey.Json.Read
import Survey.Float.Shortest
import Survey.Text.Quoted

/-!
# Reading typed values from JSON

A `Decoder α` reads a value of type `α` from a JSON document and reports what is wrong in
the words of a typed JSON reader: ``missing field `id` ``, ``unknown variant `x`, expected
one of ...``, ``invalid type: string "yes", expected a boolean``.

A decoder works in one of three modes (`DecodeMode`):

* **text**: the value comes from JSON text and is met in document order, as a streaming
  reader meets it. Faults of the text are reported where the reader meets them, and every
  error carries the position of the reader (`at line L column C`).
* **content**: the value was buffered out of the text (or out of a value) before its type was
  known, as tagged and untagged enumerations and flattened records require. Its errors have no
  position of their own; they wait (`Placement.pending`) until the container around them in
  the text places them where the reader stood when it closed that container.
* **value**: the value is a JSON value already read; no error has a position, and object
  members come sorted by key.

The placement rule is the reader's: a scalar's error sits after the scalar, a container's
type error before its opening bracket, and an error raised while a container is being read
sits after the whitespace that follows the point where it was raised, past the closing bracket
when that comes next (for arrays, past a following comma and whitespace instead).
-/

namespace Survey

/-- Where an error stands in the text. -/
inductive Placement where
  /-- At this byte offset. -/
  | placed (offset : Nat)
  /-- Not yet placed; raised with the reader at this offset. -/
  | pending (offset : Nat)
  deriving Repr

/-- An error of decoding: its message and where it stands. -/
structure DecodeError where
  message : String
  placement : Placement
  deriving Repr

/-- Where the value being decoded comes from (see the module header). -/
inductive DecodeMode where
  | text (bytes : ByteArray)
  | content (offset : Nat)
  | value

/-- A value to decode, with its mode. -/
structure Cursor where
  doc : Doc
  mode : DecodeMode

/-- A reader of values of type `α`. -/
abbrev Decoder (α : Type) := Cursor → Except DecodeError α

namespace Doc

mutual

/-- A document standing for a JSON value, with every offset zero. -/
def ofJson : Json → Doc
  | .null => .null 0 0
  | .bool b => .bool b 0 0
  | .number n => .number (.ok n) 0 0
  | .string s => .string (.ok s) 0 0
  | .array xs => .array 0 none (ofJsonItems xs) (.closed 0)
  | .object ms => .object 0 none (ofJsonMembers ms) (.closed 0)

/-- Documents of array items. -/
def ofJsonItems : List Json → List Doc
  | [] => []
  | x :: xs => ofJson x :: ofJsonItems xs

/-- Documents of object members. -/
def ofJsonMembers : List (String × Json) → List (Except ReadFault String × Nat × Doc)
  | [] => []
  | (k, v) :: ms => (.ok k, 0, ofJson v) :: ofJsonMembers ms

end

mutual

/-- The first fault a reader meets reading the whole value: nesting too deep, a soft fault of
a scalar or key, or the fault that stopped reading. -/
def readFault? : Doc → Option ReadFault
  | .number (.error f) .. | .string (.error f) .. => some f
  | .array _ deep items ending =>
    match deep with
    | some f => some f
    | none =>
      match itemsReadFault? items with
      | some f => some f
      | none => match ending with
        | .fault f _ => some f
        | .closed _ => none
  | .object _ deep members ending =>
    match deep with
    | some f => some f
    | none =>
      match membersReadFault? members with
      | some f => some f
      | none => match ending with
        | .fault f _ => some f
        | .closed _ => none
  | .fault f _ => some f
  | _ => none

/-- The first read fault among array items. -/
def itemsReadFault? : List Doc → Option ReadFault
  | [] => none
  | d :: ds => match readFault? d with
    | some f => some f
    | none => itemsReadFault? ds

/-- The first read fault among object members, keys included. -/
def membersReadFault? : List (Except ReadFault String × Nat × Doc) → Option ReadFault
  | [] => none
  | (k, _, d) :: ms =>
    match k with
    | .error f => some f
    | .ok _ => match readFault? d with
      | some f => some f
      | none => membersReadFault? ms

end

mutual

/-- The first fault a skipper meets passing over the value: only faults of the grammar. -/
def skipFault? : Doc → Option ReadFault
  | .array _ _ items ending =>
    match itemsSkipFault? items with
    | some f => some f
    | none => match ending with
      | .fault _ g => some g
      | .closed _ => none
  | .object _ _ members ending =>
    match membersSkipFault? members with
    | some f => some f
    | none => match ending with
      | .fault _ g => some g
      | .closed _ => none
  | .fault _ g => some g
  | _ => none

/-- The first skip fault among array items. -/
def itemsSkipFault? : List Doc → Option ReadFault
  | [] => none
  | d :: ds => match skipFault? d with
    | some f => some f
    | none => itemsSkipFault? ds

/-- The first skip fault among object members. -/
def membersSkipFault? : List (Except ReadFault String × Nat × Doc) → Option ReadFault
  | [] => none
  | (_, _, d) :: ms => match skipFault? d with
    | some f => some f
    | none => membersSkipFault? ms

end

end Doc

/-- The text of a list of names as a message lists them: `` `a` ``, `` `a` or `b` ``, or
``one of `a`, `b`, `c` ``. -/
def oneOf (names : List String) : String :=
  let tick (n : String) := "`" ++ n ++ "`"
  match names with
  | [a] => tick a
  | [a, b] => tick a ++ " or " ++ tick b
  | _ => "one of " ++ ", ".intercalate (names.map tick)

/-- The message for a variant name that names no variant. -/
def unknownVariantMessage (name : String) (variants : List String) : String :=
  if variants.isEmpty then "unknown variant `" ++ name ++ "`, there are no variants"
  else "unknown variant `" ++ name ++ "`, expected " ++ oneOf variants

/-- The message for a key that names no field of a closed record. -/
def unknownFieldMessage (name : String) (fields : List String) : String :=
  if fields.isEmpty then "unknown field `" ++ name ++ "`, there are no fields"
  else "unknown field `" ++ name ++ "`, expected " ++ oneOf fields

/-- The message for a field given twice. -/
def duplicateFieldMessage (name : String) : String := "duplicate field `" ++ name ++ "`"

/-- The message for a field left out. -/
def missingFieldMessage (name : String) : String := "missing field `" ++ name ++ "`"

/-- A number as an error message names it. -/
def numberUnexpected : JsonNumber → String
  | .nat n => "integer `" ++ toString n ++ "`"
  | .negative i => "integer `" ++ toString i ++ "`"
  | .float f => "floating point `" ++ f.toShortText ++ "`"

/-- The field value of a record, or the message for its absence. -/
def need (name : String) : Option α → Except String α
  | some a => .ok a
  | none => .error (missingFieldMessage name)

namespace Cursor

/-- The same mode at another value. -/
def child (c : Cursor) (d : Doc) : Cursor := ⟨d, c.mode⟩

/-- An error placed at a text offset (in text mode), or waiting otherwise. -/
def errorAt (c : Cursor) (message : String) (offset : Nat) : DecodeError :=
  match c.mode with
  | .text _ => ⟨message, .placed offset⟩
  | .content o => ⟨message, .pending o⟩
  | .value => ⟨message, .pending 0⟩

/-- An error raised with the reader at `offset`, for the enclosing container to place. -/
def errorPending (c : Cursor) (message : String) (offset : Nat) : DecodeError :=
  match c.mode with
  | .text _ => ⟨message, .pending offset⟩
  | .content o => ⟨message, .pending o⟩
  | .value => ⟨message, .pending 0⟩

/-- The error of a fault of the text. -/
def fault (c : Cursor) (f : ReadFault) : DecodeError := c.errorAt f.code.message f.offset

/-- Where the reader stands after closing a container at `offset`: past whitespace, and past
the closing bracket if it comes next (for an array, past a comma and more whitespace too). -/
def closeOffset (bytes : ByteArray) (array : Bool) (offset : Nat) : Nat :=
  let j := JsonText.skipSpace bytes offset
  match JsonText.byteAt bytes j with
  | some 0x7D => if array then j else j + 1
  | some 0x5D => if array then j + 1 else j
  | some 0x2C => if array then JsonText.skipSpace bytes (j + 1) else j
  | _ => j

/-- Run the reading of a container and place its waiting errors as the reader does on
closing it (text mode only). -/
def within (c : Cursor) (array : Bool) (x : Except DecodeError α) : Except DecodeError α :=
  match x, c.mode with
  | .error ⟨m, .pending o⟩, .text bytes => .error ⟨m, .placed (closeOffset bytes array o)⟩
  | x, _ => x

/-- Raise the fault of a container nested too deep. -/
def checkDeep (c : Cursor) : Option ReadFault → Except DecodeError Unit
  | some f => .error (c.fault f)
  | none => .ok ()

/-- The offset of a container's closing bracket, or the fault that ended it. -/
def closing (c : Cursor) : DocEnding → Except DecodeError Nat
  | .closed stop => .ok (stop - 1)
  | .fault f _ => .error (c.fault f)

/-- A member's key, or its fault. -/
def key (c : Cursor) : Except ReadFault String → Except DecodeError String
  | .ok k => .ok k
  | .error f => .error (c.fault f)

/-- Pass over a value without reading it: only faults of its grammar count. -/
def skip (c : Cursor) (d : Doc) : Except DecodeError Unit :=
  match d.skipFault? with
  | some f => .error (c.fault f)
  | none => .ok ()

/-- Check a value that is about to be buffered: every fault a reader meets in it counts. -/
def buffer (c : Cursor) (d : Doc) : Except DecodeError Unit :=
  match c.mode with
  | .text _ =>
    match d.readFault? with
    | some f => .error (c.fault f)
    | none => .ok ()
  | _ => .ok ()

/-- The mode of content buffered with the reader at `offset`. -/
def contentMode (c : Cursor) (offset : Nat) : DecodeMode :=
  match c.mode with
  | .text _ => .content offset
  | .content o => .content o
  | .value => .content 0

/-- How the value is named in a type error, after the faults of reading it. -/
def unexpected (c : Cursor) : Except DecodeError String :=
  match c.doc with
  | .null .. => .ok "null"
  | .bool b .. => .ok ("boolean `" ++ (if b then "true" else "false") ++ "`")
  | .number (.ok n) .. => .ok (numberUnexpected n)
  | .string (.ok s) .. => .ok ("string " ++ quotedText s)
  | .array .. => .ok "sequence"
  | .object .. => .ok "map"
  | .number (.error f) .. | .string (.error f) .. | .fault f _ => .error (c.fault f)

/-- The offset a type error of this value stands at: after a scalar, before a container. -/
def typeOffset (c : Cursor) : Nat :=
  match c.doc with
  | .array start .. | .object start .. => start
  | d => d.stop

/-- Refuse the value as not of the expected type. -/
def invalidType (c : Cursor) (expected : String) : Except DecodeError α := do
  let u ← c.unexpected
  throw (c.errorAt ("invalid type: " ++ u ++ ", expected " ++ expected) c.typeOffset)

/-- Refuse the value as out of the expected range. -/
def invalidValue (c : Cursor) (unexpected expected : String) : Except DecodeError α :=
  throw (c.errorAt ("invalid value: " ++ unexpected ++ ", expected " ++ expected) c.doc.stop)

/-- Refuse the value with a message of the type's own, placed after it. -/
def custom (c : Cursor) (message : String) : Except DecodeError α :=
  throw (c.errorAt message c.doc.stop)

end Cursor

namespace Decoder

/-- Fold over a list, stopping at the first error. -/
def foldEach (xs : List β) (init : σ) (f : σ → β → Except DecodeError σ) : Except DecodeError σ :=
  xs.foldlM f init

/-- A string. -/
def string : Decoder String := fun c =>
  match c.doc with
  | .string (.ok s) .. => .ok s
  | _ => c.invalidType "a string"

/-- A boolean. -/
def bool : Decoder Bool := fun c =>
  match c.doc with
  | .bool b .. => .ok b
  | _ => c.invalidType "a boolean"

/-- An unsigned integer up to `limit`, named `name` in errors. -/
def unsigned (name : String) (limit : Nat) : Decoder Nat := fun c =>
  match c.doc with
  | .number (.ok (.nat n)) .. =>
    if n ≤ limit then .ok n else c.invalidValue ("integer `" ++ toString n ++ "`") name
  | .number (.ok (.negative i)) .. => c.invalidValue ("integer `" ++ toString i ++ "`") name
  | _ => c.invalidType name

/-- A signed integer from `low` to `high`, named `name` in errors. -/
def signed (name : String) (low high : Int) : Decoder Int := fun c =>
  match c.doc with
  | .number (.ok (.nat n)) .. =>
    if (n : Int) ≤ high then .ok n else c.invalidValue ("integer `" ++ toString n ++ "`") name
  | .number (.ok (.negative i)) .. =>
    if low ≤ i then .ok i else c.invalidValue ("integer `" ++ toString i ++ "`") name
  | _ => c.invalidType name

/-- An unsigned 8-bit integer. -/
def u8 : Decoder Nat := unsigned "u8" 255

/-- An unsigned 32-bit integer. -/
def u32 : Decoder Nat := unsigned "u32" (Nat.pow 2 32 - 1)

/-- An unsigned machine-word integer. -/
def usize : Decoder Nat := unsigned "usize" (Nat.pow 2 64 - 1)

/-- A signed 32-bit integer. -/
def i32 : Decoder Int := signed "i32" (-(Int.pow 2 31)) (Int.pow 2 31 - 1)

/-- A signed 64-bit integer. -/
def i64 : Decoder Int := signed "i64" (-(Int.pow 2 63)) (Int.pow 2 63 - 1)

/-- A value that may be `null`. -/
def optional (d : Decoder α) : Decoder (Option α) := fun c =>
  match c.doc with
  | .null .. => .ok none
  | _ => (d c).map some

/-- An array of values. -/
def list (d : Decoder α) : Decoder (List α) := fun c =>
  match c.doc with
  | .array _ deep items ending => c.within true do
    c.checkDeep deep
    let xs ← items.mapM fun item => d (c.child item)
    let _ ← c.closing ending
    pure xs
  | _ => c.invalidType "a sequence"

/-- Insert into a list of pairs sorted by key, replacing the pair of an equal key. -/
def insertSorted (k : String) (v : α) : List (String × α) → List (String × α)
  | [] => [(k, v)]
  | (k', v') :: rest =>
    if k < k' then (k, v) :: (k', v') :: rest
    else if k = k' then (k, v) :: rest
    else (k', v') :: insertSorted k v rest

/-- An object read as a map from keys to values, sorted by key, the last of equal keys kept. -/
def map (d : Decoder α) : Decoder (List (String × α)) := fun c =>
  match c.doc with
  | .object _ deep members ending => c.within false do
    c.checkDeep deep
    let acc ← foldEach members [] fun acc (k, _, v) => do
      let key ← c.key k
      let x ← d (c.child v)
      pure (insertSorted key x acc)
    let _ ← c.closing ending
    pure acc
  | _ => c.invalidType "a map"

/-- An array read as a sorted set of strings. -/
def stringSet : Decoder (List String) := fun c => do
  let xs ← list string c
  pure (xs.foldl (fun acc x => (insertSorted x () acc)) [] |>.map (·.1))

end Decoder

/-- How one key of a record enters the record's draft. -/
structure Field (σ : Type) where
  key : String
  read : σ → Cursor → Except DecodeError σ
  /-- The field has a default, so a short array may leave it out. -/
  defaulted : Bool

/-- A field without a default. -/
def Field.required (key : String) (read : σ → Cursor → Except DecodeError σ) : Field σ :=
  ⟨key, read, false⟩

/-- A field with a default. -/
def Field.withDefault (key : String) (read : σ → Cursor → Except DecodeError σ) : Field σ :=
  ⟨key, read, true⟩

/-- A field read by a decoder and stored into the draft by `store`. -/
def Field.of (key : String) (defaulted : Bool) (d : Decoder α) (store : σ → α → σ) : Field σ :=
  ⟨key, fun s c => (d c).map (store s ·), defaulted⟩

namespace Decoder

/-- The text of an expected length in content: `1 element in sequence`, `n elements ...`. -/
def inSequence (n : Nat) : String :=
  if n = 1 then "1 element in sequence" else toString n ++ " elements in sequence"

/-- The error of an array with items left over once a record was read from it. -/
def leftover (c : Cursor) (consumed : Nat) (total : Nat) (lastStop : Nat) : Except DecodeError Unit :=
  match c.mode with
  | .text bytes =>
    let t := JsonText.skipSpace bytes lastStop
    match JsonText.byteAt bytes t with
    | some 0x2C =>
      let u := JsonText.skipSpace bytes (t + 1)
      if JsonText.byteAt bytes u == some 0x5D then .error (c.fault (JsonText.peekFault bytes .trailingComma u))
      else .error (c.fault (JsonText.peekFault bytes .trailingCharacters u))
    | _ => .ok ()
  | .content o =>
    .error ⟨"invalid length " ++ toString total ++ ", expected " ++ inSequence consumed, .pending o⟩
  | .value =>
    .error ⟨"invalid length " ++ toString total ++ ", expected fewer elements in array", .pending 0⟩

/-- A record read from the fields of an array, in order. -/
def recordItems (expecting : String) (fields : List (Field σ)) (state : σ) (c : Cursor)
    (items : List Doc) (closeAt : Except DecodeError Nat) (index : Nat) (lastStop : Nat) :
    Except DecodeError (σ × Nat × List Doc × Nat) :=
  match fields with
  | [] => .ok (state, index, items, lastStop)
  | f :: fs =>
    match items with
    | item :: more => do
      let state ← f.read state (c.child item)
      recordItems expecting fs state c more closeAt (index + 1) item.stop
    | [] =>
      if f.defaulted then recordItems expecting fs state c [] closeAt (index + 1) lastStop
      else do
        let closeOff ← closeAt
        throw (c.errorPending ("invalid length " ++ toString index ++ ", expected " ++ expecting) closeOff)

/-- `1 element`, `n elements`. -/
def elementCount (n : Nat) : String :=
  if n = 1 then "1 element" else toString n ++ " elements"

/-- A record (`name` is how messages call it, such as `struct Question`): from an object, key by key (a key given twice is refused, an unknown key is
skipped, or refused when `closed`), then `finish` checks what is missing; or from an array
listing the fields in order. -/
def record (name : String) (fields : List (Field σ)) (init : σ)
    (finish : σ → Except String α) (closed : Bool) : Decoder α := fun c =>
  match c.doc with
  | .object _ deep members ending => c.within false do
    c.checkDeep deep
    let (state, _) ← foldEach members (init, ([] : List String))
      fun (state, seen) (k, keyStop, v) => do
        let key ← c.key k
        match fields.find? (·.key == key) with
        | some f =>
          if seen.contains key then throw (c.errorPending (duplicateFieldMessage key) keyStop)
          let state ← f.read state (c.child v)
          pure (state, key :: seen)
        | none =>
          if closed then
            throw (c.errorPending (unknownFieldMessage key (fields.map (·.key))) keyStop)
          c.skip v
          pure (state, seen)
    let close ← c.closing ending
    match finish state with
    | .ok a => pure a
    | .error m => throw (c.errorPending m close)
  | .array start deep items ending => c.within true do
    c.checkDeep deep
    let expecting := name ++ " with " ++ elementCount fields.length
    let (state, consumed, rest, lastStop) ←
      recordItems expecting fields init c items (c.closing ending) 0 (start + 1)
    let a ← match finish state with
      | .ok a => pure a
      | .error m => throw (c.errorPending m lastStop)
    if rest.isEmpty then
      let _ ← c.closing ending
      pure a
    else do
      leftover c consumed items.length lastStop
      pure a
  | _ => c.invalidType name

/-- A record whose named fields are read from an object as they come, while every other
member is buffered; once the object is closed and `finish` has the named fields, `flat` reads
the buffered members as one object of content. -/
def flatRecord (name : String) (fields : List (Field σ)) (init : σ)
    (finish : σ → Except String β) (flat : β → Decoder α) : Decoder α := fun c =>
  match c.doc with
  | .object _ deep members ending => c.within false do
    c.checkDeep deep
    let (state, _, rest) ← foldEach members
      (init, ([] : List String), ([] : List (Except ReadFault String × Nat × Doc)))
      fun (state, seen, rest) (k, keyStop, v) => do
        let key ← c.key k
        match fields.find? (·.key == key) with
        | some f =>
          if seen.contains key then throw (c.errorPending (duplicateFieldMessage key) keyStop)
          let state ← f.read state (c.child v)
          pure (state, key :: seen, rest)
        | none => do
          c.buffer v
          pure (state, seen, (k, keyStop, v) :: rest)
    let close ← c.closing ending
    match finish state with
    | .error m => throw (c.errorPending m close)
    | .ok b => flat b ⟨.object 0 none rest.reverse (.closed 0), c.contentMode close⟩
  | _ => c.invalidType name

/-- A variant named by a string; inside content an unsigned integer names a variant by its
index. Gives the variant's index. -/
def variantIndex (variants : List String) : Decoder Nat := fun c =>
  match c.doc with
  | .string (.ok s) .. =>
    match variants.idxOf? s with
    | some i => .ok i
    | none => c.custom (unknownVariantMessage s variants)
  | .number (.ok (.nat n)) .. =>
    match c.mode with
    | .content _ =>
      if n < variants.length then .ok n
      else c.invalidValue ("integer `" ++ toString n ++ "`")
        ("variant index 0 <= i < " ++ toString variants.length)
    | _ => c.invalidType "variant identifier"
  | _ => c.invalidType "variant identifier"

end Decoder

/-- How the value of one variant of an enumeration is read. -/
inductive VariantReader (α : Type) where
  /-- A variant without data. -/
  | unit (value : α)
  /-- A variant holding one value. -/
  | newtype (read : Decoder α)

namespace Decoder

/-- The unit value `null`, as the content of a variant without data. -/
def unitContent (expecting : String) : Decoder Unit := fun c =>
  match c.doc with
  | .null .. => .ok ()
  | _ => c.invalidType expecting

/-- An enumeration written as the variant's name (for a variant without data) or as an object
with the variant's name as its only key. -/
def external (variants : List (String × VariantReader α)) : Decoder α := fun c =>
  let names := variants.map (·.1)
  let pick (i : Nat) : Except DecodeError (VariantReader α) :=
    match variants[i]? with
    | some (_, r) => .ok r
    | none => c.invalidType "variant identifier"
  match c.doc with
  | .string .. => do
    let i ← variantIndex names c
    match ← pick i with
    | .unit a => pure a
    | .newtype _ =>
      throw (c.errorPending "invalid type: unit variant, expected newtype variant" c.doc.stop)
  | .object start deep members ending =>
    match c.mode with
    | .text bytes => do
      c.checkDeep deep
      match members with
      | [] =>
        let _ ← c.closing ending
        throw (c.fault (JsonText.peekFault bytes .expectedValue (JsonText.skipSpace bytes (start + 1))))
      | (k, keyStop, v) :: _ => do
        let key ← c.key k
        let i ← variantIndex names (c.child (.string (.ok key) keyStop keyStop))
        let a ← match ← pick i with
          | .unit a => do unitContent "unit" (c.child v); pure a
          | .newtype read => read (c.child v)
        let t := JsonText.skipSpace bytes v.stop
        match JsonText.byteAt bytes t with
        | some 0x7D => pure a
        | some _ => throw (c.fault ⟨.expectedValue, t⟩)
        | none => throw (c.fault ⟨.eofObject, t⟩)
    | _ =>
      match members with
      | [(k, _, v)] => do
        let key ← c.key k
        let i ← variantIndex names (c.child (.string (.ok key) 0 0))
        match ← pick i with
        | .unit a => do unitContent "unit" (c.child v); pure a
        | .newtype read => read (c.child v)
      | _ => c.invalidValue "map" "map with a single key"
  | _ =>
    match c.mode with
    | .text bytes => throw (c.fault (JsonText.peekFault bytes .expectedValue c.doc.start))
    | _ => c.invalidType "string or map"

/-- An enumeration tagged inside its object: the member `tag` names the variant, and the other
members, buffered, are read by the variant's reader in content mode. -/
def internal (enumName tag : String) (variants : List (String × Decoder α)) : Decoder α := fun c =>
  let names := variants.map (·.1)
  let expecting := "internally tagged enum " ++ enumName
  match c.doc with
  | .object _ deep members ending => do
    let (found, rest, stop) ← c.within false do
      c.checkDeep deep
      let (found, rest) ← foldEach members ((none : Option Nat), ([] : List (Except ReadFault String × Nat × Doc)))
        fun (found, rest) (k, keyStop, v) => do
          let key ← c.key k
          if key == tag then
            if found.isSome then throw (c.errorPending (duplicateFieldMessage tag) keyStop)
            let i ← variantIndex names (c.child v)
            pure (some i, rest)
          else do
            c.buffer v
            pure (found, (k, keyStop, v) :: rest)
      let close ← c.closing ending
      match found with
      | none => throw (c.errorPending (missingFieldMessage tag) close)
      | some i => pure (i, rest.reverse, close + 1)
    let content : Cursor := ⟨.object 0 none rest (.closed 0), c.contentMode stop⟩
    match variants[found]? with
    | some (_, read) => read content
    | none => c.invalidType expecting
  | .array _ deep items ending => do
    let (found, rest, stop) ← c.within true do
      c.checkDeep deep
      match items with
      | [] =>
        let close ← c.closing ending
        throw (c.errorPending (missingFieldMessage tag) close)
      | first :: more => do
        let i ← variantIndex names (c.child first)
        more.forM (c.buffer ·)
        let close ← c.closing ending
        pure (i, more, close + 1)
    let content : Cursor := ⟨.array 0 none rest (.closed 0), c.contentMode stop⟩
    match variants[found]? with
    | some (_, read) => read content
    | none => c.invalidType expecting
  | _ => c.invalidType expecting

/-- The next member whose key is the tag or the content key, skipping the others. -/
def nextRelevant (c : Cursor) (tag contentKey : String) :
    List (Except ReadFault String × Nat × Doc) →
      Except DecodeError (Option (Bool × Nat × Doc × List (Except ReadFault String × Nat × Doc)))
  | [] => .ok none
  | (k, keyStop, v) :: rest => do
    let key ← c.key k
    if key == tag then pure (some (true, keyStop, v, rest))
    else if key == contentKey then pure (some (false, keyStop, v, rest))
    else do
      c.skip v
      nextRelevant c tag contentKey rest

/-- The tag of an enumeration tagged beside its content, read as an enumeration whose variants
carry no data: a variant's name, or an object whose one key names it and whose value is `null`.
Gives the variant's index. -/
def tagIndex (names : List String) : Decoder Nat :=
  external (names.zipIdx.map fun (name, i) => (name, .unit i))

/-- The name a variant has in messages, from its tag: the tags are the names in snake case,
so each word of the tag starts with a capital and the underscores go. -/
def variantName (tag : String) : String :=
  String.join ((tag.splitOn "_").map String.capitalize)

/-- Read the content of an adjacently tagged variant. -/
def adjacentContent (enumName : String) (variant : String × VariantReader α) : Decoder α :=
  fun c =>
    match variant.2 with
    | .unit a => do
      unitContent ("unit variant " ++ enumName ++ "::" ++ variantName variant.1) c
      pure a
    | .newtype read => read c

/-- After the content: refuse a repeated tag or content key. -/
def adjacentRest (c : Cursor) (tag contentKey : String)
    (rest : List (Except ReadFault String × Nat × Doc)) : Except DecodeError Unit := do
  match ← nextRelevant c tag contentKey rest with
  | none => pure ()
  | some (true, keyStop, _, _) => throw (c.errorPending (duplicateFieldMessage tag) keyStop)
  | some (false, keyStop, _, _) => throw (c.errorPending (duplicateFieldMessage contentKey) keyStop)

/-- An enumeration tagged beside its content: the member `tag` names the variant and the
member `contentKey` holds its value; other members are skipped. The content is read as it
comes when the tag precedes it, and buffered first otherwise. -/
def adjacent (enumName tag contentKey : String) (variants : List (String × VariantReader α))
    (variantNames : List String) : Decoder α := fun c =>
  let expecting := "adjacently tagged enum " ++ enumName
  let variantAt (i : Nat) : Except DecodeError (String × VariantReader α) :=
    match variants[i]? with
    | some v => .ok v
    | none => c.invalidType expecting
  match c.doc with
  | .object _ deep members ending => c.within false do
    c.checkDeep deep
    let close := c.closing ending
    match ← nextRelevant c tag contentKey members with
    | none => do
      let closeOff ← close
      throw (c.errorPending (missingFieldMessage tag) closeOff)
    | some (true, _, tagDoc, rest) => do
      let v ← variantAt (← tagIndex variantNames (c.child tagDoc))
      match ← nextRelevant c tag contentKey rest with
      | none => do
        let closeOff ← close
        match v.2 with
        | .unit a => pure a
        | .newtype _ => throw (c.errorPending (missingFieldMessage contentKey) closeOff)
      | some (true, keyStop, _, _) => throw (c.errorPending (duplicateFieldMessage tag) keyStop)
      | some (false, _, contentDoc, rest) => do
        let a ← adjacentContent enumName v (c.child contentDoc)
        adjacentRest c tag contentKey rest
        let _ ← close
        pure a
    | some (false, _, contentDoc, rest) => do
      c.buffer contentDoc
      match ← nextRelevant c tag contentKey rest with
      | none => do
        let closeOff ← close
        throw (c.errorPending (missingFieldMessage tag) closeOff)
      | some (false, keyStop, _, _) =>
        throw (c.errorPending (duplicateFieldMessage contentKey) keyStop)
      | some (true, _, tagDoc, rest) => do
        let v ← variantAt (← tagIndex variantNames (c.child tagDoc))
        let a ← adjacentContent enumName v ⟨contentDoc, c.contentMode tagDoc.stop⟩
        adjacentRest c tag contentKey rest
        let _ ← close
        pure a
  | .array _ deep items ending => c.within true do
    c.checkDeep deep
    match items with
    | [] => do
      let closeOff ← c.closing ending
      throw (c.errorPending ("invalid length 0, expected " ++ expecting) closeOff)
    | [first] => do
      let _ ← variantAt (← tagIndex variantNames (c.child first))
      let closeOff ← c.closing ending
      throw (c.errorPending ("invalid length 1, expected " ++ expecting) closeOff)
    | first :: second :: more => do
      let v ← variantAt (← tagIndex variantNames (c.child first))
      let a ← adjacentContent enumName v (c.child second)
      if more.isEmpty then
        let _ ← c.closing ending
        pure a
      else do
        leftover c 2 items.length second.stop
        pure a
  | _ => c.invalidType expecting

/-- An enumeration without tags: the value is buffered and each reader is tried in turn on the
buffered content; the first that succeeds gives the value. -/
def untagged (enumName : String) (readers : List (Decoder α)) : Decoder α := fun c => do
  c.buffer c.doc
  let content : Cursor := ⟨c.doc, c.contentMode c.doc.stop⟩
  match readers.findSome? fun r => (r content).toOption with
  | some a => pure a
  | none =>
    throw (c.errorPending ("data did not match any variant of untagged enum " ++ enumName)
      c.doc.stop)

/-- A pair, read from an array of two items. -/
def pair (da : Decoder α) (db : Decoder β) : Decoder (α × β) := fun c =>
  let expecting := "a tuple of size 2"
  match c.doc with
  | .array _ deep items ending => c.within true do
    c.checkDeep deep
    match items with
    | [] => do
      let closeOff ← c.closing ending
      throw (c.errorPending ("invalid length 0, expected " ++ expecting) closeOff)
    | [x] => do
      let _ ← da (c.child x)
      let closeOff ← c.closing ending
      throw (c.errorPending ("invalid length 1, expected " ++ expecting) closeOff)
    | x :: y :: more => do
      let a ← da (c.child x)
      let b ← db (c.child y)
      if more.isEmpty then
        let _ ← c.closing ending
        pure (a, b)
      else do
        leftover c 2 items.length y.stop
        pure (a, b)
  | _ => c.invalidType expecting

end Decoder

/-- Decode a value from JSON text: faults and errors are given with their position, and text
after the value is refused. -/
def decodeText (d : Decoder α) (text : String) : Except String α :=
  let doc := JsonDocument.read text
  let describe (e : DecodeError) : String :=
    match e.placement with
    | .placed offset => placedMessage doc.bytes e.message offset
    | .pending _ => e.message
  match d ⟨doc.root, .text doc.bytes⟩ with
  | .error e => .error (describe e)
  | .ok a =>
    match doc.trailing with
    | some f => .error (f.describe doc.bytes)
    | none => .ok a

/-- Decode a value from a JSON value; errors have no position. -/
def decodeValue (d : Decoder α) (json : Json) : Except String α :=
  match d ⟨Doc.ofJson json, .value⟩ with
  | .error e => .error e.message
  | .ok a => .ok a

end Survey
