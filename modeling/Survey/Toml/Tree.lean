import Survey.Toml.Numbers

/-!
# TOML documents as trees

A document is a table: keys in the order they were first defined, each holding a value, a
table, or an array of tables. Tables come in two kinds, written inline (`{ a = 1 }`, a value
like any other) or opened by a header (`[a]`) or implied by one (`[a.b]` implies `a`) or by a
dotted key (`a.b = 1` implies `a`). A table remembers whether it was only implied and whether
a dotted key implied it; these decide which later definitions are duplicates:

* a dotted key may extend a table it or another dotted key implied, never one a header opened;
* a header may open a table a header implied, never one defined otherwise;
* a key may be defined once per table, and only values that are tables can be extended.

Everything the reader keeps carries the byte range it was read from, so that a value of the
wrong kind can be pointed at.
-/

namespace Survey

namespace Toml

/-- A range of bytes of the document. -/
structure Span where
  start : Nat
  stop : Nat
  deriving DecidableEq, Repr

/-- One part of a key: its name and where it was written. -/
structure Key where
  name : String
  span : Span
  deriving DecidableEq, Repr

/-- A value that holds no other value. -/
inductive Scalar where
  | string (s : String)
  | integer (i : Int)
  | float (f : Float)
  | boolean (b : Bool)
  /-- A date, a time, or both; only its kind matters here. -/
  | datetime
  deriving DecidableEq, Repr

/-- A node of a document. -/
inductive Item where
  | scalar (v : Scalar) (span : Span)
  | array (items : List Item) (span : Span)
  /-- An inline table; implied ones have no span. -/
  | inline (entries : List (Key × Item)) (implied dotted : Bool) (span : Option Span)
  /-- A table opened or implied by a header or a dotted key. -/
  | table (entries : List (Key × Item)) (implied dotted : Bool) (span : Option Span)
  /-- An array of tables. -/
  | tables (list : List Item) (span : Option Span)
  deriving Repr, Inhabited

/-- The entries of a table and how it came to be. -/
structure Table where
  entries : List (Key × Item)
  implied : Bool
  dotted : Bool
  span : Option Span
  deriving Repr, Inhabited

/-- Why a definition does not fit the tables defined before it. -/
inductive TableError where
  /-- A key defined twice, with the path of its table when it is known. -/
  | duplicate (key : String) (table : Option (List String))
  /-- A dotted key or header that would extend a value that is not a table. -/
  | notTable (path : List String) (kind : String)
  deriving DecidableEq, Repr

/-- The error's text. -/
def TableError.message : TableError → String
  | .duplicate key none => "duplicate key `" ++ key ++ "`"
  | .duplicate key (some []) => "duplicate key `" ++ key ++ "` in document root"
  | .duplicate key (some path) => "duplicate key `" ++ key ++ "` in table `" ++ ".".intercalate path ++ "`"
  | .notTable path kind =>
    "dotted key `" ++ ".".intercalate path ++ "` attempted to extend non-table type (" ++ kind ++ ")"

namespace Item

/-- The range an item was read from, when it has one. -/
def span? : Item → Option Span
  | .scalar _ sp | .array _ sp => some sp
  | .inline _ _ _ sp | .table _ _ _ sp | .tables _ sp => sp

/-- The name of a value's kind. -/
def kindName : Item → String
  | .scalar (.string _) _ => "string"
  | .scalar (.integer _) _ => "integer"
  | .scalar (.float _) _ => "float"
  | .scalar (.boolean _) _ => "boolean"
  | .scalar .datetime _ => "datetime"
  | .array .. => "array"
  | .inline .. => "inline table"
  | .table .. => "table"
  | .tables .. => "array of tables"

end Item

/-- The item under a name. -/
def lookupKey (entries : List (Key × Item)) (name : String) : Option Item :=
  (entries.find? (·.1.name == name)).map (·.2)

/-- Replace the item under a name, keeping its place. -/
def replaceKey (entries : List (Key × Item)) (name : String) (item : Item) : List (Key × Item) :=
  entries.map fun (k, v) => if k.name == name then (k, item) else (k, v)

/-- Remove a name, closing the gap. -/
def removeKey (entries : List (Key × Item)) (name : String) : List (Key × Item) :=
  entries.filter (·.1.name != name)

namespace Table

/-- A table with nothing in it, opened explicitly. -/
def empty : Table := ⟨[], false, false, none⟩

/-- The table as a document node. -/
def item (t : Table) : Item := .table t.entries t.implied t.dotted t.span

/-- The table as an inline value. -/
def inlineItem (t : Table) : Item := .inline t.entries t.implied t.dotted t.span

/-- The item under a name. -/
def lookup (t : Table) (name : String) : Option Item := lookupKey t.entries name

/-- Add an entry at the end. -/
def append (t : Table) (key : Key) (item : Item) : Table := { t with entries := t.entries ++ [(key, item)] }

/-- Replace an entry's item, or add the entry at the end. -/
def put (t : Table) (key : Key) (item : Item) : Table :=
  if (t.lookup key.name).isSome then { t with entries := replaceKey t.entries key.name item }
  else t.append key item

/-- Remove an entry. -/
def remove (t : Table) (name : String) : Table := { t with entries := removeKey t.entries name }

end Table

/-- The names of the first `n` parts of a path. -/
def pathNames (path : List Key) (n : Nat) : List String := (path.take n).map (·.name)

/-- Whether a name can be written as a bare key: one or more ASCII letters, digits, `_` and
`-`. -/
def isBareName (name : String) : Bool :=
  !name.isEmpty && name.all fun c => c.isAlphanum || c == '_' || c == '-'

/-- A character inside a basic string: backspace, tab, line feed, form feed, carriage return,
the quote and the backslash by their short escapes, the other controls as `\u` and four
uppercase hex digits, anything else as itself. -/
def basicChar (c : Char) : String :=
  if c == '\x08' then "\\b"
  else if c == '\t' then "\\t"
  else if c == '\n' then "\\n"
  else if c == '\x0c' then "\\f"
  else if c == '\r' then "\\r"
  else if c == '"' then "\\\""
  else if c == '\\' then "\\\\"
  else if c.toNat ≤ 0x1F || c.toNat == 0x7F then
    let hex := (Nat.toDigits 16 c.toNat).map Char.toUpper
    "\\u" ++ String.ofList (List.replicate (4 - hex.length) '0' ++ hex)
  else c.toString

/-- A key as messages write it: bare when it can be, otherwise as a basic string. -/
def keyText (name : String) : String :=
  if isBareName name then name else "\"" ++ String.join (name.toList.map basicChar) ++ "\""

/-- A duplicate header: the `i`-th part of the path, in the table of the parts before it. -/
def duplicateAt (path : List Key) (i : Nat) : TableError :=
  .duplicate ((path[i]?.map (keyText ·.name)).getD "") (some (pathNames path i))

/-- Follow a path of keys down from a table, implying the tables that are missing, and change
the table at its end. `whole` is the full path and `depth` the number of parts followed so
far, for messages. With `dotted`, the path is a dotted key, which may not enter a table a
header opened. Arrays of tables are entered at their last table. -/
def descend (dotted : Bool) (whole : List Key) (leaf : Table → Except TableError (Table × β)) :
    Table → List Key → Nat → Except TableError (Table × β)
  | t, [], _ => leaf t
  | t, k :: rest, depth =>
    let child := (t.lookup k.name).getD (.table [] true dotted none)
    match child with
    | .table entries implied isDotted span =>
      if dotted && !implied then .error (.duplicate k.name none)
      else do
        let (inner, out) ← descend dotted whole leaf ⟨entries, implied, isDotted, span⟩ rest (depth + 1)
        pure (t.put k inner.item, out)
    | .tables list span =>
      let last : Table := match list.getLast? with
        | some (.table entries implied isDotted sp) => ⟨entries, implied, isDotted, sp⟩
        | _ => Table.empty
      do
        let (inner, out) ← descend dotted whole leaf last rest (depth + 1)
        pure (t.put k (.tables (list.dropLast ++ [inner.item]) span), out)
    | other => .error (.notTable (pathNames whole (depth + 1)) other.kindName)

/-- Follow a dotted key down an inline table, implying the inline tables that are missing. -/
def descendInline (whole : List Key) (leaf : Table → Except TableError (Table × β)) :
    Table → List Key → Nat → Except TableError (Table × β)
  | t, [], _ => leaf t
  | t, k :: rest, depth =>
    let child := (t.lookup k.name).getD (.inline [] true true none)
    match child with
    | .inline entries implied isDotted span =>
      if !implied then .error (.duplicate k.name none)
      else do
        let (inner, out) ← descendInline whole leaf ⟨entries, implied, isDotted, span⟩ rest (depth + 1)
        pure (t.put k inner.inlineItem, out)
    | other => .error (.notTable (pathNames whole (depth + 1)) other.kindName)

/-- The inline table a list of key paths and values defines. -/
def Table.ofInlinePairs (pairs : List (List Key × Key × Item)) : Except TableError Table :=
  pairs.foldlM (fun root (path, key, value) => do
    let (root, _) ← descendInline path (fun t =>
      if t.dotted == path.isEmpty then .error (.duplicate key.name none)
      else if (t.lookup key.name).isSome then .error (.duplicate key.name none)
      else .ok (t.append key value, ())) root path 0
    pure root) Table.empty

/-- What the reader has built so far: the finished part of the document, and the table the
lines being read go into (the document's own table before the first header). -/
structure Builder where
  root : Table
  current : Table
  currentIsArray : Bool
  currentPath : List Key
  deriving Repr, Inhabited

namespace Builder

/-- Nothing read yet. -/
def start : Builder := ⟨Table.empty, { Table.empty with span := some ⟨0, 0⟩ }, false, []⟩

/-- Add `path = value` under the current table; `path` is the dotted key with its last part
`key` taken off. -/
def keyValue (b : Builder) (path : List Key) (key : Key) (value : Item) : Except TableError Builder := do
  let current := match b.current.span, value.span? with
    | some existing, some v => { b.current with span := some ⟨existing.start, v.stop⟩ }
    | _, _ => b.current
  let (current, _) ← descend true path (fun t =>
    if t.dotted == path.isEmpty then .error (.duplicate key.name none)
    else if (t.lookup key.name).isSome then
      .error (.duplicate key.name (some (b.currentPath.map (·.name))))
    else .ok (t.append key value, ())) current path 0
  pure { b with current }

/-- Put the current table where its header says. -/
def finish (b : Builder) : Except TableError Builder := do
  let table := b.current
  let path := b.currentPath
  let b := { b with current := Table.empty, currentPath := [] }
  match path.getLast? with
  | none => pure { b with root := table }
  | some last =>
    let parentPath := path.dropLast
    let i := path.length - 1
    let (root, _) ← descend false path (fun parent =>
      if b.currentIsArray then
        match parent.lookup last.name with
        | none => .ok (parent.append last (.tables [table.item] table.span), ())
        | some (.tables list _) =>
          let list := list ++ [table.item]
          let span := match (list.head?.bind Item.span?), (list.getLast?.bind Item.span?) with
            | some first, some lastSpan => some ⟨first.start, lastSpan.stop⟩
            | _, _ => none
          .ok (parent.put last (.tables list span), ())
        | some _ => .error (duplicateAt path i)
      else
        match parent.lookup last.name with
        | some (.table _ true _ _) => .ok (parent.put last table.item, ())
        | some _ => .error (duplicateAt path i)
        | none => .ok (parent.append last table.item, ())) b.root parentPath 0
    pure { b with root }

/-- Open the table a `[path]` header names, read from `span`. -/
def openTable (b : Builder) (path : List Key) (span : Span) : Except TableError Builder := do
  let b ← b.finish
  let last := (path.getLast?).getD ⟨"", ⟨0, 0⟩⟩
  let (root, adopted) ← descend false path (fun parent =>
    match parent.lookup last.name with
    | none => .ok (parent, none)
    | some (.table entries true false sp) => .ok (parent.remove last.name, some (Table.mk entries true false sp))
    | some _ => .error (duplicateAt path (path.length - 1))) b.root path.dropLast 0
  let current := adopted.getD b.current
  pure
    { b with
      root
      current := { current with implied := false, dotted := false, span := some span }
      currentIsArray := false
      currentPath := path }

/-- Open a new table of the array a `[[path]]` header names, read from `span`. -/
def openArrayTable (b : Builder) (path : List Key) (span : Span) : Except TableError Builder := do
  let b ← b.finish
  let last := (path.getLast?).getD ⟨"", ⟨0, 0⟩⟩
  let (root, _) ← descend false path (fun parent =>
    match parent.lookup last.name with
    | none => .ok (parent.append last (.tables [] none), ())
    | some (.tables ..) => .ok (parent, ())
    | some _ => .error (duplicateAt path (path.length - 1))) b.root path.dropLast 0
  pure
    { b with
      root
      current := { Table.empty with span := some span }
      currentIsArray := true
      currentPath := path }

end Builder

end Toml

end Survey
