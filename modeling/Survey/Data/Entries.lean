/-!
# Maps and sets keyed by text

A map from text keys is kept as an association list sorted by key, each key at most once:
`Entries.insert` puts a pair in its place (replacing the pair of an equal key), `Entries.erase`
drops a key, and `Entries.lookup` finds one. Listing the pairs gives them in key order, which
is the order every view of the answers is shown in. A set of keys is a sorted list without
repeats, kept the same way.
-/

namespace Survey

/-- A map from text keys, as pairs sorted by key. -/
abbrev Entries (α : Type) := List (String × α)

namespace Entries

/-- The value of a key. -/
def lookup (key : String) : Entries α → Option α
  | [] => none
  | (other, value) :: rest => if key = other then some value else lookup key rest

/-- Whether a key has a value. -/
def contains (key : String) (entries : Entries α) : Bool := (lookup key entries).isSome

/-- Put a pair in its place by key, replacing the pair of an equal key. -/
def insert (key : String) (value : α) : Entries α → Entries α
  | [] => [(key, value)]
  | (other, previous) :: rest =>
    if key = other then (key, value) :: rest
    else if key < other then (key, value) :: (other, previous) :: rest
    else (other, previous) :: insert key value rest

/-- Drop every pair of a key. -/
def erase (key : String) : Entries α → Entries α
  | [] => []
  | (other, value) :: rest => if key = other then erase key rest else (other, value) :: erase key rest

/-- The keys, in order. -/
def keys (entries : Entries α) : List String := entries.map (·.1)

/-- Sorted entries from pairs in any order; of two pairs with one key the later wins. -/
def ofList (pairs : List (String × α)) : Entries α :=
  pairs.foldl (fun acc (k, v) => insert k v acc) []

end Entries

/-- A set of text keys, sorted, without repeats. -/
abbrev KeySet := List String

namespace KeySet

/-- Add a key in its place. -/
def insert (key : String) : KeySet → KeySet
  | [] => [key]
  | other :: rest =>
    if key = other then other :: rest
    else if key < other then key :: other :: rest
    else other :: insert key rest

/-- Remove a key. -/
def erase (key : String) : KeySet → KeySet
  | [] => []
  | other :: rest => if key = other then erase key rest else other :: erase key rest

/-- The sorted set of keys in a list. -/
def ofList (keys : List String) : KeySet := keys.foldl (fun acc k => insert k acc) []

end KeySet

end Survey
