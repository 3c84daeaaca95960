import Survey.Engine.Session

/-!
# The session store

Where snapshots of sessions are kept between submissions: as JSON text, one per session, so
that loading reads them back exactly as a separate process would. Each of the store's three
operations can be told to fail (as a store backed by a disk or a network may), with the reason
`commit refused`, `load refused` or `remove refused`; a store that is never told so is a plain
in-memory store.
-/

namespace Survey

/-- Snapshots by session, kept as JSON text, and which operations fail. -/
structure SnapshotStore where
  snapshots : List (SessionId × String)
  failCommit : Bool
  failLoad : Bool
  failRemove : Bool
  deriving Repr, Inhabited

namespace SnapshotStore

/-- An empty store whose operations all succeed. -/
def empty : SnapshotStore := ⟨[], false, false, false⟩

/-- The number of stored snapshots. -/
def size (s : SnapshotStore) : Nat := s.snapshots.length

/-- Store a session's snapshot, replacing the one before. -/
def commit (s : SnapshotStore) (id : SessionId) (snapshot : SessionSnapshot) :
    Except String SnapshotStore :=
  if s.failCommit then .error "commit refused"
  else
    let text := snapshot.toText
    if s.snapshots.any (·.1 == id) then
      .ok { s with snapshots := s.snapshots.map fun (k, v) => if k == id then (k, text) else (k, v) }
    else .ok { s with snapshots := s.snapshots ++ [(id, text)] }

/-- A session's snapshot, if one is stored, read back from its text. -/
def load (s : SnapshotStore) (id : SessionId) : Except String (Option SessionSnapshot) :=
  if s.failLoad then .error "load refused"
  else
    match s.snapshots.find? (·.1 == id) with
    | none => .ok none
    | some (_, text) => (decodeText SessionSnapshot.decoder text).map some

/-- Delete a session's snapshot. -/
def remove (s : SnapshotStore) (id : SessionId) : Except String SnapshotStore :=
  if s.failRemove then .error "remove refused"
  else .ok { s with snapshots := s.snapshots.filter (·.1 != id) }

end SnapshotStore

end Survey
