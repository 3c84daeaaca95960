import Survey.Exclusive.Json
import Survey.Rule.Json
import Survey.Routing.Progress

/-!
# Sessions and snapshots

A session is everything known about one respondent: the answers, the drafts (uncommitted
keystrokes), the totals recorded at submission, and the submitted blocks. Drafts live only in
memory; the durable form of a session, its snapshot, leaves them out and names the snapshot's
format version and the questionnaire the answers belong to.

A snapshot is written as one JSON object, `version` and `questionnaire` first, then the
session's `answers`, `totals` and `progress`; read back, `totals` and `progress` may be absent.
-/

namespace Survey

/-- Identifies a respondent session. -/
structure SessionId where
  serial : Nat
  deriving DecidableEq, Repr, Inhabited

/-- Everything the engine knows about one respondent. -/
structure Session where
  answers : AnswerStore
  /-- Uncommitted keystrokes; never part of a snapshot. -/
  drafts : Drafts
  totals : CalculatedTotals
  progress : ProgressStore
  deriving Repr, Inhabited

/-- A session with nothing in it. -/
def Session.empty : Session := ⟨.empty, [], .empty, .empty⟩

/-- The current snapshot format. -/
def snapshotVersion : Nat := 1

/-- The durable form of a session. -/
structure SessionSnapshot where
  version : Nat
  /-- The id of the questionnaire the answers belong to. -/
  questionnaire : String
  session : Session
  deriving Repr

namespace ProgressStore

/-- Progress as JSON. -/
def toJson (p : ProgressStore) : Json := .object [("submitted", .array (p.submitted.map .string))]

/-- Progress read from its submitted blocks. -/
def decoder : Decoder ProgressStore :=
  Decoder.record "struct ProgressStore"
    [Field.of "submitted" false Decoder.stringSet fun _ v => some v] none
    (fun v => do pure ⟨← need "submitted" v⟩) false

end ProgressStore

namespace Session

/-- The session's members of a snapshot, in order. -/
def members (s : Session) : List (String × Json) :=
  [("answers", s.answers.toJson), ("totals", s.totals.toJson), ("progress", s.progress.toJson)]

/-- A session read from its members; drafts start empty. -/
def decoder : Decoder Session :=
  Decoder.record "struct Session"
    [Field.of "answers" false AnswerStore.decoder fun (_, t, p) a => (some a, t, p),
     Field.of "totals" true CalculatedTotals.decoder fun (a, _, p) t => (a, t, p),
     Field.of "progress" true ProgressStore.decoder fun (a, t, _) p => (a, t, p)]
    ((none : Option AnswerStore), CalculatedTotals.empty, ProgressStore.empty)
    (fun (a, t, p) => do pure ⟨← need "answers" a, [], t, p⟩) false

end Session

namespace SessionSnapshot

/-- A snapshot of a session for a questionnaire, in the current format. -/
def ofSession (questionnaire : String) (s : Session) : SessionSnapshot :=
  ⟨snapshotVersion, questionnaire, s⟩

/-- A snapshot as JSON. -/
def toJson (s : SessionSnapshot) : Json :=
  .object ([("version", .ofNat s.version), ("questionnaire", .string s.questionnaire)] ++
    s.session.members)

/-- A snapshot as compact JSON text. -/
def toText (s : SessionSnapshot) : String := Json.render s.toJson

/-- A snapshot read from its version, questionnaire and session members. -/
def decoder : Decoder SessionSnapshot :=
  Decoder.flatRecord "struct SessionSnapshot"
    [Field.of "version" false Decoder.u32 fun (_, q) v => (some v, q),
     Field.of "questionnaire" false Decoder.string fun (v, _) q => (v, some q)]
    ((none : Option Nat), (none : Option String))
    (fun (v, q) => do pure (← need "version" v, ← need "questionnaire" q))
    fun (v, q) c => (Session.decoder c).map fun s => ⟨v, q, s⟩

end SessionSnapshot

end Survey
