import Survey.Engine.Core

/-!
# Scripted respondents

A script gives the edits to submit on some pages, by block. Running it starts at the first
block and submits each block the engine routes to, with the script's edits for it (none when
the script has no page for it), until the summary. The run stops at the first rejected
submission, or should routing come back to a block already visited.

Scripts are written as `{"pages":[{"block":id,"edits":{slot: edit}}]}`; `pages` and `edits`
may be absent.
-/

namespace Survey

/-- The edits given on one page. -/
structure Page where
  block : BlockId
  edits : Entries Edit
  deriving Repr

/-- A respondent replaying pre-set answers. -/
structure Script where
  pages : List Page
  deriving Repr, Inhabited

/-- What happened during a run. -/
structure ScriptRun where
  session : SessionId
  /-- Every block visited, in order. -/
  visited : List Location
  submissions : List (BlockId × Submission)
  /-- Whether the run reached the summary. -/
  completed : Bool
  deriving Repr

/-- Why a run stopped short. -/
inductive ScriptStop where
  | rejected (block : BlockId) (errors : List ValidationError)
  /-- Routing came back to a block already visited. -/
  | stalled (block : BlockId)
  deriving Repr

namespace Script

/-- No pages. -/
def empty : Script := ⟨[]⟩

/-- Change the page of a block, adding it at the end if the script has none. -/
def updatePage (s : Script) (block : BlockId) (f : Entries Edit → Entries Edit) : Script :=
  if s.pages.any (·.block == block) then
    ⟨s.pages.map fun p => if p.block == block then { p with edits := f p.edits } else p⟩
  else ⟨s.pages ++ [⟨block, f []⟩]⟩

/-- Set a block's page to these edits. -/
def withPage (s : Script) (block : BlockId) (edits : Entries Edit) : Script :=
  s.updatePage block fun _ => edits

/-- Add one answer to a block's page. -/
def withAnswer (s : Script) (block : BlockId) (slot : SlotId) (value : AnswerValue) : Script :=
  s.updatePage block fun edits => edits.insert slot (.set value)

/-- The edits for a block: those of its first page, or none. -/
def editsFor (s : Script) (block : BlockId) : Entries Edit :=
  ((s.pages.find? (·.block == block)).map (·.edits)).getD []

/-- Submit blocks from `current` on; `fuel` bounds the run by the number of blocks. -/
def runFrom (s : Script) (id : SessionId) : Nat → ScriptRun → Location →
    EngineM (Except ScriptStop ScriptRun)
  | 0, _, current => pure (.error (.stalled current.block))
  | fuel + 1, run, current => do
    if run.visited.any (·.block == current.block) then return .error (.stalled current.block)
    let run := { run with visited := run.visited ++ [current] }
    let submission ← Engine.submitBlock id current.block (s.editsFor current.block)
    if !submission.isAccepted then return .error (.rejected current.block submission.errors)
    let run := { run with submissions := run.submissions ++ [(current.block, submission)] }
    match submission.next with
    | some (.block l) => s.runFrom id fuel run l
    | _ => return .ok { run with completed := true }

/-- Run the script in an existing session, from the first block. -/
def runIn (s : Script) (id : SessionId) : EngineM (Except ScriptStop ScriptRun) := do
  let q ← Engine.served
  s.runFrom id (q.locations.length + 1) ⟨id, [], [], false⟩ q.firstLocation

/-- Run the script in a new session. -/
def run (s : Script) : EngineM (Except ScriptStop ScriptRun) := do
  s.runIn (← Engine.startSession)

/-- A page as JSON. -/
def pageJson (p : Page) : Json :=
  .object [("block", .string p.block), ("edits", draftsJson p.edits)]

/-- A page read from its block and edits. -/
def pageDecoder : Decoder Page :=
  Decoder.record "struct Page"
    [Field.of "block" false Decoder.string fun (_, e) b => (some b, e),
     Field.of "edits" true (Decoder.map Edit.decoder) fun (b, _) e => (b, e)]
    ((none : Option BlockId), ([] : Entries Edit))
    (fun (b, e) => do pure ⟨← need "block" b, e⟩) false

/-- A script read from its pages. -/
def decoder : Decoder Script :=
  Decoder.record "struct ScriptedRespondent"
    [Field.of "pages" true (Decoder.list pageDecoder) fun _ v => v] [] (fun v => .ok ⟨v⟩) false

end Script

end Survey
