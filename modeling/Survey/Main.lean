import Survey.Replay.Program

/-!
# The replay command

Reads the files the command line names and the two settings variables, runs the replay
command on them, and prints what it prints, exiting with its status. Log lines carry the stamp
`<time>`: the core library has no wall clock.
-/

section

open Survey Replay

/-- Why the system could not read a file. -/
def readFailureOf : IO.Error → ReadFailure
  | .noFileOrDirectory .. => .notFound
  | .inappropriateType _ 20 _ => .notDirectory
  | .inappropriateType _ 21 _ => .isDirectory
  | e => .other (toString e)

/-- The content of a file, or why it could not be read. -/
def readPath (path : String) : IO (Except ReadFailure String) := do
  try pure (.ok (← IO.FS.readFile path))
  catch e => pure (.error (readFailureOf e))

/-- The paths a command line may read: its schema, script and settings file. -/
def pathsOf (args : List String) (configValue : Option String) : List String :=
  match Invocation.ofArgs args configValue with
  | .run o => o.schema :: o.script.toList ++ o.config.toList
  | _ => []

def main (args : List String) : IO UInt32 := do
  let rustLog ← IO.getEnv "RUST_LOG"
  let configValue ← IO.getEnv configVariable
  let env (name : String) : Option String :=
    if name == "RUST_LOG" then rustLog else if name == configVariable then configValue else none
  let reads ← (pathsOf args configValue).mapM fun p => do pure (p, ← readPath p)
  let found (p : String) := (reads.find? (·.1 == p)).map (·.2)
  let view : FileView := ⟨fun p => (found p).getD (.error .notFound), fun p => (found p).any (·.toBool)⟩
  let out := runCommand args env view ⟨"<time>", fun id => "session-" ++ toString id.serial⟩
  IO.print out.stdout
  IO.eprint out.stderr
  pure out.status.toUInt32

end
