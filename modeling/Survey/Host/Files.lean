/-!
# The files a program can read

The program reads a few files named on its command line or in its environment, relative to
its working directory. What it can see is modelled as the plain files of that directory;
outside it, only the root and the usual top-level system directories are known to exist, and
nothing in them is readable.

A path is resolved one component at a time, as the operating system does: empty components
and `.` stay in place, `..` leaves the working directory, a name looks up a file, and any
component after a file is refused with `Not a directory`. Reading a directory is refused
with `Is a directory`, and a missing component with `No such file or directory`.
-/

namespace Survey

/-- Why a file could not be read. -/
inductive ReadFailure where
  | notFound
  | isDirectory
  | notDirectory
  /-- Any other failure, with the system's text for it. -/
  | other (message : String)
  deriving DecidableEq, Repr

/-- The operating system's text for a failure. -/
def ReadFailure.message : ReadFailure → String
  | .notFound => "No such file or directory (os error 2)"
  | .isDirectory => "Is a directory (os error 21)"
  | .notDirectory => "Not a directory (os error 20)"
  | .other message => message

/-- What a program sees of the files it may read: each path's content, or why it cannot be
read, and whether the path names a plain file. -/
structure FileView where
  read : String → Except ReadFailure String
  isFile : String → Bool

/-- The plain files of the working directory, by name. -/
structure WorkDir where
  files : List (String × String)
  deriving Repr, Inhabited

/-- Where a path leads. -/
inductive Place where
  /-- The working directory. -/
  | work
  /-- A directory elsewhere, of unknown content. -/
  | elsewhere
  /-- A file of the working directory, with its content. -/
  | file (content : String)
  deriving DecidableEq, Repr

/-- The top-level directories every system has. -/
def systemDirectories : List String :=
  ["bin", "dev", "etc", "home", "lib", "opt", "proc", "root", "sys", "tmp", "usr", "var"]

namespace WorkDir

/-- One step of resolving a path. -/
def step (d : WorkDir) (atRoot : Bool) (place : Place) (component : String) : Except ReadFailure Place :=
  match place with
  | .file _ => .error .notDirectory
  | .work =>
    if component == "" || component == "." then .ok .work
    else if component == ".." then .ok .elsewhere
    else match d.files.find? (·.1 == component) with
      | some (_, content) => .ok (.file content)
      | none => .error .notFound
  | .elsewhere =>
    if component == "" || component == "." || component == ".." then .ok .elsewhere
    else if atRoot && systemDirectories.contains component then .ok .elsewhere
    else .error .notFound

/-- Where a path leads. -/
def resolve (d : WorkDir) (path : String) : Except ReadFailure Place :=
  if path.isEmpty then .error .notFound
  else
    match path.splitOn "/" with
    | "" :: rest =>
      let walk := rest.foldlM (fun (p : Place × Bool) c => do
        let q ← d.step p.2 p.1 c
        pure (q, p.2 && (c == "" || c == "."))) (Place.elsewhere, true)
      walk.map fun (p : Place × Bool) => p.1
    | parts => parts.foldlM (d.step false) .work

/-- The content of the file a path names. -/
def read (d : WorkDir) (path : String) : Except ReadFailure String :=
  match d.resolve path with
  | .ok (.file content) => .ok content
  | .ok _ => .error .isDirectory
  | .error e => .error e

/-- Whether a path names a file. -/
def isFile (d : WorkDir) (path : String) : Bool :=
  match d.resolve path with
  | .ok (.file _) => true
  | _ => false

/-- What a program sees of the working directory. -/
def view (d : WorkDir) : FileView := ⟨d.read, d.isFile⟩

end WorkDir

end Survey
