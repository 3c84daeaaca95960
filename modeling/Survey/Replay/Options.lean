import Survey.Text.Similarity

/-!
# The replay command line

The command takes a schema (`-s`, `--schema`, required), a script (`--script`), a settings
file (`-c`, `--config`, or the variable `CENSUS_FORM_CONFIG`) and a switch for JSON logs
(`--log-json`); `-h` or `--help` prints the help.

Arguments are read left to right. An option that takes a value takes the rest of its argument
(`--schema=x`, `-sx`, `-s=x`) or else the next argument; it is settled when the next option is
met or the arguments end, and only then is a missing or empty path refused. Everything after
`--` is a stray argument. The first problem met is the one reported, with a usage line naming
the options used so far; an unknown long option is matched against the known ones and the
likeliest is suggested, when it is alike enough.
-/

namespace Survey

namespace Replay

/-- An option of the command. -/
inductive Flag where
  | schema
  | script
  | config
  | logJson
  | help
  deriving DecidableEq, Repr

namespace Flag

/-- Every option, in the order the command declares them. -/
def all : List Flag := [.schema, .script, .config, .logJson, .help]

/-- The option's long name. -/
def long : Flag → String
  | .schema => "schema"
  | .script => "script"
  | .config => "config"
  | .logJson => "log-json"
  | .help => "help"

/-- The option's one-letter name, when it has one. -/
def short? : Flag → Option Char
  | .schema => some 's'
  | .config => some 'c'
  | .help => some 'h'
  | _ => none

/-- The name of the option's value, for those that take one. -/
def valueName? : Flag → Option String
  | .schema => some "SCHEMA"
  | .script => some "SCRIPT"
  | .config => some "CONFIG"
  | _ => none

/-- Whether the option takes a value. -/
def takesValue (f : Flag) : Bool := f.valueName?.isSome

/-- Whether the option's value is a path, which may not be empty. -/
def isPath : Flag → Bool
  | .script | .config => true
  | _ => false

/-- The option as messages show it, such as `--schema <SCHEMA>`. -/
def display (f : Flag) : String :=
  "--" ++ f.long ++ (f.valueName?.map fun v => " <" ++ v ++ ">").getD ""

/-- The option of a long name. -/
def ofLong? (name : String) : Option Flag := all.find? (·.long == name)

/-- The option of a one-letter name. -/
def ofShort? (c : Char) : Option Flag := all.find? (·.short? == some c)

end Flag

/-- The command's name. -/
def commandName : String := "census-form-replay"

/-- The variable that may name the settings file. -/
def configVariable : String := "CENSUS_FORM_CONFIG"

/-- The usage line when no option has been used. -/
def fullUsage : String := commandName ++ " [OPTIONS] --schema <SCHEMA>"

/-- The usage line naming the options used: the required schema first, then the others in the
order they were used, each once. -/
def usageFor (used : List Flag) : String :=
  if used.isEmpty then fullUsage
  else commandName ++ String.join ((Flag.schema :: used).eraseDups.map (" " ++ ·.display))

/-- The usage line naming every option but the help as one group, after the help when it was
used: the options a command line gives count as that group once one of them is settled, and a
switch given a value then shows the group in place of the options it holds. -/
def groupUsage (used : List Flag) : String :=
  commandName ++ (if used.contains .help then " " ++ Flag.help.display else "") ++ " <" ++
    "|".intercalate ((Flag.all.filter (· != .help)).map Flag.display) ++ ">"

/-- The help, showing the settings variable's value. -/
def helpText (configValue : Option String) : String :=
  "Replay scripted answers through a questionnaire and print the summary\n\n" ++
  "Usage: " ++ fullUsage ++ "\n\n" ++
  "Options:\n" ++
  "  -s, --schema <SCHEMA>  Schema file, or the id of a bundled questionnaire\n" ++
  "      --script <SCRIPT>  Script of pages to submit, as JSON\n" ++
  "  -c, --config <CONFIG>  Engine settings, as TOML [env: " ++ configVariable ++ "=" ++
    configValue.getD "" ++ "]\n" ++
  "      --log-json         Log as JSON lines\n" ++
  "  -h, --help             Print help\n"

/-- The known long option most like a mistyped one: the most alike of those more than 0.7
alike, the later one on a tie. -/
def suggestion (name : String) : Option Flag :=
  let threshold : Float := 7.0 / 10.0
  let scored := Flag.all.filterMap fun f =>
    let score := jaro name.toList f.long.toList
    if score > threshold then some (f, score) else none
  (scored.foldl (fun best (f, score) => match best with
    | some (_, top) => if top ≤ score then some (f, score) else best
    | none => some (f, score)) none).map (·.1)

/-- Why a command line is refused. -/
inductive UsageError where
  /-- An option that takes a value has none, or an empty path. -/
  | missingValue (flag : Flag)
  /-- An option given twice. -/
  | repeated (flag : Flag)
  /-- An argument that is no option, with the option it may have meant and the options used. -/
  | unknown (arg : String) (suggested : Option Flag) (used : List Flag)
  /-- A value given to a switch, with the options used and whether any option was settled
  before it. -/
  | extraValue (value : String) (flag : Flag) (used : List Flag) (grouped : Bool)
  /-- No schema, with the options used. -/
  | missingSchema (used : List Flag)
  deriving DecidableEq, Repr

namespace UsageError

/-- The usage paragraph for the options used. -/
def usageBlock (used : List Flag) : String := "\n\nUsage: " ++ usageFor used

/-- The closing pointer to the help. -/
def helpPointer : String := "\n\nFor more information, try '--help'.\n"

/-- The error as the command prints it. -/
def render : UsageError → String
  | .missingValue f =>
    "error: a value is required for '" ++ f.display ++ "' but none was supplied" ++ helpPointer
  | .repeated f =>
    "error: the argument '" ++ f.display ++ "' cannot be used multiple times" ++ usageBlock [] ++
      helpPointer
  | .unknown arg suggested used =>
    let tip := (suggested.map fun f => "\n\n  tip: a similar argument exists: '--" ++ f.long ++ "'").getD ""
    "error: unexpected argument '" ++ arg ++ "' found" ++ tip ++ usageBlock used ++ helpPointer
  | .extraValue v f used grouped =>
    "error: unexpected value '" ++ v ++ "' for '" ++ f.display ++ "' found; no more were expected" ++
      (if grouped then "\n\nUsage: " ++ groupUsage used else usageBlock used) ++ helpPointer
  | .missingSchema used =>
    "error: the following required arguments were not provided:\n  " ++ Flag.schema.display ++
      usageBlock used ++ helpPointer

end UsageError

/-- The settings a command line gives. -/
structure Options where
  schema : String
  script : Option String
  config : Option String
  logJson : Bool
  deriving DecidableEq, Repr

/-- What a command line asks for. -/
inductive Invocation where
  | run (options : Options)
  | help
  | refused (error : UsageError)
  deriving DecidableEq, Repr

/-- The options given so far, in the order first given, with their values. -/
abbrev Given := List (Flag × Option String)

/-- Settle an option with the value found for it, if any. When its value was counted on the
command line, an option that takes a value and has none is refused before it is entered; a
repeated option is refused and dropped; an empty path is refused after it is entered. -/
def enter (given : Given) (flag : Flag) (value : Option String) (counted : Bool) :
    Given × Option UsageError :=
  if counted && flag.takesValue && value.isNone then (given, some (.missingValue flag))
  else if given.any (·.1 == flag) then (given.filter (·.1 != flag), some (.repeated flag))
  else
    let given := given ++ [(flag, value)]
    if flag.isPath && value == some "" then (given, some (.missingValue flag)) else (given, none)

/-- Reading a command line: the options settled, and the option whose value is still being
read, with the value found so far. -/
structure Reading where
  given : Given
  pending : Option (Flag × Option String)
  deriving Repr

namespace Reading

/-- Nothing read. -/
def start : Reading := ⟨[], none⟩

/-- The options used, in order. -/
def used (r : Reading) : List Flag := r.given.map (·.1)

/-- Settle the pending option. -/
def settle (r : Reading) : Reading × Option UsageError :=
  match r.pending with
  | none => (r, none)
  | some (flag, value) =>
    let (given, e) := enter r.given flag value true
    (⟨given, none⟩, e)

/-- Settle the pending option, stopping at its error. -/
def settled (r : Reading) : Except UsageError Reading :=
  match r.settle with
  | (r, none) => .ok r
  | (_, some e) => .error e

/-- Settle the pending option and then `flag` with `value`. -/
def enterNow (r : Reading) (flag : Flag) (value : Option String) : Except UsageError Reading := do
  let r ← r.settled
  match enter r.given flag value true with
  | (given, none) => pure ⟨given, none⟩
  | (_, some e) => throw e

/-- Settle the pending option and start reading the value of `flag`. -/
def await (r : Reading) (flag : Flag) : Except UsageError Reading := do
  let r ← r.settled
  pure ⟨r.given, some (flag, none)⟩

/-- A stray argument; the usage line it is shown with names no option. -/
def stray (arg : String) : UsageError := .unknown arg none []

/-- An unknown long option; the likeliest one it meant counts as used. -/
def unknownLong (r : Reading) (name : String) : UsageError :=
  let r := r.settle.1
  let suggested := suggestion name
  let used := match suggested with
    | some f => if r.used.contains f then r.used else r.used ++ [f]
    | none => r.used
  .unknown ("--" ++ name) suggested used

end Reading

/-- Why reading stopped early. -/
inductive Stop where
  | help
  | refused (error : UsageError)
  deriving DecidableEq, Repr

/-- Lift a refusal. -/
def refusing : Except UsageError α → Except Stop α
  | .ok a => .ok a
  | .error e => .error (.refused e)

/-- Read `--name` or `--name=value`. -/
def readLong (r : Reading) (body : String) : Except Stop Reading :=
  let (name, value) := match body.splitOn "=" with
    | [] => (body, none)
    | first :: rest => if rest.isEmpty then (first, none) else (first, some ("=".intercalate rest))
  match Flag.ofLong? name with
  | none => .error (.refused (r.unknownLong name))
  | some f =>
    if f.takesValue then
      match value with
      | some v => refusing (r.enterNow f (some v))
      | none => refusing (r.await f)
    else
      match value with
      | some v =>
        .error (.refused (.extraValue v f ((r.used.filter (· != Flag.schema)) ++ [f]) !r.used.isEmpty))
      | none =>
        if f == .help then do
          let _ ← refusing r.settled
          .error .help
        else refusing (r.enterNow f none)

/-- Read a cluster of one-letter options, such as `-h` or `-sname`. -/
def readShort (r : Reading) : List Char → Except Stop Reading
  | [] => .ok r
  | c :: more =>
    match Flag.ofShort? c with
    | none => .error (.refused (Reading.stray ("-" ++ c.toString)))
    | some f =>
      if !f.takesValue then
        if f == .help then do
          let _ ← refusing r.settled
          .error .help
        else do
          let r ← refusing (r.enterNow f none)
          readShort r more
      else
        let attached := match more with
          | [] => none
          | '=' :: rest => some (String.ofList rest)
          | rest => some (String.ofList rest)
        match attached with
        | some v => refusing (r.enterNow f (some v))
        | none => refusing (r.await f)

/-- Read the arguments; `trailing` after a `--`. -/
def readArgs (r : Reading) (trailing : Bool) : List String → Except Stop Reading
  | [] => .ok r
  | arg :: rest =>
    if trailing then .error (.refused (Reading.stray arg))
    else if arg == "--" then readArgs r true rest
    else if arg.startsWith "--" then do
      let r ← readLong r (arg.drop 2).toString
      readArgs r false rest
    else if arg.startsWith "-" && arg != "-" then do
      let r ← readShort r (arg.drop 1).toString.toList
      readArgs r false rest
    else
      match r.pending with
      | some (f, none) => readArgs ⟨r.given, some (f, some arg)⟩ false rest
      | _ => .error (.refused (Reading.stray arg))

/-- The value an option was given. -/
def valueOf (given : Given) (flag : Flag) : Option String :=
  (given.find? (·.1 == flag)).bind (·.2)

/-- Finish reading: settle the pending option, take the settings file from the environment
when the command line names none, and require the schema. -/
def finish (r : Reading) (configValue : Option String) : Except UsageError Options := do
  let r ← r.settled
  let given ← match configValue with
    | some v =>
      if r.used.contains .config then pure r.given
      else match enter r.given .config (some v) false with
        | (given, none) => pure given
        | (_, some e) => throw e
    | none => pure r.given
  match valueOf given .schema with
  | none => throw (.missingSchema ((given.map (·.1)) ++ [.schema]))
  | some schema =>
    pure ⟨schema, valueOf given .script, valueOf given .config, given.any (·.1 == .logJson)⟩

/-- What a command line asks for, given the settings variable's value. -/
def Invocation.ofArgs (args : List String) (configValue : Option String) : Invocation :=
  match readArgs Reading.start false args with
  | .error .help => .help
  | .error (.refused e) => .refused e
  | .ok r =>
    match finish r configValue with
    | .ok o => .run o
    | .error e => .refused e

end Replay

end Survey
