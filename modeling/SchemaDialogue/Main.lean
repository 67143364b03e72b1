import SchemaDialogue.Command.Run
import Std.Time.DateTime

/-!
# The program

Reads the arguments and the variables of its surroundings, runs the command on the disk and prints
what comes of it. Requests to a model endpoint are refused: no connection is built in.
-/

namespace SchemaDialogue.Program

/-- The failure of an operation on the disk. -/
def fileError (e : IO.Error) : FileError :=
  match e with
  | .noFileOrDirectory _ _ _ => .notFound
  | .alreadyExists _ _ _ => .alreadyExists
  | .inappropriateType _ code _ => if code = 20 then .notDirectory else .isDirectory
  | other => .other (toString other)

/-- Attempt an operation on the disk. -/
def attempt {α : Type} (operation : IO α) : IO (Except FileError α) := do
  try
    return .ok (← operation)
  catch e =>
    return .error (fileError e)

def disk : FileSystem IO where
  read path := attempt (IO.FS.readBinFile path)
  kind path := do
    let found ← attempt do
      let real ← IO.FS.realPath path
      return (← real.pathExists, ← real.isDir)
    match found with
    | .ok (true, isDirectory) => return some (if isDirectory then .directory else .file)
    | _ => return none
  names path := do
    let entries ← attempt do (← IO.FS.realPath path).readDir
    return ((entries.toOption.getD #[]).map (·.fileName)).toList
  makeDirectory path := attempt (IO.FS.createDir path)
  write path text := attempt (IO.FS.writeFile path text)

/-- The transport of this build. -/
def transport : Transport IO where
  send _ := return .refused
  sleep pause := IO.sleep pause.toUInt32

/-- The variables that are looked at. -/
def variableNames : List String :=
  [Paint.variableName, "RUST_LOG", "OPENAI_API_KEY", "OPENAI_MODEL", "OPENAI_ENDPOINT",
    "OPENAI_ORGANIZATION"]

/-- The variables that are set. -/
def environment : IO (List (String × String)) := do
  let found ← variableNames.mapM fun name => do
    return (← IO.getEnv name).map (name, ·)
  return found.filterMap id

/-- A number with zeros in front up to a width. -/
def padded (width n : Nat) : String :=
  let digits := toString n
  String.ofList (List.replicate (width - digits.length) '0') ++ digits

/-- The time that log lines show: date and time in UTC, to the microsecond. -/
def timeText : IO String := do
  let now ← Std.Time.Timestamp.now
  let t := Std.Time.PlainDateTime.ofWallTime (.ofNanoseconds now.toNanosecondsSinceUnixEpoch)
  let date := [padded 4 t.year.toNat, padded 2 t.month.val.toNat, padded 2 t.day.val.toNat]
  let time := [padded 2 t.hour.val.toNat, padded 2 t.minute.val.toNat, padded 2 t.second.val.toNat]
  return String.intercalate "-" date ++ "T" ++ String.intercalate ":" time ++ "." ++
    padded 6 (t.nanosecond.val.toNat / 1000) ++ "Z"

end SchemaDialogue.Program

open SchemaDialogue in
def main (arguments : List String) : IO UInt32 := do
  let environment ← Program.environment
  match Command.ofArguments environment arguments with
  | .error .versionAsked => do
    IO.print versionText
    return 0
  | .error e => do
    if e.exitCode = 0 then IO.println Command.usageText else IO.eprintln Command.usageText
    return e.exitCode.toUInt32
  | .ok command => do
    let painted := Paint.isAsked (environment.lookup Paint.variableName)
    let run ← CommandRun.ofCommand ⟨Program.disk, Program.transport, painted⟩ command
    let filter := LogFilter.ofSetting (environment.lookup "RUST_LOG")
    IO.eprint (run.diagnostics painted filter (← Program.timeText))
    IO.print run.output
    return run.exitCode.toUInt32
