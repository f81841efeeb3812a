import PadBench.Bench.JsonLines
import PadBench.Bench.Session
import PadBench.Link.Connection
import PadBench.Settings.LogFilter

/-!
The whole program, as a function of what it finds when it starts.

Without an adapter to test it prints what a conforming one reports for every scenario. With one it runs a
session, adds the results to a file if it is told to, and fails if a scenario failed.
-/
namespace PadBench.Program

/-- What the program finds. `reach?` tells what answers at a target, and `clock` when a result is
written. -/
structure World (σ : Type) where
  arguments : List String
  files : Files.Tree
  link : Link σ
  reach? : Settings.Transport → String → Option σ
  clock : Nat → String

/-- Why the program fails. -/
inductive Failure where
  | unloadable (path : String)
  | invalidLevel (level : String)
  | unnamedLogFile
  | unopenedLogFile
  | fault (cause : Fault)
  deriving DecidableEq, Repr

namespace Failure

def message : Failure → String
  | .unloadable path => "Failed to load " ++ path
  | .invalidLevel level => "Invalid log level '" ++ level ++ "'"
  | .unnamedLogFile => "Log file path must name a file"
  | .unopenedLogFile => "The log file cannot be opened"
  | .fault cause => cause.message

/-- A log file that cannot be opened aborts the program; any other failure is told and ends it. -/
def isAbort : Failure → Bool
  | .unopenedLogFile => true
  | _ => false

def exitCode (failure : Failure) : Nat := if failure.isAbort then 101 else 1

/-- The line that tells of the failure. -/
def errorLine? (failure : Failure) : Option String :=
  if failure.isAbort then none else some ("Error: " ++ failure.message)

end Failure

/-- What the program leaves behind: the lines it printed, and the files. -/
structure Ending where
  failure : Option Failure
  output : List String
  files : Files.Tree

namespace Ending

def exitCode (ending : Ending) : Nat := ending.failure.elim 0 Failure.exitCode

def errorLine? (ending : Ending) : Option String := ending.failure.bind Failure.errorLine?

def failed (files : Files.Tree) (failure : Failure) : Ending := ⟨some failure, [], files⟩

end Ending

/-- Where settings are looked for when no argument tells. -/
def usualPath : String := "config/default.toml"

/-- The file that holds the settings: the one the first argument names, or the usual one if it is there. -/
def settingsPath? (arguments : List String) (usualExists : Bool) : Option String :=
  match arguments with
  | path :: _ => some path
  | [] => if usualExists then some usualPath else none

/-- The settings loaded from a path. Whatever is wrong with them, the failure names the path only. -/
def loaded (path : String) (settings : Except Fault Settings) : Except Failure Settings :=
  settings.mapError fun _ => .unloadable path

/-- The settings, which are the defaults if there is no file to hold them. -/
def settings (arguments : List String) (files : Files.Tree) : Except Failure Settings :=
  match settingsPath? arguments (files.has usualPath) with
  | none => .ok .default
  | some path => loaded path do
    let content ← (files.read path).mapError .io
    Settings.ofText content.toList

/-- The path of the log file, if there is to be one. -/
def logPath? (logging : Settings.Logging) : Except Failure (Option String) :=
  if !Settings.LogFilter.isFilter logging.level then .error (.invalidLevel logging.level)
  else
    match logging.file with
    | none => .ok none
    | some path =>
      if (Files.fileName? path).isSome then .ok (some (Files.plain path)) else .error .unnamedLogFile

/-- The files once one of them has been opened for adding to its end. -/
def opened (files : Files.Tree) (path : String) : Except Files.Fault Files.Tree := files.append path ""

/-- The files once the log file has been opened, if there is to be one. -/
def logging (settings : Settings.Logging) (files : Files.Tree) : Except Failure Files.Tree := do
  match ← logPath? settings with
  | none => return files
  | some path => (opened files path).mapError fun _ => .unopenedLogFile

/-- What a conforming adapter reports, a line for each scenario. -/
def expectedLines (session : Session) : List String :=
  session.adapter.scenarios.map fun scenario => scenario.expectedJson.render

/-- The results of a run as lines of its file. -/
def resultLines (clock : Nat → String) (results : List ScenarioResult) : JsonLines :=
  .ofList (results.zipIdx.map fun (result, index) => result.toJson (clock index))

/-- The failure that the outcome of a session is. A session that the user ended is none. -/
def failureOf : Option (Except Fault Tally) → Option Failure
  | none => none
  | some (.error fault) => some (.fault fault)
  | some (.ok tally) => if tally.failed = 0 then none else some (.fault (.mismatch tally.failed))

/-- A session with the adapter at a link. -/
def drive {σ : Type} (world : World σ) (settings : Settings) (session : Session) (files : Files.Tree)
    (far : σ) : Except Failure Ending := do
  let path := settings.results.path
  let files ← if settings.results.enabled then
      (opened files path).mapError fun cause => .fault (.io cause)
    else .ok files
  let run := (session.dialogue (.ofSettings settings.dut)).run world.link far
  let written := if settings.results.enabled then resultLines world.clock run.results else .empty
  let files := if settings.results.enabled then (written.appendTo files path).toOption.getD files
    else files
  return ⟨failureOf run.outcome, [], files⟩

/-- The link to the adapter, after as many attempts as the settings allow. -/
def connect {σ : Type} (world : World σ) (dut : Settings.Dut) : Connection σ :=
  .establish (fun _ => match world.reach? dut.transport dut.target with
    | some far => .ok far
    | none => .error (Connection.unopened dut.target)) dut.retryIntervalMs 1 dut.connectRetries

def perform {σ : Type} (world : World σ) (settings : Settings) (files : Files.Tree) :
    Except Failure Ending := do
  let session ← (Session.ofSettings settings.model).mapError .fault
  if settings.dut.enabled then
    let far ← (connect world settings.dut).outcome.mapError .fault
    drive world settings session files far
  else return ⟨none, expectedLines session, files⟩

/-- The ending of a computation that may have failed. -/
def settle (files : Files.Tree) : Except Failure Ending → Ending
  | .ok ending => ending
  | .error failure => .failed files failure

/-- The program. What it did to the files before it failed stays done. -/
def run {σ : Type} (world : World σ) : Ending :=
  settle world.files do
    let settings ← settings world.arguments world.files
    let files ← logging settings.logging world.files
    return settle files (perform world settings files)

end PadBench.Program
