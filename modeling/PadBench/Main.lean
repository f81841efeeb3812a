import PadBench.Link.Wire
import PadBench.Program
import Std.Async.Signal
import Std.Time.Format

/-!
The command line. An argument names the settings; without one the usual file is looked for.

What an adapter should report is printed; what is wrong is told on the error stream, and the exit code is
zero exactly if nothing was.
-/
namespace PadBench.Main

open Program (Failure)

/-- Why the system could not use a file. -/
def fileFault : IO.Error → Files.Fault
  | .noFileOrDirectory .. => .notFound
  | .alreadyExists .. => .alreadyExists
  | .inappropriateType _ code _ => if code = 20 then .notDirectory else .isDirectory
  | other => .other (toString other)

/-- An action on files, and the failure it may be. -/
def onFiles {α : Type} (failure : Files.Fault → Failure) (action : IO α) : ExceptT Failure IO α := do
  match ← action.toBaseIO with
  | .ok value => return value
  | .error cause => throw (failure (fileFault cause))

def content (path : String) : IO (Except Files.Fault (List UInt8)) := do
  match ← (IO.FS.readBinFile path).toBaseIO with
  | .ok bytes => return .ok bytes.data.toList
  | .error cause => return .error (fileFault cause)

def isThere (path : String) : IO Bool := do
  match ← content path with
  | .error .notFound | .error .notDirectory => return false
  | _ => return true

def settings (arguments : List String) : ExceptT Failure IO Settings := do
  match Program.settingsPath? arguments (← isThere Program.usualPath) with
  | none => return .default
  | some path =>
    let content ← content path
    liftExcept (Program.loaded path ((content.mapError .io).bind Settings.ofBytes))

/-- A file to add to, made if it is missing, with the directories on its way. -/
def openToAdd (path : String) : IO IO.FS.Handle := do
  if let some directory := Files.directory? path then IO.FS.createDirAll directory
  IO.FS.Handle.mk path .append

/-- The current moment in universal time. -/
def stamp : IO String := do
  let moment := (← Std.Time.Timestamp.now).toWallTime .zero
  return (Std.Time.PlainDateTime.ofWallTime moment).format "uuuu-MM-dd'T'HH:mm:ss.SSS'Z'"

/-- A link to the adapter, tried so many times. -/
def connect (dut : Settings.Dut) : Nat → IO (Except Fault Wire)
  | 0 => return .error Connection.noAttempt
  | attempts + 1 => do
    match ← (Wire.attempt dut).toBaseIO, attempts with
    | .ok wire, _ => return .ok wire
    | .error cause, 0 => return .error (Connection.unopened (dut.target ++ ": " ++ (fileFault cause).message))
    | .error _, attempts =>
      IO.sleep dut.retryIntervalMs.toUInt32
      connect dut attempts

/-- A dialogue over a link. -/
def hold {α : Type} (wire : Wire) (isEnded : IO Bool) (timeoutMs : Nat) (tell : Notice → IO Unit) :
    Dialogue α → IO (Option (Except Fault α))
  | .done value => return some (.ok value)
  | .stop fault => return some (.error fault)
  | .send frame next => do
    match ← (wire.send frame).toBaseIO with
    | .ok () => hold wire isEnded timeoutMs tell (next none)
    | .error cause => hold wire isEnded timeoutMs tell (next (some (toString cause)))
  | .receive next => do
    match ← wire.receive isEnded ((← IO.monoMsNow) + timeoutMs) (timeoutMs + 1) with
    | none => return none
    | some event => hold wire isEnded timeoutMs tell (next event)
  | .notify notice next => do
    tell notice
    hold wire isEnded timeoutMs tell next

/-- Each result becomes a line as soon as it is known. -/
def record (results : Option IO.FS.Handle) : Notice → IO Unit
  | .calibrated _ => return ()
  | .judged result => do
    if let some file := results then
      file.putStr (JsonLines.line (result.toJson (← stamp)))
      file.flush

def drive (settings : Settings) (session : Session) : ExceptT Failure IO Unit := do
  let wire ← match ← connect settings.dut settings.dut.connectRetries with
    | .ok wire => pure wire
    | .error fault => throw (Failure.fault fault)
  let results ← if settings.results.enabled then
      some <$> onFiles (fun cause => Failure.fault (.io cause)) (openToAdd settings.results.path)
    else pure none
  let signal ← (← Std.Async.Signal.Waiter.mk .sigint false).wait
  let outcome ← hold wire (IO.hasFinished signal) settings.dut.responseTimeoutMs (record results)
    (session.dialogue (.ofSettings settings.dut))
  if let some failure := Program.failureOf outcome then throw failure

def program (arguments : List String) : ExceptT Failure IO Unit := do
  let settings ← settings arguments
  if let some path ← liftExcept (Program.logPath? settings.logging) then
    let _ ← onFiles (fun _ => .unopenedLogFile) (openToAdd path)
  let session ← liftExcept ((Session.ofSettings settings.model).mapError Failure.fault)
  if settings.dut.enabled then drive settings session
  else for line in Program.expectedLines session do IO.println line

end PadBench.Main

def main (arguments : List String) : IO UInt32 := do
  match ← (PadBench.Main.program arguments).run with
  | .ok () => return 0
  | .error failure =>
    IO.eprintln (failure.errorLine?.getD failure.message)
    return failure.exitCode.toUInt32
