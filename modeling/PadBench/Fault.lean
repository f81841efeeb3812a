import PadBench.Command.Basic
import PadBench.Files.Fault
import PadBench.Record.Line

/-!
What can go wrong, and how it is told.
-/
namespace PadBench

inductive Fault where
  /-- A frame or a record is malformed, or an answer incomplete. -/
  | protocol (detail : String)
  | calibration (detail : String)
  /-- A name without tables, or a pad that cannot be driven. -/
  | unknownProfile (detail : String)
  | transport (detail : String)
  | timeout (waitingFor : String) (afterMs : Nat)
  /-- So many scenarios failed. -/
  | mismatch (count : Nat)
  /-- Settings that make no sense. -/
  | settings (detail : String)
  /-- A text that holds no settings. -/
  | malformedSettings
  | json (detail : String)
  | io (cause : Files.Fault)
  deriving DecidableEq, Repr

namespace Fault

def ofCommand (cause : Command.Fault) : Fault := .protocol cause.message

def ofMalformed (cause : Record.Malformed) : Fault := .protocol cause.message

def ofCalibration (cause : CalibrationFault) : Fault := .calibration cause.message

def message : Fault → String
  | .protocol detail => "DUT protocol error: " ++ detail
  | .calibration detail => CalibrationFault.label ++ detail
  | .unknownProfile detail => "Unknown controller profile: " ++ detail
  | .transport detail => "Transport error: " ++ detail
  | .timeout waitingFor afterMs => s!"Timed out after {afterMs}ms waiting for " ++ waitingFor
  | .mismatch count => s!"{count} scenario(s) did not match the expected output"
  | .settings detail => "Configuration error: " ++ detail
  | .malformedSettings => "TOML parse error"
  | .json detail => "JSON error: " ++ detail
  | .io cause => "I/O error: " ++ cause.message

end Fault

end PadBench
