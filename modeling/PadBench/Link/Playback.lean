import PadBench.Command.Decoding
import PadBench.Link.Event
import PadBench.Record.Expected
import PadBench.Report.Encoding

/-!
An adapter that follows a script: for trying out a session without hardware.
-/
namespace PadBench

/-- What a scripted adapter prints when a frame arrives. -/
structure Script where
  /-- The answers to single frames, by their number. -/
  numbered : List (Nat × List LinkEvent)
  /-- The lines that answer single reports. -/
  modelled : List (List UInt8 × String)
  /-- The answer to any other report. -/
  reports : Option (List LinkEvent)
  /-- The answer to any other frame. -/
  other : List LinkEvent

namespace Script

/-- The report in a frame. -/
def report? (frame : List UInt8) : Option (List UInt8) :=
  match Command.decode frame with
  | .ok (_, .hidReport report) => some report
  | _ => none

/-- The answer to a frame, the first rule that speaks of it deciding. -/
def answer (script : Script) (number : Nat) (frame : List UInt8) : List LinkEvent :=
  match script.numbered.lookup number, report? frame with
  | some events, _ => events
  | none, none => script.other
  | none, some report =>
    match script.modelled.lookup report with
    | some line => [.line line]
    | none => script.reports.getD script.other

end Script

/-- The lines with which a conforming adapter answers the reports of its scenarios. -/
def Adapter.conformingLines (adapter : Adapter) (pad : WirelessPad) : List (List UInt8 × String) :=
  adapter.scenarios.filterMap fun scenario =>
    (Report.encode? pad scenario.input).map fun report =>
      (report, (Json.obj scenario.stageMembers).render)

/-- A scripted adapter in the course of a session. Without a script frames change nothing, and what is
pending is all there is. -/
structure Playback where
  pending : List LinkEvent
  script : Option Script
  /-- The frame that cannot be written. -/
  failAt : Option Nat
  /-- The frame after which the user ends the run. -/
  interruptAt : Option Nat
  /-- How many frames were written, and how many of them arrived. -/
  written : Nat
  arrived : Nat

namespace Playback

def start (pending : List LinkEvent) (script : Option Script) (failAt interruptAt : Option Nat) :
    Playback :=
  ⟨pending, script, failAt, interruptAt, 0, 0⟩

/-- A frame that arrives takes the place of what was pending with its answer. -/
def write (playback : Playback) (frame : List UInt8) : Option String × Playback :=
  let written := playback.written + 1
  if playback.failAt = some playback.written then (some "gone", { playback with written })
  else
    let pending := match playback.script with
      | none => playback.pending
      | some script => script.answer playback.arrived frame
    (none, { playback with pending, written, arrived := playback.arrived + 1 })

def read (playback : Playback) : Option (LinkEvent × Playback) :=
  if playback.interruptAt.map (· + 1) = some playback.written then none
  else
    match playback.pending with
    | [] => some (.closed, playback)
    | event :: pending => some (event, { playback with pending })

def link : Link Playback := ⟨write, read⟩

end Playback

end PadBench
