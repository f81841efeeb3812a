import PadBench.Link.Playback
import PadBench.Main
import PadBench.Proofs.Adapter.Fraction
import PadBench.Proofs.Adapter.Calibrated
import PadBench.Proofs.Adapter.Inputs
import PadBench.Proofs.Arith.Bytes
import PadBench.Proofs.Arith.Rounding
import PadBench.Proofs.Arith.Precision
import PadBench.Proofs.Arith.Values
import PadBench.Proofs.Report.Layout
import PadBench.Proofs.Report.Fidelity
import PadBench.Proofs.Report.Exactness
import PadBench.Proofs.Report.Refusal
import PadBench.Proofs.Report.StrayButtons
import PadBench.Proofs.Bench.Attribution
import PadBench.Proofs.Bench.Delivery
import PadBench.Proofs.Json.Numerals
import PadBench.Proofs.Json.Strings
import PadBench.Proofs.Json.Tokens
import PadBench.Proofs.Json.RoundTrip
import PadBench.Proofs.Json.Fields
import PadBench.Proofs.Record.Line
import PadBench.Proofs.Record.Stages
import PadBench.Proofs.Record.Expected
import PadBench.Proofs.Bench.Course
import PadBench.Proofs.Bench.Exchange
import PadBench.Proofs.Bench.HandOver
import PadBench.Proofs.Bench.Sequence
import PadBench.Proofs.Bench.Order
import PadBench.Proofs.Command.RoundTrip
import PadBench.Proofs.Command.Resending
import PadBench.Proofs.Command.Canonical
import PadBench.Adapter.Store
import PadBench.Proofs.Adapter.Store
import PadBench.Proofs.Text.Utf8
import PadBench.Proofs.Pad.CalibrationReport
import PadBench.Proofs.Adapter.Drift
import PadBench.Proofs.Bench.Notices
import PadBench.Proofs.Bench.Accounts
import PadBench.Proofs.Bench.Undrivable
import PadBench.Proofs.Arith.Scaling
import PadBench.Proofs.Arith.Sign
import PadBench.Proofs.Arith.Order
import PadBench.Proofs.Arith.Shares
import PadBench.Proofs.Pad.Calibration
import PadBench.Proofs.Pad.Monotonicity
import PadBench.Proofs.Adapter.Steps
import PadBench.Proofs.Adapter.Names
import PadBench.Proofs.Adapter.Boundaries
import PadBench.Proofs.Pad.ButtonTable
import PadBench.Proofs.Pad.Hat
import PadBench.Proofs.Adapter.Digital
import PadBench.Proofs.Adapter.Labels
import PadBench.Proofs.Bench.Verdict
import PadBench.Proofs.Wired.Storage
import PadBench.Proofs.Record.Bodies
import PadBench.Proofs.Record.RoundTrip
import PadBench.Proofs.Text.Order
import PadBench.Proofs.Json.Order
import PadBench.Proofs.Record.Framing
import PadBench.Proofs.Json.Shapes
import PadBench.Proofs.Record.Refusal
import PadBench.Proofs.Pad.Polarity
import PadBench.Proofs.Wired.FullTravel
import PadBench.Proofs.Arith.Comparison
import PadBench.Proofs.Pad.Agreement
import PadBench.Proofs.Adapter.ButtonScenarios
import PadBench.Proofs.Adapter.Repetition
import PadBench.Proofs.Pad.ReportEntries
import PadBench.Proofs.Settings.Fraction
import PadBench.Proofs.Record.Slots
import PadBench.Proofs.Adapter.ScenarioList
import PadBench.Proofs.Bench.JsonLines
import PadBench.Proofs.Pad.Range
