import PadBench.Bench.Session
import PadBench.Proofs.Bench.Course
import PadBench.Proofs.Report.Fidelity

/-!
What a session asks of an adapter under test, as a function of the answers.

* `requests`: the opening, the calibration that is handed over, two reports at rest, and the scenarios;
* `inForce`: the adapter after some answers, of which it has adopted the calibrations;
* `requests_append`: once the handshake is over, only the answers to the warm-up change what is asked.
-/
namespace PadBench.Session

/-- The adapter is freed, told its console, connected, and told the name of the pad. -/
def introduction (session : Session) (name : String) : List Request :=
  [.any .disconnect, .any (.systemId session.console.systemId), .any (.connect false), .any (.name name)]

/-- A generic pad is described by its descriptor. -/
def description (session : Session) : List Request :=
  match session.pad with
  | .generic => [.any (.hidDescriptor Report.genericDescriptor)]
  | _ => []

def opening (session : Session) (name : String) : List Request :=
  session.introduction name ++ session.description

/-- The requests that hand over a calibration. After the last one the calibration is waited for. -/
def replyRequests : List (List UInt8) → List Request
  | [] => []
  | [reply] => [⟨.hidReport reply, fun seen => seen.calibration.isSome⟩]
  | reply :: replies => .any (.hidReport reply) :: replyRequests replies

/-- Nothing more is handed over once a calibration has been reported. -/
def handedOver : List Request → List Observation → List Request
  | [], _ => []
  | request :: requests, [] => request :: requests
  | request :: requests, seen :: answers =>
    request :: if seen.calibration.isSome then [] else handedOver requests answers

/-- All that comes before the reports at rest. -/
def handshake (session : Session) (name : String) (answers : List Observation) : List Request :=
  session.opening name ++
    handedOver (replyRequests ((Report.calibrationReplies? session.pad).getD []))
      (answers.drop (session.opening name).length)

/-- An adapter after an answer. A calibration that is refused leaves it as it is. -/
def adopted (adapter : Adapter) (seen : Observation) : Adapter :=
  match seen.calibration with
  | none => adapter
  | some report => (adapter.calibrate report).toOption.getD adapter

/-- The adapter after some answers. Those before the answer to the name are not adopted. -/
def inForce (session : Session) (answers : List Observation) : Adapter :=
  (answers.drop 3).foldl adopted session.adapter

/-- The request that plays a state of the pad, if the pad has a report of it. -/
def report? (session : Session) (state : PadState) : Option Request :=
  (Report.encode? session.pad state).map fun report => ⟨.hidReport report, Observation.isComplete⟩

/-- Everything a session asks, in order. The answers that are still missing are taken to report no
calibration. -/
def requests (session : Session) (name : String) (answers : List Observation) : List Request :=
  let handshake := session.handshake name answers
  let resting := session.inForce (answers.take handshake.length)
  let ready := session.inForce (answers.take (handshake.length + warmUpReports))
  handshake ++
    (List.replicate warmUpReports resting.restState ++ ready.scenarios.map Scenario.input).filterMap
      session.report?

section

variable {session : Session} {name : String} {answers : List Observation}

/-- Only a generic pad is described. -/
theorem description_of_ne_generic (special : session.pad ≠ .generic) : session.description = [] := by
  rw [description]
  split
  · contradiction
  · rfl

theorem describePad_of_ne_generic (special : session.pad ≠ .generic) (client : Client) (adapter : Adapter) :
    session.describePad client adapter = .done adapter := by
  rw [describePad]
  split
  · contradiction
  · rfl

theorem adopted_of_quiet (adapter : Adapter) {seen : Observation} (quiet : seen.calibration = none) :
    adopted adapter seen = adapter := by
  rw [adopted, quiet]

theorem adopted_of_ok {adapter result : Adapter} {seen : Observation} {report : CalibrationReport}
    (told : seen.calibration = some report) (accepted : adapter.calibrate report = .ok result) :
    adopted adapter seen = result := by
  simp only [adopted, told, accepted]
  rfl

theorem adopted_follows {adapter : Adapter} {pad : WirelessPad} (follows : adapter.Follows pad)
    (seen : Observation) : (adopted adapter seen).Follows pad := by
  cases told : seen.calibration with
  | none =>
    rw [adopted_of_quiet adapter told]
    exact follows
  | some report =>
    cases applied : adapter.calibrate report with
    | error cause =>
      simp only [adopted, told, applied]
      exact follows
    | ok result =>
      rw [adopted_of_ok told applied]
      exact Adapter.calibrate_follows follows applied

theorem inForce_follows {pad : WirelessPad} (follows : session.adapter.Follows pad)
    (answers : List Observation) : (session.inForce answers).Follows pad := by
  rw [inForce]
  generalize answers.drop 3 = adopting
  suffices each : ∀ adapter : Adapter, adapter.Follows pad →
      (adopting.foldl adopted adapter).Follows pad from each _ follows
  induction adopting with
  | nil => exact fun _ follows => follows
  | cons seen rest ih => exact fun _ follows => ih _ (adopted_follows follows seen)

theorem inForce_concat (named : 3 ≤ answers.length) (seen : Observation) :
    session.inForce (answers ++ [seen]) = adopted (session.inForce answers) seen := by
  rw [inForce, inForce, List.drop_append_of_le_length named, List.foldl_append]
  rfl

theorem inForce_append_quiet (named : 3 ≤ answers.length) {quiet : List Observation}
    (silent : ∀ seen ∈ quiet, seen.calibration = none) :
    session.inForce (answers ++ quiet) = session.inForce answers := by
  rw [inForce, inForce, List.drop_append_of_le_length named, List.foldl_append]
  generalize (answers.drop 3).foldl adopted session.adapter = adapter
  induction quiet with
  | nil => rfl
  | cons seen quiet ih =>
    rw [List.foldl_cons, adopted_of_quiet adapter (silent seen List.mem_cons_self)]
    exact ih fun other member => silent other (List.mem_cons_of_mem seen member)

/-- Once every request has its answer, nothing more is handed over. -/
theorem handedOver_append {requests : List Request} {given : List Observation}
    (complete : (handedOver requests given).length ≤ given.length) (more : List Observation) :
    handedOver requests (given ++ more) = handedOver requests given := by
  induction requests generalizing given with
  | nil => rfl
  | cons request requests ih =>
    cases given with
    | nil => cases complete
    | cons seen given =>
      simp only [List.cons_append, handedOver] at complete ⊢
      split
      · rfl
      · rename_i quiet
        rw [if_neg quiet] at complete
        rw [ih (Nat.le_of_succ_le_succ complete)]

theorem opening_prefix_requests (session : Session) (name : String) (answers : List Observation) :
    session.opening name <+: session.requests name answers := by
  rw [requests, handshake, List.append_assoc]
  exact List.prefix_append _ _

theorem handshake_prefix_requests (session : Session) (name : String) (answers : List Observation) :
    session.handshake name answers <+: session.requests name answers :=
  List.prefix_append _ _

theorem handshake_append (complete : (session.handshake name answers).length ≤ answers.length)
    (more : List Observation) :
    session.handshake name (answers ++ more) = session.handshake name answers := by
  rw [handshake, List.length_append] at complete
  have opened : (session.opening name).length ≤ answers.length := by omega
  rw [handshake, List.drop_append_of_le_length opened, handedOver_append, handshake]
  rw [List.length_drop]
  omega

/-- Once the handshake is over, what is asked depends on the answers to the warm-up and no others. -/
theorem requests_append (complete : (session.handshake name answers).length = answers.length)
    (more : List Observation) :
    session.requests name (answers ++ more) = session.handshake name answers ++
      (List.replicate warmUpReports (session.inForce answers).restState ++
        (session.inForce (answers ++ more.take warmUpReports)).scenarios.map Scenario.input).filterMap
          session.report? := by
  rw [requests, handshake_append (Nat.le_of_eq complete), complete, List.take_left, List.take_length_add_append]

end

end PadBench.Session
