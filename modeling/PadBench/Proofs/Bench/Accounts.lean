import Mathlib.Data.List.Basic
import PadBench.Program
import PadBench.Proofs.Bench.JsonLines
import PadBench.Proofs.Bench.Notices
import PadBench.Proofs.Bench.Order

/-!
What a session counts, what the program writes of it, and what it played.

* `Program.isWritten_resultLines`: the program writes one line for each result, in order;
* `Program.drive_of_opened`: these lines are what it adds to the file of the results, however the session ends;
* `attempts`: the scenarios that are sent, each with its request;
* `played`: the scenarios of a session, by induction on them: one result for each answer, and a tally that
  counts every scenario once;
* `accounts`: the same of a whole session, with the lines that its results are written as.
-/
namespace PadBench

namespace ScenarioResult

/-- What a line of a results file says: whether the scenario passed, and the disagreements. -/
def verdict? : Json → Option (Bool × List Json)
  | .obj members =>
    match Json.member? "passed" members, Json.member? "mismatches" members with
    | some (.bool passed), some (.arr mismatches) => some (passed, mismatches)
    | _, _ => none
  | _ => none

def saysFailed (value : Json) : Bool := (verdict? value).any fun (passed, _) => !passed

theorem verdict?_toJson (result : ScenarioResult) (stamp : String) :
    verdict? (result.toJson stamp) = some (result.passed, result.mismatches.map Mismatch.toJson) := by
  simp [toJson, verdict?, Json.member?]

theorem passed_add_failed (results : List ScenarioResult) :
    results.countP passed + (results.countP fun result => !result.passed) = results.length := by
  have whole := List.length_eq_countP_add_countP passed (l := results)
  simp only [Bool.not_eq_true, Bool.decide_eq_false] at whole
  exact whole.symm

/-- The values that some results are written as: one for each, in order, with the time of its index. -/
structure WrittenAs (clock : Nat → String) (results : List ScenarioResult) (values : List Json) : Prop where
  length : values.length = results.length
  stamped : ∀ (index : Nat) (result : ScenarioResult), results[index]? = some result →
    values[index]? = some (result.toJson (clock index))

section

variable {clock : Nat → String} {results : List ScenarioResult} {values : List Json}

theorem WrittenAs.eq_map (written : WrittenAs clock results values) :
    values = results.zipIdx.map fun (result, index) => result.toJson (clock index) := by
  refine List.ext_getElem? fun index => ?_
  rw [List.getElem?_map, List.getElem?_zipIdx]
  cases found : results[index]? with
  | none =>
    rw [List.getElem?_eq_none_iff] at found
    exact List.getElem?_eq_none (written.length ▸ found)
  | some result =>
    rw [written.stamped index result found, Nat.zero_add]
    rfl

/-- A line says that its scenario passed exactly if it lists no disagreement. -/
theorem WrittenAs.verdict?_of_mem (written : WrittenAs clock results values) {value : Json}
    (member : value ∈ values) :
    ∃ passed mismatches, verdict? value = some (passed, mismatches) ∧ (passed = true ↔ mismatches = []) := by
  rw [written.eq_map] at member
  obtain ⟨⟨result, index⟩, _, rfl⟩ := List.mem_map.mp member
  refine ⟨_, _, result.verdict?_toJson _, ?_⟩
  rw [passed, List.isEmpty_iff, List.map_eq_nil_iff]

theorem WrittenAs.countP_saysFailed (written : WrittenAs clock results values) :
    values.countP saysFailed = results.countP fun result => !result.passed := by
  have unstamped : results.countP (fun result => !result.passed) =
      (results.zipIdx.map Prod.fst).countP fun result => !result.passed := by rw [List.zipIdx_map_fst]
  rw [unstamped, written.eq_map, List.countP_map, List.countP_map]
  refine List.countP_congr fun pair _ => ?_
  simp [saysFailed, verdict?_toJson]

end

end ScenarioResult

namespace Program

/-- The program writes one line for each result, in order. -/
theorem exists_writtenAs (clock : Nat → String) (results : List ScenarioResult) :
    ∃ values, ScenarioResult.WrittenAs clock results values ∧
      resultLines clock results = ⟨String.join (values.map JsonLines.line), results.length⟩ := by
  refine ⟨results.zipIdx.map fun (result, index) => result.toJson (clock index), ⟨?_, ?_⟩, ?_⟩
  · rw [List.length_map, List.length_zipIdx]
  · intro index result found
    rw [List.getElem?_map, List.getElem?_zipIdx, found, Nat.zero_add]
    rfl
  · rw [resultLines, JsonLines.ofList_eq, List.length_map, List.length_zipIdx]

/-- The results go to the end of their file, whatever it held and however the session ended. -/
theorem drive_of_opened {σ : Type} (world : World σ) {settings : Settings} (session : Session)
    {files made : Files.Tree} {place : Files.Place} (far : σ) (recorded : settings.results.enabled = true)
    (opens : files.opened settings.results.path = .ok (made, place)) :
    let run := (session.dialogue (.ofSettings settings.dut)).run world.link far
    let text := (resultLines world.clock run.results).text
    drive world settings session files far =
      .ok ⟨failureOf run.outcome, [], made.extended place text⟩ := by
  intro run text
  have opened : opened files settings.results.path = .ok (made.extended place "") :=
    Files.Tree.append_of_opened opens ""
  have again : (made.extended place "").opened settings.results.path = .ok (made.extended place "", place) :=
    Files.Tree.opened_again _ opens rfl
  have added : (made.extended place "").append settings.results.path text = .ok (made.extended place text) := by
    rw [Files.Tree.append_of_opened again, Files.Tree.extended_extended, String.empty_append]
  simp only [drive, recorded, if_true, opened, Except.mapError, Bind.bind, Except.bind, JsonLines.appendTo]
  rw [added]
  rfl

end Program

namespace Tally

/-- The tally after some results and a number of scenarios that have not been sent. -/
def after (tally : Tally) (results : List ScenarioResult) (unsent : Nat) : Tally :=
  ⟨tally.passed + results.countP ScenarioResult.passed,
    tally.failed + results.countP fun result => !result.passed, tally.skipped + unsent⟩

theorem after_skip (tally : Tally) (results : List ScenarioResult) (unsent : Nat) :
    tally.skip.after results unsent = tally.after results (unsent + 1) := by
  simp only [after, skip, mk.injEq, true_and]
  omega

theorem after_count (tally : Tally) (result : ScenarioResult) (results : List ScenarioResult) (unsent : Nat) :
    (tally.count result.passed).after results unsent = tally.after (result :: results) unsent := by
  cases verdict : result.passed <;> simp [after, count, verdict] <;> omega

theorem after_zero (results : List ScenarioResult) (unsent : Nat) :
    zero.after results unsent = ⟨results.countP ScenarioResult.passed,
      results.countP fun result => !result.passed, unsent⟩ := by
  simp only [after, zero, Nat.zero_add]

end Tally

namespace Session

/-- The scenarios the pad has a report of, each with its request. -/
def attempts (session : Session) (scenarios : List Scenario) : List (Scenario × Request) :=
  scenarios.filterMap fun scenario => (session.report? scenario.input).map (scenario, ·)

/-- How many scenarios the pad has no report of. -/
def unsent (session : Session) (scenarios : List Scenario) : Nat :=
  scenarios.countP fun scenario => (Report.encode? session.pad scenario.input).isNone

/-- The results of the attempts that have been answered. -/
def judged (session : Session) (mask : UInt32) (attempts : List (Scenario × Request))
    (answers : List Observation) : List ScenarioResult :=
  List.zipWith (fun attempt seen => session.result attempt.1 seen mask) attempts answers

/-- What a session does with the answer to a scenario. -/
def judge (session : Session) (client : Client) (mask : UInt32) (scenario : Scenario)
    (scenarios : List Scenario) (tally : Tally) (seen : Observation) : Dialogue Tally :=
  let result := session.result scenario seen mask
  .notify (.judged result) (session.play client mask scenarios (tally.count result.passed))

/-- The first attempt without an answer is not answered on a link in this state. -/
def Stuck {σ : Type} (client : Client) (link : Link σ) (attempts : List (Scenario × Request))
    (answers : List Observation) (state : σ) : Prop :=
  ∃ attempt, attempts[answers.length]? = some attempt ∧
    ∀ seen after, ¬ attempt.2.Answered client link state seen after

section

variable {σ : Type} {session : Session} {client : Client} {link : Link σ}

theorem length_attempts (session : Session) (scenarios : List Scenario) :
    (session.attempts scenarios).length + session.unsent scenarios = scenarios.length := by
  have whole := List.length_eq_countP_add_countP
    (fun scenario : Scenario => (Report.encode? session.pad scenario.input).isSome) (l := scenarios)
  simp only [Bool.not_eq_true, Option.isSome_eq_false_iff, Bool.decide_eq_true] at whole
  simp only [attempts, List.length_filterMap_eq_countP, Option.isSome_map, report?, unsent]
  exact whole.symm

theorem attempts_of_unsent {scenario : Scenario} (scenarios : List Scenario)
    (inexpressible : Report.encode? session.pad scenario.input = none) :
    session.attempts (scenario :: scenarios) = session.attempts scenarios ∧
      session.unsent (scenario :: scenarios) = session.unsent scenarios + 1 := by
  constructor
  · rw [attempts, List.filterMap_cons_none]
    · rfl
    · rw [report?, inexpressible]
      rfl
  · rw [unsent, List.countP_cons_of_pos]
    · rfl
    · rw [inexpressible]
      rfl

theorem attempts_of_sent {scenario : Scenario} {report : List UInt8} (scenarios : List Scenario)
    (sent : Report.encode? session.pad scenario.input = some report) :
    session.attempts (scenario :: scenarios) =
        (scenario, ⟨.hidReport report, Observation.isComplete⟩) :: session.attempts scenarios ∧
      session.unsent (scenario :: scenarios) = session.unsent scenarios := by
  constructor
  · rw [attempts, List.filterMap_cons_some]
    · rfl
    · rw [report?, sent]
      rfl
  · rw [unsent, List.countP_cons_of_neg]
    · rfl
    · rw [sent]
      exact Bool.false_ne_true

/-- After an answer, the path tells what comes after it. -/
theorem run_answered {α : Type} {request : Request} (next : Observation → Dialogue α) {start middle : σ}
    {seen : Observation} (first : request.Answered client link start seen middle) :
    let run := ((request.exchange client).bind next).run link start
    let rest := (next seen).run link middle
    run.outcome = rest.outcome ∧ run.notices = rest.notices := by
  have silent : ((request.exchange client).run link start).notices = [] :=
    Dialogue.notices_of_quiet (client.quiet_exchange _ _) start
  have path := Dialogue.run_bind_of_ok next first.outcome
  simp only [first.link, silent, List.nil_append] at path
  rw [path]
  exact ⟨rfl, rfl⟩

/-- Without an answer, the path ends and has told nothing. -/
theorem run_unanswered {α : Type} {request : Request} (next : Observation → Dialogue α) {start : σ}
    (failed : ∀ seen after, ¬ request.Answered client link start seen after) :
    let run := ((request.exchange client).bind next).run link start
    run.notices = [] ∧ ∀ value, run.outcome ≠ some (.ok value) := by
  have silent : ((request.exchange client).run link start).notices = [] :=
    Dialogue.notices_of_quiet (client.quiet_exchange _ _) start
  obtain ⟨outcome, path, ended⟩ := Dialogue.run_bind_of_not_ok next
    fun seen answered => failed seen _ ⟨answered, rfl⟩
  rw [path]
  refine ⟨silent, fun value through => ?_⟩
  obtain ⟨_, rfl⟩ | ⟨fault, _, rfl⟩ := ended <;> cases through

/-- The path of the scenarios of a session, on a link that answers some of the attempts. -/
structure Played (session : Session) (client : Client) (link : Link σ) (mask : UInt32)
    (scenarios : List Scenario) (tally : Tally) (start : σ) (answers : List Observation) (last : σ)
    (run : Dialogue.Run σ Tally) : Prop where
  exchanges : Exchanges client link start
    (((session.attempts scenarios).map Prod.snd).take answers.length) answers last
  /-- One result for each answer, in the order of the scenarios. -/
  results : run.results = session.judged mask (session.attempts scenarios) answers
  /-- A calibration that an answer reports is not adopted. -/
  axes : ∀ axes, run.axes axes = axes
  ending :
    (answers.length = (session.attempts scenarios).length ∧
      run.outcome = some (.ok (tally.after run.results (session.unsent scenarios)))) ∨
    (Stuck client link (session.attempts scenarios) answers last ∧
      ∀ tally, run.outcome ≠ some (.ok tally))

variable {mask : UInt32} {scenario : Scenario} {scenarios : List Scenario} {tally : Tally}
  {start middle last : σ} {report : List UInt8} {seen : Observation} {answers : List Observation}

theorem played_unsent (inexpressible : Report.encode? session.pad scenario.input = none)
    (rest : Played session client link mask scenarios tally.skip start answers last
      ((session.play client mask scenarios tally.skip).run link start)) :
    Played session client link mask (scenario :: scenarios) tally start answers last
      ((session.play client mask (scenario :: scenarios) tally).run link start) := by
  obtain ⟨attempts, unsent⟩ := attempts_of_unsent scenarios inexpressible
  have path : session.play client mask (scenario :: scenarios) tally =
      session.play client mask scenarios tally.skip := by
    simp only [play, inexpressible]
  rw [path]
  refine ⟨?_, ?_, rest.axes, ?_⟩
  · rw [attempts]
    exact rest.exchanges
  · rw [attempts]
    exact rest.results
  · rw [attempts, unsent, ← Tally.after_skip]
    exact rest.ending

theorem play_of_sent (sent : Report.encode? session.pad scenario.input = some report) :
    session.play client mask (scenario :: scenarios) tally =
      (Request.exchange ⟨.hidReport report, Observation.isComplete⟩ client).bind
        (session.judge client mask scenario scenarios tally) := by
  simp only [play, sent]
  rfl

theorem played_answered (sent : Report.encode? session.pad scenario.input = some report)
    (first : Request.Answered client link ⟨.hidReport report, Observation.isComplete⟩ start seen middle)
    (rest : Played session client link mask scenarios
      (tally.count (session.result scenario seen mask).passed) middle answers last
      ((session.play client mask scenarios
        (tally.count (session.result scenario seen mask).passed)).run link middle)) :
    Played session client link mask (scenario :: scenarios) tally start (seen :: answers) last
      ((session.play client mask (scenario :: scenarios) tally).run link start) := by
  obtain ⟨attempts, unsent⟩ := attempts_of_sent scenarios sent
  rw [play_of_sent sent]
  obtain ⟨outcome, notices⟩ := run_answered (session.judge client mask scenario scenarios tally) first
  generalize (Dialogue.bind _ _).run link start = run at outcome notices ⊢
  have results : run.results =
      session.judged mask (session.attempts (scenario :: scenarios)) (seen :: answers) := by
    rw [attempts, judged, List.zipWith_cons_cons, ← judged, ← rest.results, Dialogue.Run.results, notices]
    rfl
  refine ⟨?_, results, ?_, ?_⟩
  · rw [attempts]
    exact .more first rest.exchanges
  · intro axes
    rw [Dialogue.Run.axes, notices]
    exact rest.axes axes
  · rw [results, attempts, unsent, outcome]
    obtain ⟨whole, through⟩ | ⟨stuck, ended⟩ := rest.ending
    · refine .inl ⟨congrArg (· + 1) whole, ?_⟩
      rw [judged, List.zipWith_cons_cons, ← judged, ← rest.results, ← Tally.after_count]
      exact through
    · exact .inr ⟨stuck, ended⟩

theorem played_stuck (sent : Report.encode? session.pad scenario.input = some report)
    (failed : ∀ seen after,
      ¬ Request.Answered client link ⟨.hidReport report, Observation.isComplete⟩ start seen after) :
    Played session client link mask (scenario :: scenarios) tally start [] start
      ((session.play client mask (scenario :: scenarios) tally).run link start) := by
  rw [play_of_sent sent]
  obtain ⟨silent, ended⟩ := run_unanswered (session.judge client mask scenario scenarios tally) failed
  refine ⟨.none start, ?_, ?_, .inr ⟨?_, ended⟩⟩
  · rw [Dialogue.Run.results, silent, judged, List.zipWith_nil_right]
    rfl
  · intro axes
    rw [Dialogue.Run.axes, silent]
    rfl
  · rw [(attempts_of_sent scenarios sent).1]
    exact ⟨_, rfl, failed⟩

theorem played (session : Session) (client : Client) (link : Link σ) (mask : UInt32)
    (scenarios : List Scenario) (tally : Tally) (start : σ) :
    ∃ answers last, Played session client link mask scenarios tally start answers last
      ((session.play client mask scenarios tally).run link start) := by
  -- The tally so far and the state of the link are what one scenario hands to the next.
  induction scenarios generalizing tally start with
  | nil => exact ⟨[], start, .none start, rfl, fun _ => rfl, .inl ⟨rfl, rfl⟩⟩
  | cons scenario scenarios ih =>
    cases sent : Report.encode? session.pad scenario.input with
    | none =>
      obtain ⟨answers, last, rest⟩ := ih tally.skip start
      exact ⟨answers, last, played_unsent sent rest⟩
    | some report =>
      by_cases answered : ∃ seen middle,
          Request.Answered client link ⟨.hidReport report, Observation.isComplete⟩ start seen middle
      · obtain ⟨seen, middle, first⟩ := answered
        obtain ⟨answers, last, rest⟩ := ih (tally.count (session.result scenario seen mask).passed) middle
        exact ⟨seen :: answers, last, played_answered sent first rest⟩
      · refine ⟨[], start, played_stuck sent fun seen middle first => ?_⟩
        exact answered ⟨seen, middle, first⟩

theorem length_of_exchanges {asked : List Request}
    (exchanges : Exchanges client link start asked answers last) : asked.length = answers.length := by
  induction exchanges with
  | none state => rfl
  | more first rest ih => exact congrArg (· + 1) ih

theorem length_judged {attempts : List (Scenario × Request)}
    (exchanges : Exchanges client link start ((attempts.map Prod.snd).take answers.length) answers last) :
    (session.judged mask attempts answers).length = answers.length := by
  have within := length_of_exchanges exchanges
  rw [List.length_take, List.length_map] at within
  rw [judged, List.length_zipWith, Nat.min_comm]
  exact within

/-- A session that is ready goes on with its scenarios, with no result yet and its own axes in force. -/
theorem path_of_begun {ready : Adapter}
    (begun : ((session.setUp client).run link start).outcome = some (.ok ready)) :
    let path := session.path client link start
    let rest := (session.play client ready.source.buttons.union ready.scenarios .zero).run link
      ((session.setUp client).run link start).link
    path.outcome = rest.outcome ∧ path.results = rest.results ∧
      path.axes session.adapter.source.axes = rest.axes ready.source.axes := by
  obtain ⟨none, settled⟩ := Dialogue.run_of_settles link (session.settles_setUp client) start
  have path := Dialogue.run_bind_of_ok (fun adapter : Adapter =>
    session.play client adapter.source.buttons.union adapter.scenarios .zero) begun
  have whole : session.path client link start = _ := path
  rw [whole]
  refine ⟨rfl, ?_, ?_⟩
  · rw [Dialogue.Run.results, List.filterMap_append]
    exact congrArg (· ++ _) none
  · rw [Dialogue.Run.axes, List.foldl_append]
    exact congrArg ((session.play client _ _ .zero).run link _).axes (settled ready begun)

/-- A session that does not get ready ends without a result. -/
theorem path_of_not_begun
    (failed : ∀ ready, ((session.setUp client).run link start).outcome ≠ some (.ok ready)) :
    (∀ tally, (session.path client link start).outcome ≠ some (.ok tally)) ∧
      (session.path client link start).results = [] := by
  obtain ⟨none, _⟩ := Dialogue.run_of_settles link (session.settles_setUp client) start
  obtain ⟨outcome, path, ended⟩ := Dialogue.run_bind_of_not_ok (fun adapter : Adapter =>
    session.play client adapter.source.buttons.union adapter.scenarios .zero) failed
  have whole : session.path client link start = _ := path
  rw [whole]
  refine ⟨fun tally through => ?_, none⟩
  obtain ⟨_, rfl⟩ | ⟨fault, _, rfl⟩ := ended <;> cases through

end

/-- What a session has done by its end, on a path on which it was ready for its scenarios: `answers` are
those of the attempts, and `values` what the program writes of them. -/
structure Accounts {σ : Type} (session : Session) (client : Client) (link : Link σ) (start : σ)
    (clock : Nat → String) (ready : Adapter) (answers : List Observation) (last : σ) (values : List Json) :
    Prop where
  begun : ((session.setUp client).run link start).outcome = some (.ok ready)
  exchanges : Exchanges client link ((session.setUp client).run link start).link
    (((session.attempts ready.scenarios).map Prod.snd).take answers.length) answers last
  /-- Each answered attempt has its result, in the order of the scenarios. -/
  results : (session.path client link start).results =
    session.judged ready.source.buttons.union (session.attempts ready.scenarios) answers
  written : ScenarioResult.WrittenAs clock (session.path client link start).results values
  lines : Program.resultLines clock (session.path client link start).results =
    ⟨String.join (values.map JsonLines.line), answers.length⟩
  verdicts : ∀ value ∈ values, ∃ passed mismatches,
    ScenarioResult.verdict? value = some (passed, mismatches) ∧ (passed = true ↔ mismatches = [])
  /-- A tally counts every scenario once, as it was. -/
  through : ∀ tally, (session.path client link start).outcome = some (.ok tally) →
    answers.length = (session.attempts ready.scenarios).length ∧
    tally.total = ready.scenarios.length ∧
    tally.skipped = session.unsent ready.scenarios ∧
    tally.passed + tally.failed = answers.length ∧
    tally.failed = values.countP ScenarioResult.saysFailed
  stuck : (∀ tally, (session.path client link start).outcome ≠ some (.ok tally)) →
    Stuck client link (session.attempts ready.scenarios) answers last
  /-- No answer to a scenario has changed the calibration. -/
  axes : (session.path client link start).axes session.adapter.source.axes = ready.source.axes

section

variable {σ : Type} {session : Session} {client : Client} {link : Link σ} {start : σ}

theorem accounts_of_begun {ready : Adapter} (clock : Nat → String)
    (begun : ((session.setUp client).run link start).outcome = some (.ok ready)) :
    ∃ answers last values, session.Accounts client link start clock ready answers last values := by
  obtain ⟨outcome, results, axes⟩ := path_of_begun begun
  obtain ⟨answers, last, rest⟩ := played session client link ready.source.buttons.union ready.scenarios .zero
    ((session.setUp client).run link start).link
  obtain ⟨values, written, lines⟩ := Program.exists_writtenAs clock (session.path client link start).results
  have judged := results.trans rest.results
  have one : (session.path client link start).results.length = answers.length := by
    rw [judged, length_judged rest.exchanges]
  refine ⟨answers, last, values, begun, rest.exchanges, judged, written, one ▸ lines,
    fun value => written.verdict?_of_mem, ?_, ?_, axes.trans (rest.axes _)⟩
  · intro tally through
    rw [outcome] at through
    obtain ⟨whole, counted⟩ | ⟨_, ended⟩ := rest.ending
    · rw [counted, ← results, Tally.after_zero] at through
      cases through
      have sent := ScenarioResult.passed_add_failed (session.path client link start).results
      have every := length_attempts session ready.scenarios
      refine ⟨whole, ?_, rfl, sent.trans one, written.countP_saysFailed.symm⟩
      simp only [Tally.total]
      omega
    · exact absurd through (ended tally)
  · intro failed
    obtain ⟨_, counted⟩ | ⟨stuck, _⟩ := rest.ending
    · rw [outcome] at failed
      exact absurd counted (failed _)
    · exact stuck

end

/-- The program opens the file of its results, and holds a session with whatever is at the link. It ends as the
session does, and the file then holds what it held and the lines of the results. A session that does not get
ready has none, and one that does accounts for every scenario. -/
theorem accounts {σ : Type} (world : Program.World σ) (settings : Settings) (session : Session)
    {files made : Files.Tree} {place : Files.Place} (far : σ) (recorded : settings.results.enabled = true)
    (opens : files.opened settings.results.path = .ok (made, place)) :
    let client := Client.ofSettings settings.dut
    let path := session.path client world.link far
    let written := Program.resultLines world.clock path.results
    (∃ ending, Program.drive world settings session files far = .ok ending ∧
      ending.failure = Program.failureOf path.outcome ∧
      ending.files.read settings.results.path = .ok ((files.content? place).getD "" ++ written.text)) ∧
    ((∀ ready, ((session.setUp client).run world.link far).outcome ≠ some (.ok ready)) ∧
        (∀ tally, path.outcome ≠ some (.ok tally)) ∧ written = .empty ∨
      ∃ ready answers last values,
        session.Accounts client world.link far world.clock ready answers last values) := by
  intro client path written
  refine ⟨⟨_, Program.drive_of_opened world session far recorded opens, rfl,
    Files.Tree.read_append opens _⟩, ?_⟩
  by_cases begun : ∃ ready, ((session.setUp client).run world.link far).outcome = some (.ok ready)
  · obtain ⟨ready, begun⟩ := begun
    exact .inr ⟨ready, accounts_of_begun world.clock begun⟩
  · have failed : ∀ ready, ((session.setUp client).run world.link far).outcome ≠ some (.ok ready) :=
      fun ready through => begun ⟨ready, through⟩
    obtain ⟨unfinished, none⟩ := path_of_not_begun failed
    refine .inl ⟨failed, unfinished, ?_⟩
    simp only [written, path, none]
    rfl

/-- Results go to a new file, in a directory that is made for it. The adapter answers two scenarios and not the
third: the program fails, and the file has the lines of these two. -/
theorem accounts_of_recalibrating :
    let session := new .switchPro .gameCube Response.defaultFraction none
    let settings : Settings :=
      ⟨{ Settings.Dut.default with handle := 1, maxLines := 8 }, .default, ⟨true, "nested/oracle.jsonl", "jsonl"⟩,
        .default⟩
    let world : Program.World Playback := ⟨[], .empty, Playback.link, fun _ _ => none, fun _ => "now"⟩
    let far := Playback.start (recalibratingLines.map .line) none none none
    ∃ ending ready answers last first second,
      Program.drive world settings session .empty far = .ok ending ∧
      session.Accounts (.ofSettings settings.dut) world.link far world.clock ready answers last [first, second] ∧
      answers.length = 2 ∧
      ending.files.read "nested/oracle.jsonl" = .ok (JsonLines.line first ++ JsonLines.line second) := by
  intro session settings world far
  obtain ⟨-, -, named⟩ := path_of_recalibrating rfl
  have opens : Files.Tree.empty.opened "nested/oracle.jsonl" =
      .ok (⟨[], [["nested"]]⟩, ["nested", "oracle.jsonl"]) := rfl
  obtain ⟨⟨ending, driven, -, held⟩, ended⟩ := accounts world settings session far rfl opens
  have two : (session.path (.ofSettings settings.dut) Playback.link far).results.length = 2 := by
    rw [← List.length_map ScenarioResult.scenario]
    exact congrArg List.length named
  obtain ⟨-, -, none⟩ | ⟨ready, answers, last, values, done⟩ := ended
  · obtain ⟨_, -, lines⟩ := Program.exists_writtenAs world.clock
      (session.path (.ofSettings settings.dut) Playback.link far).results
    rw [two] at lines
    exact absurd (congrArg JsonLines.lines (none.symm.trans lines)) (Nat.zero_ne_add_one 1)
  · have one : (session.path (.ofSettings settings.dut) Playback.link far).results.length = answers.length := by
      rw [done.results, length_judged done.exchanges]
    obtain ⟨first, second, rfl⟩ := List.length_eq_two.mp (done.written.length.trans two)
    refine ⟨ending, ready, answers, last, first, second, driven, done, one.symm.trans two, ?_⟩
    rw [held, done.lines]
    simp only [List.map_cons, List.map_nil, String.join_cons, String.join_nil, String.append_empty]
    exact congrArg Except.ok String.empty_append

end Session

end PadBench
