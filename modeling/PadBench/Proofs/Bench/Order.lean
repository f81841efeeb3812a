import PadBench.Proofs.Bench.Exchange
import PadBench.Proofs.Bench.Sequence
import PadBench.Proofs.Record.Expected
import PadBench.Proofs.Record.RoundTrip

/-!
A session asks its requests in order, on every link.

`Meets` says of what is left of a session that it goes on with what is left of the sequence. Each part of
a session meets the sequence if what follows it does.

* `frames_in_order`: the parts put together;
* `recites_setUp`, `recites_play`: the parts again, with an adapter that answers each request with one line.
-/
namespace PadBench.Session

/-- What a session has asked when it ends. One that is through has asked everything. Another has asked the
first few, and only a calibration that its adapter refuses can stop it between two requests. -/
def Fulfils {α : Type} (session : Session) (name : String) (asked : List Request)
    (answers : List Observation) : Ending α → Prop
  | .finished _ => asked = session.requests name answers
  | .unanswered request => asked ++ [request] <+: session.requests name answers
  | .stopped fault =>
    asked <+: session.requests name answers ∧ ∃ earlier seen report cause,
      answers = earlier ++ [seen] ∧ seen.calibration = some report ∧
        (session.inForce earlier).calibrate report = .error cause ∧ fault = .ofCalibration cause

/-- After some requests and their answers, the dialogue goes on as the session has to, whatever state the
link is in. -/
def Meets {σ α : Type} (session : Session) (client : Client) (link : Link σ) (name : String)
    (asked : List Request) (answers : List Observation) (dialogue : Dialogue α) : Prop :=
  ∀ start, ∃ more given ending last, Course client link dialogue start more given ending last ∧
    session.Fulfils name (asked ++ more) (answers ++ given) ending

section

variable {σ α : Type} {session : Session} {client : Client} {link : Link σ} {name : String}
  {asked : List Request} {answers : List Observation}

theorem meets_done (whole : asked = session.requests name answers) (value : α) :
    session.Meets client link name asked answers (.done value) := by
  intro start
  refine ⟨[], [], .finished value, start, .finished value start, ?_⟩
  rw [List.append_nil, List.append_nil]
  exact whole

theorem meets_notify {dialogue : Dialogue α}
    (rest : session.Meets client link name asked answers dialogue) (notice : Notice) :
    session.Meets client link name asked answers (.notify notice dialogue) := by
  intro start
  obtain ⟨more, given, ending, last, course, fulfils⟩ := rest start
  exact ⟨more, given, ending, last, .told course, fulfils⟩

/-- The next request of the sequence is asked; what comes after it may take it to be answered. -/
theorem meets_ask (request : Request) {next : Observation → Dialogue α}
    (due : asked ++ [request] <+: session.requests name answers)
    (rest : ∀ seen, request.isEnough seen = true →
      session.Meets client link name (asked ++ [request]) (answers ++ [seen]) (next seen)) :
    session.Meets client link name asked answers ((request.exchange client).bind next) := by
  intro start
  by_cases answered : ∃ seen after, request.Answered client link start seen after
  · obtain ⟨seen, middle, first⟩ := answered
    obtain ⟨more, given, ending, last, course, fulfils⟩ := rest seen (isEnough_of_answered first) middle
    refine ⟨request :: more, seen :: given, ending, last, .answered first course, ?_⟩
    rw [List.append_cons, List.append_cons answers]
    exact fulfils
  · refine ⟨[], [], .unanswered request, start, .unanswered ?_, ?_⟩
    · intro seen after first
      exact answered ⟨seen, after, first⟩
    · rw [List.append_nil, List.append_nil]
      exact due

/-- The calibration of the last answer is adopted, or refused and the session stopped. -/
theorem meets_adopt {earlier : List Observation} {seen : Observation} {next : Adapter → Dialogue α}
    (named : 3 ≤ earlier.length) (due : asked <+: session.requests name (earlier ++ [seen]))
    (rest : session.Meets client link name asked (earlier ++ [seen])
      (next (session.inForce (earlier ++ [seen])))) :
    session.Meets client link name asked (earlier ++ [seen])
      ((adopt (session.inForce earlier) seen).bind next) := by
  rw [inForce_concat named] at rest
  rw [adopt]
  cases told : seen.calibration with
  | none =>
    rw [adopted_of_quiet _ told] at rest
    exact rest
  | some report =>
    cases applied : (session.inForce earlier).calibrate report with
    | ok result =>
      rw [adopted_of_ok told applied] at rest
      simp only [applied]
      exact meets_notify rest _
    | error cause =>
      simp only [applied]
      intro start
      refine ⟨[], [], .stopped (.ofCalibration cause), start, .stopped _ start, ?_⟩
      rw [List.append_nil, List.append_nil]
      exact ⟨due, earlier, seen, report, cause, rfl, told, applied, rfl⟩

/-- Replies are handed over until one is answered with a calibration, which the last one must be. -/
theorem meets_calibrate {replies : List (List UInt8)} (nonempty : replies ≠ [])
    {next : Observation → Dialogue α}
    (due : ∀ given, asked ++ handedOver (replyRequests replies) given <+:
      session.requests name (answers ++ given))
    (rest : ∀ quiet seen, (∀ earlier ∈ quiet, earlier.calibration = none) →
      (handedOver (replyRequests replies) (quiet ++ [seen])).length = quiet.length + 1 →
      session.Meets client link name (asked ++ handedOver (replyRequests replies) (quiet ++ [seen]))
        (answers ++ quiet ++ [seen]) (next seen)) :
    session.Meets client link name asked answers ((client.calibrate replies).bind next) := by
  induction replies generalizing asked answers with
  | nil => exact absurd rfl nonempty
  | cons reply replies ih =>
    cases replies with
    | nil =>
      have first := due []
      rw [List.append_nil] at first
      refine meets_ask ⟨.hidReport reply, fun seen => seen.calibration.isSome⟩ first fun seen told => ?_
      have told : seen.calibration.isSome = true := told
      have goes := rest [] seen (by simp) (by simp [replyRequests, handedOver])
      simpa [replyRequests, handedOver, told] using goes
    | cons second replies =>
      have first : asked ++ [.any (.hidReport reply)] <+: session.requests name answers := by
        have all := due []
        rw [List.append_nil] at all
        exact List.IsPrefix.trans ⟨replyRequests (second :: replies), by
          rw [List.append_assoc]; rfl⟩ all
      rw [Client.calibrate, Dialogue.bind_eq, Dialogue.bind_assoc]
      · refine meets_ask (.any (.hidReport reply)) first fun seen _ => ?_
        by_cases told : seen.calibration.isSome
        · have goes := rest [] seen (by simp) (by simp [replyRequests, handedOver, told])
          simpa [replyRequests, handedOver, told] using goes
        · rw [if_neg told]
          refine ih (List.cons_ne_nil _ _) ?_ ?_
          · intro given
            have later := due (seen :: given)
            simpa [replyRequests, handedOver, told] using later
          · intro quiet last silent length
            have later := rest (seen :: quiet) last
            simp only [List.mem_cons, forall_eq_or_imp] at later
            have goes := later ⟨by simpa using told, silent⟩
              (by simpa [replyRequests, handedOver, told] using length)
            simpa [replyRequests, handedOver, told] using goes
      · simp

/-- The same report, each time with the calibration adopted that the answer reports. -/
theorem meets_warmUp {report : List UInt8} {count : Nat} {next : Adapter → Dialogue α}
    (named : 3 ≤ answers.length)
    (due : ∀ given, asked ++ List.replicate count ⟨.hidReport report, Observation.isComplete⟩ <+:
      session.requests name (answers ++ given))
    (rest : ∀ given : List Observation, given.length = count →
      session.Meets client link name
        (asked ++ List.replicate count ⟨.hidReport report, Observation.isComplete⟩) (answers ++ given)
        (next (session.inForce (answers ++ given)))) :
    session.Meets client link name asked answers
      ((warmUp client report count (session.inForce answers)).bind next) := by
  induction count generalizing asked answers with
  | zero =>
    have goes := rest [] rfl
    rw [List.replicate_zero, List.append_nil, List.append_nil] at goes
    exact goes
  | succ count ih =>
    have first := due []
    rw [List.append_nil, List.replicate_succ, List.append_cons] at first
    rw [warmUp, Dialogue.bind_eq, Dialogue.bind_assoc]
    refine meets_ask ⟨.hidReport report, Observation.isComplete⟩
      (List.IsPrefix.trans (List.prefix_append _ _) first) fun seen _ => ?_
    rw [Dialogue.bind_eq, Dialogue.bind_assoc]
    refine meets_adopt named ?_ (ih ?_ ?_ ?_)
    · have second := due [seen]
      rw [List.replicate_succ, List.append_cons] at second
      exact List.IsPrefix.trans (List.prefix_append _ _) second
    · rw [List.length_append]
      exact Nat.le_add_right_of_le named
    · intro given
      have later := due (seen :: given)
      rwa [List.replicate_succ, List.append_cons, List.append_cons answers] at later
    · intro given length
      have later := rest (seen :: given) (by rw [List.length_cons, length])
      rwa [List.replicate_succ, List.append_cons, List.append_cons answers] at later

/-- The scenarios in order, without those the pad has no report of. -/
theorem meets_play {scenarios : List Scenario} (mask : UInt32) (tally : Tally)
    (whole : ∀ given, session.requests name (answers ++ given) =
      asked ++ (scenarios.map Scenario.input).filterMap session.report?) :
    session.Meets client link name asked answers (session.play client mask scenarios tally) := by
  induction scenarios generalizing asked answers tally with
  | nil =>
    have all := whole []
    rw [List.append_nil, List.map_nil, List.filterMap_nil, List.append_nil] at all
    exact meets_done all.symm tally
  | cons scenario scenarios ih =>
    rw [play]
    cases sent : Report.encode? session.pad scenario.input with
    | none =>
      refine ih tally.skip fun given => ?_
      rw [whole given, List.map_cons, List.filterMap_cons_none]
      rw [report?, sent, Option.map_none]
    | some report =>
      have here : session.report? scenario.input =
          some ⟨.hidReport report, Observation.isComplete⟩ := by
        rw [report?, sent, Option.map_some]
      simp only [List.map_cons, List.filterMap_cons_some here] at whole
      have all := whole []
      rw [List.append_nil, List.append_cons] at all
      refine meets_ask ⟨.hidReport report, Observation.isComplete⟩ ⟨_, all.symm⟩ fun seen _ => ?_
      refine meets_notify (ih _ fun given => ?_) _
      rw [List.append_assoc, whole, List.append_cons]

/-- What follows the handshake: the reports at rest, and the scenarios of the adapter they leave. -/
theorem meets_after_handshake {format : ReportFormat}
    (known : session.pad.reportFormat? = some format) (follows : session.adapter.Follows session.pad)
    (named : 3 ≤ answers.length) (shaken : session.handshake name answers = asked)
    (same : asked.length = answers.length) :
    session.Meets client link name asked answers
      ((Dialogue.ofExcept (session.restReport (session.inForce answers))).bind fun report =>
        (warmUp client report warmUpReports (session.inForce answers)).bind fun adapter =>
          session.play client adapter.source.buttons.union adapter.scenarios .zero) := by
  obtain ⟨report, sent⟩ := Report.rest_has_report (inForce_follows follows answers) known
  have resting : session.report? (session.inForce answers).restState =
      some ⟨.hidReport report, Observation.isComplete⟩ := by
    rw [report?, sent, Option.map_some]
  have sequence (given : List Observation) : session.requests name (answers ++ given) =
      asked ++ List.replicate warmUpReports ⟨.hidReport report, Observation.isComplete⟩ ++
        ((session.inForce (answers ++ given.take warmUpReports)).scenarios.map
          Scenario.input).filterMap session.report? := by
    rw [requests_append (by rw [shaken, same]), shaken, List.filterMap_append,
      List.filterMap_replicate_of_some resting, List.append_assoc]
  rw [restReport, sent]
  refine meets_warmUp named (fun given => ?_) fun given length => meets_play _ _ fun more => ?_
  · rw [sequence]
    exact List.prefix_append _ _
  · rw [List.append_assoc, sequence, List.take_left' length]

theorem calibration_of_replies {pad : WirelessPad} {replies : List (List UInt8)}
    (handing : Report.calibrationReplies? pad = some replies) :
    ∃ layout, pad.calibration = some layout := by
  cases pad with
  | switchPro => exact ⟨_, rfl⟩
  | _ => cases handing

theorem replies_ne_nil {pad : WirelessPad} {replies : List (List UInt8)}
    (handing : Report.calibrationReplies? pad = some replies) : replies ≠ [] := by
  cases pad with
  | switchPro =>
    cases handing
    exact List.cons_ne_nil _ _
  | _ => cases handing

/-- A pad that calibrates itself hands its calibration over, and with that the handshake ends. -/
theorem meets_handOver {next : Adapter → Dialogue α} (follows : session.adapter.Follows session.pad)
    (opened : answers.length = (session.opening name).length) (named : 3 ≤ answers.length)
    (rest : ∀ given, (session.handshake name (answers ++ given)).length = (answers ++ given).length →
      session.Meets client link name (session.handshake name (answers ++ given)) (answers ++ given)
        (next (session.inForce (answers ++ given)))) :
    session.Meets client link name (session.opening name) answers
      ((session.handOverCalibration client (session.inForce answers)).bind next) := by
  have handshake (given : List Observation) : session.handshake name (answers ++ given) =
      session.opening name ++
        handedOver (replyRequests ((Report.calibrationReplies? session.pad).getD [])) given := by
    rw [Session.handshake, ← opened, List.drop_left]
  rw [handOverCalibration]
  cases handing : Report.calibrationReplies? session.pad with
  | none =>
    have nothing : session.handshake name (answers ++ []) = session.opening name := by
      rw [handshake, handing]
      exact List.append_nil _
    have goes := rest []
    rw [nothing, List.append_nil] at goes
    cases (session.inForce answers).source.calibration <;> exact goes opened.symm
  | some replies =>
    obtain ⟨layout, live⟩ := calibration_of_replies handing
    rw [(inForce_follows follows answers).calibration, live]
    simp only [handing, Option.getD_some] at handshake
    simp only [Dialogue.bind_eq, Dialogue.bind_assoc]
    refine meets_calibrate (replies_ne_nil handing) (fun given => ?_) fun quiet seen silent length => ?_
    · rw [← handshake]
      exact handshake_prefix_requests session name _
    · rw [← inForce_append_quiet named silent]
      have goes := rest (quiet ++ [seen])
      rw [← List.append_assoc] at goes
      rw [← handshake, ← List.append_assoc]
      refine meets_adopt (by rw [List.length_append]; omega) ?_ (goes ?_)
      · exact handshake_prefix_requests session name _
      · rw [List.append_assoc, handshake, List.length_append, length]
        simp only [List.length_append, List.length_singleton, opened]

/-- Once it has been told the descriptor of a generic pad, an adapter has all of the opening. -/
theorem meets_describePad {next : Adapter → Dialogue α} (named : answers.length = 4)
    (rest : ∀ given, (answers ++ given).length = (session.opening name).length →
      session.Meets client link name (session.opening name) (answers ++ given)
        (next (session.inForce (answers ++ given)))) :
    session.Meets client link name (session.introduction name) answers
      ((session.describePad client (session.inForce answers)).bind next) := by
  have opening : session.opening name = session.introduction name ++ session.description := rfl
  by_cases generic : session.pad = .generic
  · have described : session.description = [.any (.hidDescriptor Report.genericDescriptor)] := by
      rw [description, generic]
    rw [described] at opening
    rw [opening] at rest
    simp only [describePad, generic, Dialogue.bind_eq, Dialogue.bind_assoc]
    refine meets_ask (.any (.hidDescriptor Report.genericDescriptor)) ?_ fun seen _ => ?_
    · rw [← opening]
      exact opening_prefix_requests session name answers
    · refine meets_adopt (by omega) ?_ (rest [seen] ?_)
      · rw [← opening]
        exact opening_prefix_requests session name _
      · rw [List.length_append, named]
        rfl
  · rw [description_of_ne_generic generic, List.append_nil] at opening
    rw [opening] at rest
    have goes := rest []
    rw [List.append_nil] at goes
    rw [describePad_of_ne_generic generic]
    exact goes named

/-- A pad that has reports has a name. -/
theorem advertisedName_of_format {format : ReportFormat}
    (known : session.pad.reportFormat? = some format) : ∃ name, session.advertisedName = .ok name := by
  have own : ∃ name, Report.deviceName? session.pad = some name := by
    refine Report.cases_of_format (motive := fun pad _ => ∃ name, Report.deviceName? pad = some name)
      known ?_ ?_ ?_ ?_ <;> exact ⟨_, rfl⟩
  obtain ⟨name, own⟩ := own
  rw [advertisedName, own]
  cases session.deviceName with
  | some other => exact ⟨other, rfl⟩
  | none => exact ⟨name, rfl⟩

/-- A session goes through its sequence from the beginning. -/
theorem meets_dialogue {format : ReportFormat} (known : session.pad.reportFormat? = some format)
    (follows : session.adapter.Follows session.pad) (announced : session.advertisedName = .ok name) :
    session.Meets client link name [] [] (session.dialogue client) := by
  have due (asked : List Request) (answers : List Observation) (early : asked <+: session.introduction name) :
      asked <+: session.requests name answers :=
    early.trans ((List.prefix_append _ _).trans (opening_prefix_requests session name answers))
  simp only [dialogue, setUp, announced, Dialogue.bind_eq, Dialogue.bind_assoc]
  refine meets_ask (.any .disconnect) (due _ _ ⟨_, rfl⟩) fun first _ => ?_
  refine meets_ask (.any (.systemId session.console.systemId)) (due _ _ ⟨_, rfl⟩) fun second _ => ?_
  refine meets_ask (.any (.connect false)) (due _ _ ⟨_, rfl⟩) fun third _ => ?_
  refine meets_ask (.any (.name name)) (due _ _ ⟨_, rfl⟩) fun fourth _ => ?_
  refine meets_adopt (Nat.le_refl [first, second, third].length) (due _ _ ⟨[], rfl⟩) ?_
  refine meets_describePad rfl fun described opened => ?_
  have named : 3 ≤ ([first, second, third] ++ [fourth] ++ described).length := by
    rw [List.length_append]
    exact Nat.le_add_right_of_le (Nat.le_succ 3)
  refine meets_handOver follows opened named fun given complete => ?_
  refine meets_after_handshake known follows ?_ rfl complete
  rw [List.length_append]
  exact Nat.le_add_right_of_le named

theorem frames_prefix {run : Dialogue.Run σ α} {last : σ} {ending : Ending α}
    (ends : Ends client link run asked last ending) (fulfils : session.Fulfils name asked answers ending) :
    run.frames.map .ok <+: (session.requests name answers).map (·.frame client) := by
  cases ending with
  | finished value =>
    have same : run.frames.map .ok = (session.requests name answers).map (·.frame client) := by
      rw [ends.2, fulfils]
    exact same ▸ List.prefix_refl _
  | stopped fault =>
    rw [ends.2]
    exact fulfils.1.map _
  | unanswered request =>
    refine List.IsPrefix.trans ?_ (fulfils.map _)
    rw [ends.1, frames_exchange, List.map_append]
    cases framed : request.frame client with
    | error cause =>
      simp only [Except.toOption, Option.toList_none, List.map_nil, List.append_nil]
      exact List.prefix_append _ _
    | ok frame =>
      simp only [Except.toOption, Option.toList_some, List.map_cons, List.map_nil, framed]
      exact List.prefix_refl _

/-- Only a session that is through has a value. -/
theorem frames_of_ok {run : Dialogue.Run σ α} {last : σ} {ending : Ending α} {value : α}
    (ends : Ends client link run asked last ending) (fulfils : session.Fulfils name asked answers ending)
    (through : run.outcome = some (.ok value)) :
    run.frames.map .ok = (session.requests name answers).map (·.frame client) := by
  cases ending with
  | finished value => rw [ends.2, fulfils]
  | stopped fault =>
    rw [ends.1] at through
    cases through
  | unanswered request =>
    obtain ⟨_, ⟨_, none⟩ | ⟨fault, _, failed⟩⟩ := ends
    · rw [none] at through
      cases through
    · rw [failed] at through
      cases through

/-- The path of a session over a link. -/
def path (session : Session) (client : Client) (link : Link σ) (start : σ) : Dialogue.Run σ Tally :=
  (session.dialogue client).run link start

/-- The path of a session is in the order of its requests. -/
structure InOrder (session : Session) (client : Client) (link : Link σ) (start : σ) (name : String)
    (asked : List Request) (answers : List Observation) (last : σ) (ending : Ending Tally) : Prop where
  announced : session.advertisedName = .ok name
  /-- Each request is sent once the one before it has been answered. -/
  exchanges : Exchanges client link start asked answers last
  /-- Nothing is sent after a request that is not answered. -/
  ends : Ends client link (session.path client link start) asked last ending
  fulfils : session.Fulfils name asked answers ending
  frames : (session.path client link start).frames.map .ok <+:
    (session.requests name answers).map (·.frame client)
  handle : ∀ frame ∈ (session.path client link start).frames, frame[1]? = some client.handle
  /-- A session that ends well has sent the whole sequence. -/
  whole : ∀ tally, (session.path client link start).outcome = some (.ok tally) →
    (session.path client link start).frames.map .ok = (session.requests name answers).map (·.frame client)
  /-- There is a report at rest, whatever calibration has been adopted. -/
  rest : ∀ adopting, (session.report? (session.inForce adopting).restState).isSome

/-- Whatever the link does, a session whose pad has reports sends its requests in order. -/
theorem frames_in_order {pad : WirelessPad} {format : ReportFormat}
    (known : pad.reportFormat? = some format) (console : Console) (fraction : BinaryFloat)
    (deviceName : Option String) (reports : List CalibrationReport) {adapter : Adapter}
    (reached : reports.foldlM Adapter.calibrate
      (.withFraction pad.profile console.profile fraction) = .ok adapter)
    (client : Client) (link : Link σ) (start : σ) :
    ∃ name asked answers last ending,
      InOrder ⟨pad, console, adapter, deviceName⟩ client link start name asked answers last ending := by
  have follows := Adapter.reached_follows reached
  obtain ⟨name, announced⟩ : ∃ name,
      Session.advertisedName ⟨pad, console, adapter, deviceName⟩ = .ok name := advertisedName_of_format known
  have meets : Meets ⟨pad, console, adapter, deviceName⟩ client link name [] []
      (dialogue ⟨pad, console, adapter, deviceName⟩ client) := meets_dialogue known follows announced
  obtain ⟨asked, answers, ending, last, course, fulfils⟩ := meets start
  have ends := ends_of_course course
  have frames := frames_prefix ends fulfils
  refine ⟨name, asked, answers, last, ending, announced, exchanges_of_course course, ends, fulfils,
    frames, fun frame sent => ?_, fun tally => frames_of_ok ends fulfils, fun adopting => ?_⟩
  · have framed := frames.subset (List.mem_map_of_mem sent)
    obtain ⟨request, _, framed⟩ := List.mem_map.mp framed
    exact Request.handle_of_frame framed
  · have here : (inForce ⟨pad, console, adapter, deviceName⟩ adopting).Follows pad :=
      inForce_follows follows adopting
    obtain ⟨report, sent⟩ := Report.rest_has_report here known
    rw [report?, sent]
    rfl

end

section

variable {α : Type} {session : Session} {client : Client} {lines : List String} {written sent : Nat}
  {notices : List Notice} {adapter : Adapter} {next : Adapter → Dialogue α} {line : String} {records : List Record}

theorem recites_adopt_quiet {seen : Observation} (quiet : seen.calibration = none)
    (rest : (next adapter).Recites lines written sent notices) :
    ((adopt adapter seen).bind next).Recites lines written sent notices := by
  rw [adopt, quiet]
  exact rest

theorem recites_adopt {result : Adapter} {report : CalibrationReport} {seen : Observation}
    (told : seen.calibration = some report) (accepted : adapter.calibrate report = .ok result)
    (rest : (next result).Recites lines written sent notices) :
    ((adopt adapter seen).bind next).Recites lines written sent
      (.calibrated result.source.axes :: notices) := by
  simp only [adopt, told, accepted]
  exact Dialogue.recites_notify rest

/-- The pad has a report of the state, and the report a frame. -/
def IsSent (pad : WirelessPad) (client : Client) (state : PadState) : Prop :=
  ∃ report frame, Report.encode? pad state = some report ∧
    Command.encode (.hidReport report) client.handle = .ok frame

/-- What comes before the scenarios of a Switch pad, with an adapter that tells its calibration in answer to the
first reply. -/
theorem recites_setUp {console : Console} {tuned : Adapter} {reply second : List UInt8}
    {replies : List (List UInt8)} {layout : CalibrationLayout} {report : CalibrationReport}
    {calibration stages : String} (live : adapter.source.calibration = some layout)
    (handing : Report.calibrationReplies? .switchPro = some (reply :: second :: replies))
    (accepted : adapter.calibrate report = .ok tuned) (resting : IsSent .switchPro client tuned.restState)
    (framed : ∀ command ∈ [.disconnect, .systemId console.systemId, .connect false, .name "Pro Controller",
      .hidReport reply], ∃ frame, Command.encode command client.handle = .ok frame)
    (allowed : 0 < client.maxLines) (object : Record.ofLine? line = .ok (some []))
    (told : Record.ofLine? calibration = .ok (some [.calibration report]))
    (shown : Record.ofLine? stages = .ok (some records))
    (complete : (Observation.empty.pushAll records).isComplete = true)
    (quiet : (Observation.empty.pushAll records).calibration = none)
    (goes : (next tuned).Recites lines (written + 7) sent notices) :
    ((setUp ⟨.switchPro, console, adapter, none⟩ client).bind next).Recites
      ([line, line, line, line, calibration, stages, stages] ++ lines) written (sent + 7)
      (.calibrated tuned.source.axes :: notices) := by
  simp only [List.forall_mem_cons] at framed
  obtain ⟨⟨_, first⟩, ⟨_, second⟩, ⟨_, third⟩, ⟨_, fourth⟩, ⟨_, fifth⟩, -⟩ := framed
  obtain ⟨rest, _, resting, sixth⟩ := resting
  have announced : advertisedName ⟨.switchPro, console, adapter, none⟩ = .ok "Pro Controller" := rfl
  have reported : restReport ⟨.switchPro, console, adapter, none⟩ tuned = .ok rest := by
    rw [restReport, resting]
  have heard : (Observation.empty.pushAll [.calibration report]).calibration = some report := rfl
  simp only [setUp, announced, Dialogue.bind_eq, Dialogue.bind_assoc]
  refine Dialogue.recites_ask (.any .disconnect) first allowed object rfl ?_
  refine Dialogue.recites_ask (.any (.systemId console.systemId)) second allowed object rfl ?_
  refine Dialogue.recites_ask (.any (.connect false)) third allowed object rfl ?_
  refine Dialogue.recites_ask (.any (.name "Pro Controller")) fourth allowed object rfl ?_
  refine recites_adopt_quiet rfl ?_
  simp only [describePad, Dialogue.bind, handOverCalibration, live, handing, Client.calibrate,
    Dialogue.bind_eq, Dialogue.bind_assoc]
  refine Dialogue.recites_ask (.any (.hidReport reply)) fifth allowed told rfl ?_
  simp only [heard, Option.isSome_some, if_true, Dialogue.bind]
  refine recites_adopt heard accepted ?_
  simp only [reported, Dialogue.ofExcept, Dialogue.bind, warmUpReports, warmUp, Dialogue.bind_eq,
    Dialogue.bind_assoc]
  refine Dialogue.recites_ask ⟨.hidReport rest, Observation.isComplete⟩ sixth allowed shown complete ?_
  refine recites_adopt_quiet quiet ?_
  refine Dialogue.recites_ask ⟨.hidReport rest, Observation.isComplete⟩ sixth allowed shown complete ?_
  exact recites_adopt_quiet quiet goes

theorem recites_play {scenario : Scenario} {scenarios : List Scenario} {mask : UInt32} {tally : Tally}
    (reported : IsSent session.pad client scenario.input) (allowed : 0 < client.maxLines)
    (shown : Record.ofLine? line = .ok (some records))
    (complete : (Observation.empty.pushAll records).isComplete = true)
    (rest : ∀ tally, (session.play client mask scenarios tally).Recites lines (written + 1) sent notices) :
    (session.play client mask (scenario :: scenarios) tally).Recites (line :: lines) written (sent + 1)
      (.judged (session.result scenario (Observation.empty.pushAll records) mask) :: notices) := by
  obtain ⟨report, _, reported, framed⟩ := reported
  simp only [play, reported]
  exact Dialogue.recites_ask ⟨.hidReport report, Observation.isComplete⟩ framed allowed shown complete
    (Dialogue.recites_notify (rest _))

theorem recites_play_closed {scenario : Scenario} {scenarios : List Scenario} {mask : UInt32} {tally : Tally}
    (reported : IsSent session.pad client scenario.input) (allowed : 0 < client.maxLines) :
    (session.play client mask (scenario :: scenarios) tally).Recites [] written 1 [] := by
  obtain ⟨report, _, reported, framed⟩ := reported
  simp only [play, reported]
  exact Dialogue.recites_closed ⟨.hidReport report, Observation.isComplete⟩ framed allowed

end

/-- A left stick that rests a little off its center. -/
def offCenter : CalibrationReport := ⟨[2100], [1400], [1400], [0]⟩

/-- The lines of an adapter that tells that calibration in the fifth, and from then on all stages of one
scenario. -/
def recalibratingLines : List String :=
  let object := "\x7b\x7d"
  let stages := JsonLines.line Scenario.extremeScenario.expectedJson
  [object, object, object, object, (Record.calibration offCenter).toJson.render, stages, stages, stages, stages]

/-- What the calibration makes of a Switch pad, and how its scenarios begin. -/
theorem exists_recalibrated (client : Client) : ∃ tuned first second third more,
    (new .switchPro .gameCube Response.defaultFraction none).adapter.calibrate offCenter = .ok tuned ∧
    (tuned.source.axes.get .lx).map Calibration.neutral = some 2100 ∧
    tuned.scenarios = first :: second :: third :: more ∧
    first.name = "buttons/none" ∧ second.name = "buttons/LD_LEFT" ∧
    IsSent .switchPro client tuned.restState ∧ IsSent .switchPro client first.input ∧
    IsSent .switchPro client second.input ∧ IsSent .switchPro client third.input :=
  ⟨_, _, _, _, _, rfl, rfl, rfl, rfl, rfl, ⟨_, _, rfl, rfl⟩, ⟨_, _, rfl, rfl⟩, ⟨_, _, rfl, rfl⟩, ⟨_, _, rfl, rfl⟩⟩

/-- With that adapter a session gets through the handshake, adopts the calibration, and is through the reports at
rest and two scenarios when the third is not answered. -/
theorem path_of_recalibrating {path : Dialogue.Run Playback Tally} :
    let session := new .switchPro .gameCube Response.defaultFraction none
    path = session.path ⟨1, 1000, 8⟩ Playback.link (.start (recalibratingLines.map .line) none none none) →
    path.frames.length = 10 ∧
    ((path.axes session.adapter.source.axes).get .lx).map Calibration.neutral = some 2100 ∧
    path.results.map ScenarioResult.scenario = ["buttons/none", "buttons/LD_LEFT"] := by
  intro session whole
  obtain ⟨tuned, first, second, third, more, accepted, neutral, listed, firstName, secondName, resting,
    firstSent, secondSent, thirdSent⟩ := exists_recalibrated ⟨1, 1000, 8⟩
  let seen := Observation.empty.pushAll Scenario.extremeScenario.records
  have shown := Scenario.extremeScenario.ofLine?_expected
  have recited : (session.dialogue ⟨1, 1000, 8⟩).Recites recalibratingLines 0 10
      [.calibrated tuned.source.axes, .judged (session.result first seen tuned.source.buttons.union),
        .judged (session.result second seen tuned.source.buttons.union)] := by
    refine recites_setUp rfl rfl accepted resting ?_ (by decide) rfl (Record.ofLine?_render _) shown rfl rfl ?_
    · simp only [List.forall_mem_cons]
      exact ⟨⟨_, rfl⟩, ⟨_, rfl⟩, ⟨_, rfl⟩, ⟨_, rfl⟩, ⟨_, rfl⟩, nofun⟩
    · rw [listed]
      refine recites_play firstSent (by decide) shown rfl fun tally => ?_
      refine recites_play secondSent (by decide) shown rfl fun tally => ?_
      exact recites_play_closed thirdSent (by decide)
  have same : path = (session.dialogue ⟨1, 1000, 8⟩).run Playback.link
      ⟨recalibratingLines.map .line, none, none, none, 0, 0⟩ := whole
  rw [Dialogue.Recites, ← same] at recited
  obtain ⟨frames, notices⟩ := recited
  refine ⟨frames, ?_, ?_⟩
  · rw [Dialogue.Run.axes, notices]
    exact neutral
  · rw [Dialogue.Run.results, notices]
    simp only [List.filterMap_cons, List.filterMap_nil, List.map_cons, List.map_nil, result, firstName,
      secondName]

/-- The frames of that session are in order, from the handshake to the third scenario. -/
theorem frames_in_order_of_recalibrating :
    let session := new .switchPro .gameCube Response.defaultFraction none
    let start := Playback.start (recalibratingLines.map .line) none none none
    let path := session.path ⟨1, 1000, 8⟩ Playback.link start
    (∃ asked answers last ending,
      InOrder session ⟨1, 1000, 8⟩ Playback.link start "Pro Controller" asked answers last ending) ∧
    path.frames.length = 10 ∧
    ((path.axes session.adapter.source.axes).get .lx).map Calibration.neutral = some 2100 ∧
    path.results.map ScenarioResult.scenario = ["buttons/none", "buttons/LD_LEFT"] := by
  intro session start path
  have told := path_of_recalibrating (rfl : path = _)
  obtain ⟨name, asked, answers, last, ending, ordered⟩ := frames_in_order
    (rfl : WirelessPad.switchPro.reportFormat? = some .switchFull) .gameCube Response.defaultFraction none []
    rfl ⟨1, 1000, 8⟩ Playback.link start
  cases ordered.announced
  exact ⟨⟨asked, answers, last, ending, ordered⟩, told⟩

end PadBench.Session
