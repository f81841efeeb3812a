import PadBench.Proofs.Bench.Accounts

/-!
Sessions whose pad has no reports.

Such a session is refused before it sends anything, because its pad has no name to advertise. A name in the
settings takes that check away: the adapter is then introduced to the pad, and the session is refused when it
needs the first report.

* `dialogue_of_undrivable`: the session is its introduction, and a fault;
* `untouched_iff_unnamed`: nothing is sent exactly if the settings name no device.
-/
namespace PadBench.Session

/-- The requests up to the name of the pad, and the calibration adopted that its answer reports. -/
def introduce (session : Session) (client : Client) (name : String) : Dialogue Adapter := do
  let _ ← client.send .disconnect
  let _ ← client.send (.systemId session.console.systemId)
  let _ ← client.send (.connect false)
  adopt session.adapter (← client.send (.name name))

/-- The fault of a session that needs a report its pad does not have. -/
def noReport (session : Session) : Fault := .unknownProfile (session.pad.name ++ " has no report encoder")

section

variable {σ : Type} {session : Session} {client : Client} {link : Link σ} {start : σ} {name : String}

theorem encode?_of_undrivable {pad : WirelessPad} (undrivable : pad.reportFormat? = none) (state : PadState) :
    Report.encode? pad state = none := by
  simp only [Report.encode?, undrivable, Option.bind_eq_bind, Option.bind_none]

/-- Only pads with reports have a name of their own, a descriptor or a calibration to hand over. -/
theorem mute_of_undrivable {pad : WirelessPad} (undrivable : pad.reportFormat? = none) :
    pad ≠ .generic ∧ Report.deviceName? pad = none ∧ Report.calibrationReplies? pad = none := by
  cases pad <;> first | exact ⟨nofun, rfl, rfl⟩ | cases undrivable

theorem advertisedName_of_undrivable (undrivable : session.pad.reportFormat? = none) :
    session.advertisedName = match session.deviceName with
      | some name => .ok name
      | none => .error (.unknownProfile (session.pad.name ++ " has no report encoder to drive a DUT")) := by
  obtain ⟨_, anonymous, _⟩ := mute_of_undrivable undrivable
  rw [advertisedName, anonymous]
  cases session.deviceName <;> rfl

/-- There is nothing to ask beyond the introduction. -/
theorem requests_of_undrivable (undrivable : session.pad.reportFormat? = none) (answers : List Observation) :
    session.requests name answers = session.introduction name := by
  obtain ⟨special, _, keeps⟩ := mute_of_undrivable undrivable
  have described := description_of_ne_generic special
  have unsent (states : List PadState) : states.filterMap session.report? = [] := by
    refine List.filterMap_eq_nil_iff.mpr fun state _ => ?_
    rw [report?, encode?_of_undrivable undrivable, Option.map_none]
  simp only [requests, handshake, opening, described, keeps, unsent, Option.getD_none, replyRequests,
    handedOver, List.append_nil]

theorem setUp_of_undrivable (undrivable : session.pad.reportFormat? = none)
    (announced : session.advertisedName = .ok name) (client : Client) :
    session.setUp client = (session.introduce client name).bind fun _ => .stop session.noReport := by
  obtain ⟨special, _, keeps⟩ := mute_of_undrivable undrivable
  have described := describePad_of_ne_generic special client
  have kept (adapter : Adapter) : session.handOverCalibration client adapter = .done adapter := by
    rw [handOverCalibration, keeps]
    split
    · contradiction
    · rfl
  have refused (adapter : Adapter) : session.restReport adapter = .error session.noReport := by
    rw [restReport, encode?_of_undrivable undrivable]
    rfl
  simp only [setUp, introduce, announced, described, kept, refused, Dialogue.ofExcept,
    Dialogue.bind_eq, Dialogue.bind_assoc, Dialogue.done_bind, Dialogue.stop_bind]

/-- The session is its introduction, and a fault. -/
theorem dialogue_of_undrivable (undrivable : session.pad.reportFormat? = none)
    (announced : session.advertisedName = .ok name) (client : Client) :
    session.dialogue client = (session.introduce client name).bind fun _ => .stop session.noReport := by
  rw [dialogue, setUp_of_undrivable undrivable announced, Dialogue.bind_eq, Dialogue.bind_assoc]
  rfl

theorem meets_introduce (undrivable : session.pad.reportFormat? = none) :
    session.Meets client link name [] [] (session.introduce client name) := by
  have due (asked : List Request) (answers : List Observation) (early : asked <+: session.introduction name) :
      asked <+: session.requests name answers := by
    rwa [requests_of_undrivable undrivable]
  simp only [introduce, Dialogue.bind_eq]
  refine meets_ask (.any .disconnect) (due _ _ ⟨_, rfl⟩) fun first _ => ?_
  refine meets_ask (.any (.systemId session.console.systemId)) (due _ _ ⟨_, rfl⟩) fun second _ => ?_
  refine meets_ask (.any (.connect false)) (due _ _ ⟨_, rfl⟩) fun third _ => ?_
  refine meets_ask (.any (.name name)) (due _ _ ⟨_, rfl⟩) fun fourth _ => ?_
  rw [← Dialogue.bind_done (adopt session.adapter fourth)]
  refine meets_adopt (Nat.le_refl [first, second, third].length) (due _ _ ⟨[], rfl⟩) ?_
  exact meets_done (requests_of_undrivable undrivable _).symm _

/-- The introduction begins with a frame, whatever becomes of it. -/
theorem frames_introduce : ((session.introduce client name).run link start).frames ≠ [] := by
  have framed : Command.disconnect.encode client.handle =
      .ok (Command.frame Command.disconnect.opcode client.handle []) := rfl
  simp only [introduce, Client.send, Client.exchange, framed, Dialogue.bind_eq, Dialogue.bind, Dialogue.run]
  exact List.cons_ne_nil _ _

theorem deviceName_of_settings {settings : Settings.Model} (built : ofSettings settings = .ok session) :
    session.deviceName = settings.deviceName := by
  simp only [ofSettings, bind, Except.bind] at built
  split at built
  · cases built
  · split at built
    · cases built
    · cases built
      rfl

/-- Without a name the session is refused as it begins. -/
theorem path_of_unnamed (undrivable : session.pad.reportFormat? = none) (unnamed : session.deviceName = none) :
    ∃ reason, session.path client link start = .ended start (some (.error (.unknownProfile reason))) := by
  have refused := advertisedName_of_undrivable undrivable
  rw [unnamed] at refused
  refine ⟨session.pad.name ++ " has no report encoder to drive a DUT", ?_⟩
  rw [path, dialogue, setUp, refused]
  rfl

/-- With one the session sends what introduces the pad, as far as that is answered, and is refused then. -/
theorem path_of_named (undrivable : session.pad.reportFormat? = none)
    (named : session.deviceName = some name) :
    let path := session.path client link start
    path.frames ≠ [] ∧
    path.frames.map .ok <+: (session.introduction name).map (·.frame client) ∧
    (∀ tally, path.outcome ≠ some (.ok tally)) ∧
    path.results = [] ∧
    ∀ adapter, ((session.introduce client name).run link start).outcome = some (.ok adapter) →
      path.outcome = some (.error session.noReport) := by
  intro path
  have announced := advertisedName_of_undrivable undrivable
  rw [named] at announced
  have whole : path =
      ((session.introduce client name).bind fun _ => .stop session.noReport).run link start := by
    rw [← dialogue_of_undrivable undrivable announced client]
    rfl
  obtain ⟨frames, unfinished, refused⟩ :=
    Dialogue.run_bind_stop link (session.introduce client name) session.noReport start
  rw [← whole] at frames unfinished refused
  refine ⟨?_, ?_, unfinished, ?_, refused⟩
  · rw [frames]
    exact frames_introduce
  · have meets : session.Meets client link name [] [] (session.introduce client name) :=
      meets_introduce undrivable
    obtain ⟨asked, answers, ending, last, course, fulfils⟩ := meets start
    have introduced := frames_prefix (ends_of_course course) fulfils
    rw [requests_of_undrivable undrivable] at introduced
    rw [frames]
    exact introduced
  · refine (path_of_not_begun fun ready => ?_).2
    rw [setUp_of_undrivable undrivable announced]
    exact (Dialogue.run_bind_stop link (session.introduce client name) session.noReport start).2.1 ready

/-- Whatever the link does, a session whose pad has no reports is refused before it sends anything exactly if
the settings name no device. It never ends well and has no result; with a name it sends what introduces the
pad, as far as that is answered, and is refused then. -/
theorem untouched_iff_unnamed {settings : Settings} (built : ofSettings settings.model = .ok session)
    (undrivable : session.pad.reportFormat? = none) (client : Client) (link : Link σ) (start : σ) :
    let path := session.path client link start
    ((∃ reason, path.outcome = some (.error (.unknownProfile reason))) ∧ path.frames = [] ↔
      settings.model.deviceName = none) ∧
    (∀ tally, path.outcome ≠ some (.ok tally)) ∧
    path.results = [] ∧
    ∀ name, settings.model.deviceName = some name →
      path.frames.map .ok <+: (session.introduction name).map (·.frame client) ∧
      ∀ adapter, ((session.introduce client name).run link start).outcome = some (.ok adapter) →
        path.outcome = some (.error session.noReport) := by
  intro path
  rw [← deviceName_of_settings built]
  cases named : session.deviceName with
  | none =>
    obtain ⟨reason, ended⟩ : ∃ reason, path = .ended start (some (.error (.unknownProfile reason))) :=
      path_of_unnamed undrivable named
    rw [ended]
    exact ⟨iff_of_true ⟨⟨reason, rfl⟩, rfl⟩ rfl, nofun, rfl, nofun⟩
  | some name =>
    obtain ⟨touched, introduced, unfinished, fruitless, refused⟩ := path_of_named undrivable named
    refine ⟨iff_of_false (fun untouched => touched untouched.2) nofun, unfinished, fruitless, ?_⟩
    rintro _ ⟨⟩
    exact ⟨introduced, refused⟩

end

/-- The default settings, for an Xbox pad on a GameCube. -/
def xboxSettings (deviceName : Option String) : Settings :=
  { Settings.default with model := ⟨Response.defaultFraction, "xbox", "gc", deviceName⟩ }

/-- An adapter that answers every command with a line that reports nothing. -/
def answering : Playback := .start [] (some ⟨[], [], none, [.line "\x7b\x7d"]⟩) none none

/-- Without a name the pad is refused, though the adapter would answer. -/
theorem untouched_iff_unnamed_xbox : ∃ session, ofSettings (xboxSettings none).model = .ok session ∧
    session.pad.reportFormat? = none ∧
    (session.path (.ofSettings Settings.Dut.default) Playback.link answering).frames = [] := by
  have built : ofSettings (xboxSettings none).model = .ok _ := rfl
  obtain ⟨untouched, _⟩ := untouched_iff_unnamed built rfl (.ofSettings Settings.Dut.default) Playback.link
    answering
  exact ⟨_, built, rfl, (untouched.mpr rfl).2⟩

/-- With one, valid settings have the adapter introduced to the pad before the session is refused. -/
theorem named_session_is_introduced : ∃ session,
    (xboxSettings (some "Wireless Controller")).validate = .ok () ∧
    ofSettings (xboxSettings (some "Wireless Controller")).model = .ok session ∧
    session.pad.reportFormat? = none ∧
    (session.path (.ofSettings Settings.Dut.default) Playback.link answering).outcome =
      some (.error (.unknownProfile "xbox has no report encoder")) ∧
    (session.path (.ofSettings Settings.Dut.default) Playback.link answering).frames =
      [[0x02, 0, 0, 0], [0x0A, 0, 1, 0, 0x12], [0x01, 0, 1, 0, 0],
        [0x03, 0, 20, 0] ++ Text.Utf8.encode "Wireless Controller".toList ++ [0]] :=
  ⟨_, rfl, rfl, rfl, rfl, rfl⟩

end PadBench.Session
