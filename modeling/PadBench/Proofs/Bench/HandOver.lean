import PadBench.Proofs.Bench.Exchange

/-!
Handing over a calibration, reply by reply.

* `isAnswer_any`, `isAnswer_calibration`: the answers that a leading reply and the last one wait for, line by
  line;
* `HandedOver`: replies up to the first whose answer tells the calibration;
* `calibrate_stops`: what is sent is the beginning of the replies, and stops exactly there.
-/
namespace PadBench

namespace LinkEvent

/-- The line holds a record of a calibration. -/
def TellsCalibration (event : LinkEvent) : Prop := ∃ report, Record.calibration report ∈ event.said

theorem TellsCalibration.isObject {event : LinkEvent} (tells : event.TellsCalibration) : event.IsObject := by
  obtain ⟨report, member⟩ := tells
  cases event with
  | silent | failed | closed => cases member
  | line text =>
    cases decoded : Record.ofLine? text with
    | error malformed =>
      rw [said, Record.listOfLine, decoded] at member
      cases member
    | ok records =>
      rw [said_line decoded] at member
      cases records with
      | none => cases member
      | some records => exact ⟨text, records, rfl, decoded⟩

end LinkEvent

theorem isSome_calibration_ofEvents_iff {events : List LinkEvent} :
    (Observation.ofEvents events).calibration.isSome = true ↔ ∃ event ∈ events, event.TellsCalibration := by
  rw [Observation.ofEvents, Observation.isSome_calibration_ofRecords_iff]
  simp only [List.mem_flatMap, LinkEvent.TellsCalibration]
  constructor
  · rintro ⟨report, event, member, said⟩
    exact ⟨event, member, report, said⟩
  · rintro ⟨event, member, report, said⟩
    exact ⟨report, event, member, said⟩

theorem isSome_calibration_of_tells (before : List LinkEvent) {line : LinkEvent}
    (tells : line.TellsCalibration) : (Observation.ofEvents (before ++ [line])).calibration.isSome = true :=
  isSome_calibration_ofEvents_iff.mpr ⟨line, List.mem_append_right _ List.mem_cons_self, tells⟩

/-- Where only the last line may tell a calibration, it tells the one that was seen. -/
theorem tells_of_isSome_calibration {before : List LinkEvent} {line : LinkEvent}
    (calm : ∀ earlier ∈ before, ¬ earlier.TellsCalibration)
    (seen : (Observation.ofEvents (before ++ [line])).calibration.isSome = true) : line.TellsCalibration := by
  obtain ⟨event, member, tells⟩ := isSome_calibration_ofEvents_iff.mp seen
  obtain member | rfl : event ∈ before ∨ event = line := by simpa using member
  · exact absurd tells (calm event member)
  · exact tells

/-- An answer that any object is enough for is the first object, after noise. -/
theorem isAnswer_any {events : List LinkEvent} (answer : IsAnswer (fun _ => true) events) :
    ∃ noise object, events = noise ++ [object] ∧ object.IsObject ∧
      ∀ line ∈ noise, line.IsReadable ∧ ¬ line.IsObject := by
  obtain ⟨noise, object, rfl, last⟩ := answer.ends
  refine ⟨noise, object, rfl, last, fun line member => ?_⟩
  refine ⟨answer.readable line (List.mem_append_left _ member), fun other => ?_⟩
  obtain ⟨_, short⟩ := answer.short member other
  cases short

/-- An answer that a calibration is awaited in ends with the first line that tells one. -/
theorem isAnswer_calibration {events : List LinkEvent}
    (answer : IsAnswer (fun seen => seen.calibration.isSome) events) :
    ∃ before line, events = before ++ [line] ∧ line.TellsCalibration ∧
      ∀ earlier ∈ before, earlier.IsReadable ∧ ¬ earlier.TellsCalibration := by
  obtain ⟨before, line, rfl, _⟩ := answer.ends
  have calm (earlier : LinkEvent) (member : earlier ∈ before) : ¬ earlier.TellsCalibration := by
    intro tells
    obtain ⟨front, short⟩ := answer.short member tells.isObject
    rw [isSome_calibration_of_tells front tells] at short
    cases short
  exact ⟨before, line, rfl, tells_of_isSome_calibration calm answer.enough,
    fun earlier member => ⟨answer.readable earlier (List.mem_append_left _ member), calm earlier member⟩⟩

/-- The last reply, after which the calibration is waited for. -/
def Request.lastReply (reply : List UInt8) : Request :=
  ⟨.hidReport reply, fun seen => seen.calibration.isSome⟩

/-- Replies sent one after the other, each answered before the next. The answers are noise and one object that
tells no calibration, but for the last: it is the lines up to the first that tells one. -/
inductive HandedOver {σ : Type} (client : Client) (link : Link σ) :
    σ → List (List UInt8) → Observation → σ → Prop
  | told {start taken last : σ} {reply frame : List UInt8} {before : List LinkEvent} {line : LinkEvent}
      (framed : (Command.hidReport reply).encode client.handle = .ok frame)
      (written : link.write start frame = (none, taken)) (reports : link.Reports taken (before ++ [line]) last)
      (calm : ∀ earlier ∈ before, earlier.IsReadable ∧ ¬ earlier.TellsCalibration)
      (tells : line.TellsCalibration) :
      HandedOver client link start [reply] (.ofEvents (before ++ [line])) last
  | passed {start taken middle last : σ} {reply frame : List UInt8} {replies : List (List UInt8)}
      {noise : List LinkEvent} {object : LinkEvent} {seen : Observation}
      (framed : (Command.hidReport reply).encode client.handle = .ok frame)
      (written : link.write start frame = (none, taken))
      (reports : link.Reports taken (noise ++ [object]) middle)
      (calm : ∀ line ∈ noise, line.IsReadable ∧ ¬ line.IsObject)
      (answers : object.IsObject ∧ ¬ object.TellsCalibration)
      (rest : HandedOver client link middle replies seen last) :
      HandedOver client link start (reply :: replies) seen last

section

variable {σ : Type} {client : Client} {link : Link σ}

theorem HandedOver.calibrated {start last : σ} {replies : List (List UInt8)} {seen : Observation}
    (handed : HandedOver client link start replies seen last) : seen.calibration.isSome = true := by
  induction handed with
  | told _ _ _ _ tells => exact isSome_calibration_of_tells _ tells
  | passed _ _ _ _ _ _ ih => exact ih

variable {start middle last : σ} {reply : List UInt8} {replies : List (List UInt8)}
  {seen result : Observation}

/-- A leading reply whose answer tells no calibration. -/
theorem handedOver_passed (answered : (Request.any (.hidReport reply)).Answered client link start seen middle)
    (silent : seen.calibration.isSome = false) (rest : HandedOver client link middle replies result last) :
    HandedOver client link start (reply :: replies) result last := by
  obtain ⟨frame, taken, events, framed, written, reports, answer, rfl⟩ := answered.reads
  obtain ⟨noise, object, rfl, answers, calm⟩ := isAnswer_any answer
  refine .passed framed written reports calm ⟨answers, fun tells => ?_⟩ rest
  rw [isSome_calibration_of_tells noise tells] at silent
  cases silent

/-- A leading reply whose answer tells the calibration. -/
theorem handedOver_early (answered : (Request.any (.hidReport reply)).Answered client link start seen last)
    (told : seen.calibration.isSome = true) : HandedOver client link start [reply] seen last := by
  obtain ⟨frame, taken, events, framed, written, reports, answer, rfl⟩ := answered.reads
  obtain ⟨noise, object, rfl, _, calm⟩ := isAnswer_any answer
  have quiet (line : LinkEvent) (member : line ∈ noise) : line.IsReadable ∧ ¬ line.TellsCalibration :=
    ⟨(calm line member).1, fun tells => (calm line member).2 tells.isObject⟩
  have tells := tells_of_isSome_calibration (fun line member => (quiet line member).2) told
  exact .told framed written reports quiet tells

theorem handedOver_last (answered : (Request.lastReply reply).Answered client link start seen last) :
    HandedOver client link start [reply] seen last := by
  obtain ⟨frame, taken, events, framed, written, reports, answer, rfl⟩ := answered.reads
  obtain ⟨before, line, rfl, tells, calm⟩ := isAnswer_calibration answer
  exact .told framed written reports calm tells

/-- What a path shows of the replies that were sent: their frames, and if it has an outcome, how each was
answered. -/
structure Hands (client : Client) (link : Link σ) (start : σ) (sent : List (List UInt8))
    (run : Dialogue.Run σ Observation) : Prop where
  frames : run.frames.map .ok = sent.map fun reply => (Command.hidReport reply).encode client.handle
  answers : ∀ seen, run.outcome = some (.ok seen) → HandedOver client link start sent seen run.link

/-- A reply that is not answered is the last one, and is sent if it has a frame. -/
theorem hands_unanswered {run : Dialogue.Run σ Observation} {request : Request}
    (asked : request.command = .hidReport reply)
    (frames : run.frames = (request.frame client).toOption.toList) (failed : ∀ seen, run.outcome ≠ some (.ok seen)) :
    ∃ sent, sent <+: reply :: replies ∧ Hands client link start sent run := by
  rw [Request.frame, asked] at frames
  cases framed : (Command.hidReport reply).encode client.handle with
  | error cause =>
    rw [framed] at frames
    exact ⟨[], List.nil_prefix, by rw [frames]; rfl, fun seen answered => absurd answered (failed seen)⟩
  | ok frame =>
    rw [framed] at frames
    refine ⟨[reply], ⟨replies, rfl⟩, ?_, fun seen answered => absurd answered (failed seen)⟩
    rw [frames, List.map_singleton, framed]
    rfl

theorem calibrate_singleton (client : Client) (reply : List UInt8) :
    client.calibrate [reply] = (Request.lastReply reply).exchange client := rfl

/-- After an answer that tells no calibration, the rest of the replies is handed over. -/
theorem calibrate_cons (client : Client) (reply second : List UInt8) (replies : List (List UInt8)) :
    client.calibrate (reply :: second :: replies) =
      ((Request.any (.hidReport reply)).exchange client).bind fun seen =>
        if seen.calibration.isSome then .done seen else client.calibrate (second :: replies) := rfl

theorem hands_calibrate (client : Client) (link : Link σ) (start : σ) (reply : List UInt8)
    (replies : List (List UInt8)) : ∃ sent, sent <+: reply :: replies ∧
      Hands client link start sent ((client.calibrate (reply :: replies)).run link start) := by
  induction replies generalizing reply start with
  | nil =>
    rw [calibrate_singleton]
    by_cases answered : ∃ seen, (((Request.lastReply reply).exchange client).run link start).outcome =
        some (.ok seen)
    · obtain ⟨seen, outcome⟩ := answered
      exact ⟨[reply], List.prefix_refl _, frames_of_answered ⟨outcome, rfl⟩,
        fun seen outcome => handedOver_last ⟨outcome, rfl⟩⟩
    · exact hands_unanswered rfl (frames_exchange _ start) fun seen outcome => answered ⟨seen, outcome⟩
  | cons second replies ih =>
    rw [calibrate_cons]
    by_cases answered : ∃ seen, (((Request.any (.hidReport reply)).exchange client).run link start).outcome =
        some (.ok seen)
    · obtain ⟨seen, outcome⟩ := answered
      have frames := frames_of_answered ⟨outcome, rfl⟩
      rw [Dialogue.run_bind_of_ok _ outcome]
      by_cases told : seen.calibration.isSome = true
      · rw [if_pos told]
        refine ⟨[reply], ⟨second :: replies, rfl⟩, ?_, fun result same => ?_⟩
        · rw [List.map_append, frames]
          rfl
        · cases same
          exact handedOver_early ⟨outcome, rfl⟩ told
      · rw [if_neg told]
        obtain ⟨sent, beginning, hands⟩ := ih _ second
        refine ⟨reply :: sent, List.cons_prefix_cons.mpr ⟨rfl, beginning⟩, ?_, fun result same => ?_⟩
        · rw [List.map_append, frames, hands.frames]
          rfl
        · exact handedOver_passed ⟨outcome, rfl⟩ (Bool.not_eq_true _ ▸ told) (hands.answers result same)
    · have failed (seen : Observation) := fun outcome => answered ⟨seen, outcome⟩
      obtain ⟨outcome, path, same⟩ := Dialogue.run_bind_of_not_ok _ failed
      rw [path]
      refine hands_unanswered rfl (frames_exchange _ start) fun seen done => ?_
      obtain ⟨_, rfl⟩ | ⟨fault, _, rfl⟩ := same <;> cases done

/-- What is sent of some replies is their beginning, in order and each once. If the handing over of any has an
outcome, it is that of the last one sent, the first whose answer told the calibration; every reply before it
was answered by an object that told none. Of no replies, nothing is sent. -/
theorem calibrate_stops (client : Client) (link : Link σ) (replies : List (List UInt8)) (start : σ) :
    let run := (client.calibrate replies).run link start
    (∃ sent, sent <+: replies ∧
      run.frames.map .ok = (sent.map fun reply => (Command.hidReport reply).encode client.handle) ∧
      ∀ seen, replies ≠ [] → run.outcome = some (.ok seen) →
        seen.calibration.isSome = true ∧ HandedOver client link start sent seen run.link) ∧
    (replies = [] → run = .ended start (some (.ok .empty))) := by
  cases replies with
  | nil => exact ⟨⟨[], List.nil_prefix, rfl, fun _ nonempty => absurd rfl nonempty⟩, fun _ => rfl⟩
  | cons reply replies =>
    obtain ⟨sent, beginning, hands⟩ := hands_calibrate client link start reply replies
    refine ⟨⟨sent, beginning, hands.frames, fun seen _ ended => ?_⟩, nofun⟩
    have handed := hands.answers seen ended
    exact ⟨handed.calibrated, handed⟩

end

/-- An adapter that tells its calibration, after some noise, in answer to the second frame. -/
def Playback.calibrating : Playback :=
  .start [] (some ⟨[(1, [.line "# calibrating",
    .line "\x7b\"calib_data\":\x7b\"neutral\":[5],\"rel_max\":[5],\"rel_min\":[5],\"deadzone\":[0]\x7d\x7d"])],
    [], none, [.line "\x7b\x7d"]⟩) none none

/-- The third reply is not sent. -/
theorem calibrate_stops_at_second :
    let run := (Client.calibrate ⟨3, 500, 8⟩ [[1], [2], [3]]).run Playback.link .calibrating
    run.frames.length = 2 ∧ ∃ seen, run.outcome = some (.ok seen) ∧ seen.calibration.isSome = true := by
  intro run
  have heard : (run.outcome.bind Except.toOption).isSome = true := by decide +kernel
  obtain ⟨⟨sent, _, _, told⟩, _⟩ :=
    calibrate_stops ⟨3, 500, 8⟩ Playback.link [[1], [2], [3]] .calibrating
  rcases ended : run.outcome with _ | _ | seen
  · rw [ended] at heard
    cases heard
  · rw [ended] at heard
    cases heard
  · exact ⟨by decide +kernel, seen, rfl, (told seen (List.cons_ne_nil _ _) ended).1⟩

end PadBench
