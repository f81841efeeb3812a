import PadBench.Link.Playback
import PadBench.Proofs.Bench.Course
import PadBench.Proofs.Record.Observation

/-!
What one exchange means, on any link.

A frame is written, and events are read. Lines that hold no object only count; each object on the way is tried
as the end of the answer; what is not a readable line ends the exchange, and what was seen is lost with it.

* `collect_concludes`: how the events that are read conclude the exchange;
* `IsAnswer.unique`: an answer is not the beginning of another;
* `exchange_outcome`: the outcome told from the events at hand;
* `Dialogue.Recites`: what a dialogue comes to on a link that answers each frame with one line.
-/
namespace PadBench

/-- Read again and again, the link reports these events, which leaves it in another state. -/
inductive Link.Reports {σ : Type} (link : Link σ) : σ → List LinkEvent → σ → Prop
  | none (state : σ) : Reports link state [] state
  | more {start middle last : σ} {event : LinkEvent} {events : List LinkEvent}
      (first : link.read start = some (event, middle)) (rest : Reports link middle events last) :
      Reports link start (event :: events) last

/-- Of two sequences of events from one state, the longer goes on where the shorter ends. -/
theorem Link.Reports.rest {σ : Type} {link : Link σ} {start middle last : σ} {events more : List LinkEvent}
    (reports : link.Reports start events middle) (longer : link.Reports start more last)
    (within : events.length ≤ more.length) :
    ∃ rest, more = events ++ rest ∧ link.Reports middle rest last := by
  induction reports generalizing more with
  | none => exact ⟨more, rfl, longer⟩
  | more first _ ih =>
    obtain _ | ⟨other, longer⟩ := longer
    · cases within
    · rw [first] at other
      cases other
      obtain ⟨rest, rfl, reports⟩ := ih longer (Nat.le_of_succ_le_succ within)
      exact ⟨rest, rfl, reports⟩

namespace LinkEvent

/-- A line that is noise or holds records. -/
def IsReadable (event : LinkEvent) : Prop :=
  ∃ text records, event = .line text ∧ Record.ofLine? text = .ok records

/-- A line that is a JSON object, with or without records in it. -/
def IsObject (event : LinkEvent) : Prop :=
  ∃ text records, event = .line text ∧ Record.ofLine? text = .ok (some records)

def said : LinkEvent → List Record
  | .line text => (Record.listOfLine text).toOption.getD []
  | _ => []

theorem IsObject.isReadable {event : LinkEvent} (object : event.IsObject) : event.IsReadable := by
  obtain ⟨text, records, rfl, decoded⟩ := object
  exact ⟨text, _, rfl, decoded⟩

theorem not_isObject_of_noise {text : String} (noise : Record.ofLine? text = .ok none) :
    ¬ (line text).IsObject := by
  rintro ⟨_, records, same, object⟩
  cases same
  rw [noise] at object
  cases object

theorem said_line {text : String} {records : Option (List Record)}
    (decoded : Record.ofLine? text = .ok records) : (line text).said = records.getD [] := by
  rw [said, Record.listOfLine, decoded]
  rfl

end LinkEvent

/-- Everything that events tell. -/
def Observation.ofEvents (events : List LinkEvent) : Observation :=
  .ofRecords (events.flatMap LinkEvent.said)

theorem Observation.ofEvents_nil : ofEvents [] = empty := rfl

theorem Observation.ofEvents_concat (events : List LinkEvent) (event : LinkEvent) :
    ofEvents (events ++ [event]) = (ofEvents events).pushAll event.said := by
  rw [ofEvents, ofRecords, List.flatMap_append, List.flatMap_singleton, pushAll_append]
  rfl

/-- Readable lines, none of which ends an answer: no object of them made what was seen enough. -/
structure Unfinished (isEnough : Observation → Bool) (events : List LinkEvent) : Prop where
  readable : ∀ event ∈ events, event.IsReadable
  short : ∀ earlier event, earlier ++ [event] <+: events → event.IsObject →
    isEnough (.ofEvents (earlier ++ [event])) = false

/-- Lines that are an answer, each of them needed: the last is an object, and it is the first to make what
was seen enough. -/
structure IsAnswer (isEnough : Observation → Bool) (events : List LinkEvent) : Prop where
  readable : ∀ event ∈ events, event.IsReadable
  ends : ∃ earlier last, events = earlier ++ [last] ∧ last.IsObject
  enough : isEnough (.ofEvents events) = true
  first : ∀ earlier event, earlier ++ [event] <+: events → earlier ++ [event] ≠ events →
    event.IsObject → isEnough (.ofEvents (earlier ++ [event])) = false

section

variable {isEnough : Observation → Bool} {events more : List LinkEvent} {event : LinkEvent}

theorem unfinished_nil : Unfinished isEnough [] :=
  ⟨nofun, fun _ _ beginning => by simp at beginning⟩

/-- One more line that ends nothing. -/
theorem Unfinished.concat (unfinished : Unfinished isEnough events) (readable : event.IsReadable)
    (short : event.IsObject → isEnough (.ofEvents (events ++ [event])) = false) :
    Unfinished isEnough (events ++ [event]) := by
  refine ⟨?_, fun earlier other beginning object => ?_⟩
  · exact List.forall_mem_append.mpr ⟨unfinished.readable, List.forall_mem_singleton.mpr readable⟩
  · obtain whole | inside := List.prefix_concat_iff.mp beginning
    · obtain ⟨rfl, same⟩ := List.append_inj' whole rfl
      cases same
      exact short object
    · exact unfinished.short earlier other inside object

theorem Unfinished.of_prefix (unfinished : Unfinished isEnough more) (beginning : events <+: more) :
    Unfinished isEnough events :=
  ⟨fun event member => unfinished.readable event (beginning.subset member),
    fun earlier event inside => unfinished.short earlier event (inside.trans beginning)⟩

theorem Unfinished.not_isAnswer (unfinished : Unfinished isEnough events) : ¬ IsAnswer isEnough events := by
  intro answer
  obtain ⟨earlier, last, rfl, object⟩ := answer.ends
  have short := unfinished.short earlier last (List.prefix_refl _) object
  rw [answer.enough] at short
  cases short

/-- An object after lines that end nothing is an answer with them, if all together is enough. -/
theorem Unfinished.isAnswer_concat (unfinished : Unfinished isEnough events) (object : event.IsObject)
    (enough : isEnough (.ofEvents (events ++ [event])) = true) :
    IsAnswer isEnough (events ++ [event]) := by
  refine ⟨?_, ⟨events, event, rfl, object⟩, enough, fun earlier other beginning proper => ?_⟩
  · exact List.forall_mem_append.mpr ⟨unfinished.readable, List.forall_mem_singleton.mpr object.isReadable⟩
  · obtain whole | inside := List.prefix_concat_iff.mp beginning
    · exact absurd whole proper
    · exact unfinished.short earlier other inside

/-- At an object before the last line, what was seen was not enough. -/
theorem IsAnswer.short {before : List LinkEvent} {last : LinkEvent}
    (answer : IsAnswer isEnough (before ++ [last])) (member : event ∈ before) (object : event.IsObject) :
    ∃ earlier, isEnough (.ofEvents (earlier ++ [event])) = false := by
  obtain ⟨earlier, later, rfl⟩ := List.append_of_mem member
  refine ⟨earlier, answer.first earlier event ?_ (fun whole => ?_) object⟩
  · exact ⟨later ++ [last], by simp⟩
  · have lengths := congrArg List.length whole
    simp at lengths

/-- The beginning of an answer ends nothing. -/
theorem IsAnswer.unfinished (answer : IsAnswer isEnough more) (beginning : events <+: more)
    (proper : events ≠ more) : Unfinished isEnough events := by
  refine ⟨fun event member => answer.readable event (beginning.subset member),
    fun earlier event inside => answer.first earlier event (inside.trans beginning) fun whole => ?_⟩
  subst whole
  exact proper (beginning.eq_of_length_le inside.length_le)

/-- An answer is not the beginning of another. -/
theorem IsAnswer.unique (answer : IsAnswer isEnough events) (other : IsAnswer isEnough more)
    (beginning : events <+: more) : events = more := by
  refine Decidable.byContradiction fun proper => ?_
  exact (other.unfinished beginning proper).not_isAnswer answer

end

namespace Client

/-- Why an event ends an exchange, if it is not a readable line. -/
def fault? (client : Client) (command : Command) : LinkEvent → Option Fault
  | .silent => some (.timeout (awaited command) client.responseTimeoutMs)
  | .failed reason => some (.transport ("Failed to read response: " ++ reason))
  | .closed => some (.transport "DUT closed the link")
  | .line text =>
    match Record.ofLine? text with
    | .error malformed => some (.ofMalformed malformed)
    | .ok _ => none

/-- No line of the budget ended the answer. -/
def exhausted (client : Client) (command : Command) : Fault :=
  .protocol (s!"no complete {awaited command} within {client.maxLines} lines")

theorem fault?_eq_none_iff (client : Client) (command : Command) (event : LinkEvent) :
    client.fault? command event = none ↔ event.IsReadable := by
  constructor
  · intro fine
    cases event with
    | silent | failed | closed => cases fine
    | line text =>
      cases decoded : Record.ofLine? text with
      | error malformed =>
        rw [fault?, decoded] at fine
        cases fine
      | ok records => exact ⟨text, records, rfl, decoded⟩
  · rintro ⟨text, records, rfl, decoded⟩
    rw [fault?, decoded]

theorem not_isReadable {client : Client} {command : Command} {event : LinkEvent} {fault : Fault}
    (faulty : client.fault? command event = some fault) : ¬ event.IsReadable := by
  intro readable
  rw [(client.fault?_eq_none_iff command event).mpr readable] at faulty
  cases faulty

theorem findSome?_of_readable (client : Client) (command : Command) {events : List LinkEvent}
    (readable : ∀ event ∈ events, event.IsReadable) : events.findSome? (client.fault? command) = none :=
  List.findSome?_eq_none_iff.mpr fun event member =>
    (client.fault?_eq_none_iff command event).mpr (readable event member)

end Client

/-- How events conclude an exchange that may read so many lines. -/
inductive Concludes (client : Client) (request : Request) (budget : Nat) :
    List LinkEvent → Option (Except Fault Observation) → Prop
  | answered {events : List LinkEvent} (answer : IsAnswer request.isEnough events) :
      Concludes client request budget events (some (.ok (.ofEvents events)))
  | faulted {before : List LinkEvent} {event : LinkEvent} {fault : Fault}
      (unfinished : Unfinished request.isEnough before)
      (faulty : client.fault? request.command event = some fault) :
      Concludes client request budget (before ++ [event]) (some (.error fault))
  | exhausted {events : List LinkEvent} (unfinished : Unfinished request.isEnough events)
      (spent : events.length = budget) :
      Concludes client request budget events (some (.error (client.exhausted request.command)))
  /-- The user ended the run. -/
  | ended {events : List LinkEvent} (unfinished : Unfinished request.isEnough events)
      (left : events.length < budget) : Concludes client request budget events none

/-- After the events that were heard, a path reads on within the budget, until all of them conclude the
exchange. Only where the user ends the run there is no outcome. -/
def ConcludesAfter {σ : Type} (client : Client) (link : Link σ) (request : Request) (budget : Nat)
    (heard : List LinkEvent) (state : σ) (run : Dialogue.Run σ Observation) : Prop :=
  ∃ events, link.Reports state events run.link ∧ events.length ≤ budget ∧
    Concludes client request (heard.length + budget) (heard ++ events) run.outcome ∧
    (run.outcome = none → link.read run.link = none)

section

variable {σ : Type} {client : Client} {link : Link σ} {request : Request} {budget : Nat}
  {heard : List LinkEvent} {event : LinkEvent} {state middle : σ}

/-- Nothing more is read. -/
theorem concludesAfter_nothing {outcome : Option (Except Fault Observation)}
    (concludes : Concludes client request (heard.length + budget) heard outcome)
    (ended : outcome = none → link.read state = none) :
    ConcludesAfter client link request budget heard state (.ended state outcome) := by
  refine ⟨[], .none _, Nat.zero_le _, ?_, ended⟩
  rwa [List.append_nil]

/-- The next event concludes the exchange. -/
theorem concludesAfter_last {result : Except Fault Observation}
    (arrived : link.read state = some (event, middle))
    (concludes : Concludes client request (heard.length + (budget + 1)) (heard ++ [event]) (some result)) :
    ConcludesAfter client link request (budget + 1) heard state (.ended middle (some result)) :=
  ⟨[event], .more arrived (.none _), Nat.le_add_left 1 budget, concludes, nofun⟩

/-- The events after the next one conclude the exchange. -/
theorem concludesAfter_more {run : Dialogue.Run σ Observation}
    (arrived : link.read state = some (event, middle))
    (rest : ConcludesAfter client link request budget (heard ++ [event]) middle run) :
    ConcludesAfter client link request (budget + 1) heard state run := by
  obtain ⟨events, reports, within, concludes, ended⟩ := rest
  rw [List.length_append, List.length_singleton, List.append_assoc, List.singleton_append,
    Nat.add_assoc, Nat.add_comm 1 budget] at concludes
  exact ⟨event :: events, .more arrived reports, Nat.succ_le_succ within, concludes, ended⟩

/-- An answer is collected from the events that are read. -/
theorem collect_concludes (client : Client) (link : Link σ) (budget : Nat) {heard : List LinkEvent}
    (unfinished : Unfinished request.isEnough heard) (state : σ) :
    ConcludesAfter client link request budget heard state
      ((client.collect request.command request.isEnough budget (.ofEvents heard)).run link state) := by
  induction budget generalizing heard state with
  | zero => exact concludesAfter_nothing (.exhausted unfinished rfl) nofun
  | succ budget ih =>
    rw [Client.collect]
    simp only [Dialogue.run]
    cases arrived : link.read state with
    | none =>
      have left : heard.length < heard.length + (budget + 1) := Nat.lt_add_of_pos_right budget.succ_pos
      exact concludesAfter_nothing (.ended unfinished left) fun _ => arrived
    | some pair =>
      obtain ⟨event, middle⟩ := pair
      cases event with
      | silent | failed | closed => exact concludesAfter_last arrived (.faulted unfinished rfl)
      | line text =>
        cases decoded : Record.ofLine? text with
        | error malformed =>
          simp only [decoded]
          exact concludesAfter_last arrived (.faulted unfinished (by rw [Client.fault?, decoded]))
        | ok records =>
          have now : Observation.ofEvents (heard ++ [.line text]) =
              (Observation.ofEvents heard).pushAll (records.getD []) := by
            rw [Observation.ofEvents_concat, LinkEvent.said_line decoded]
          have readable : (LinkEvent.line text).IsReadable := ⟨text, records, rfl, decoded⟩
          cases records with
          | none =>
            have longer := unfinished.concat readable fun object =>
              absurd object (LinkEvent.not_isObject_of_noise decoded)
            have rest := ih longer middle
            rw [now] at rest
            simp only [decoded]
            exact concludesAfter_more arrived rest
          | some records =>
            have object : (LinkEvent.line text).IsObject := ⟨text, records, rfl, decoded⟩
            rw [Option.getD_some] at now
            simp only [decoded, ← now]
            split
            · rename_i enough
              exact concludesAfter_last arrived (.answered (unfinished.isAnswer_concat object enough))
            · rename_i short
              rw [Bool.not_eq_true] at short
              exact concludesAfter_more arrived (ih (unfinished.concat readable fun _ => short) middle)

/-- What is read of the events at hand, which are as many as the budget or more. -/
structure Hears (client : Client) (link : Link σ) (request : Request) (state : σ) (events : List LinkEvent)
    (run : Dialogue.Run σ Observation) : Prop where
  /-- No more is read than the budget. -/
  within : ∃ count ≤ client.maxLines, link.Reports state (events.take count) run.link
  /-- What is seen is all that the lines of the answer tell. -/
  seen_iff : ∀ seen, run.outcome = some (.ok seen) ↔ ∃ count ≤ client.maxLines,
    IsAnswer request.isEnough (events.take count) ∧ seen = .ofEvents (events.take count)
  /-- What follows the answer is left on the link. -/
  left : ∀ count ≤ client.maxLines, IsAnswer request.isEnough (events.take count) →
    link.Reports state (events.take count) run.link
  /-- Without an answer, the first event that is not a readable line is to blame, or else the budget. -/
  fault : (∀ count ≤ client.maxLines, ¬ IsAnswer request.isEnough (events.take count)) →
    run.outcome = some (.error
      (((events.take client.maxLines).findSome? (client.fault? request.command)).getD
        (client.exhausted request.command)))

/-- Where lines that end nothing are followed by an event that is no readable line, no answer begins. -/
theorem not_isAnswer_take {isEnough : Observation → Bool} {before rest : List LinkEvent}
    (unfinished : Unfinished isEnough before) (unreadable : ¬ event.IsReadable) (count : Nat) :
    ¬ IsAnswer isEnough ((before ++ [event] ++ rest).take count) := by
  intro answer
  have beginning := List.take_prefix count (before ++ [event] ++ rest)
  obtain inside | beyond := List.prefix_or_prefix_of_prefix beginning (List.prefix_append _ rest)
  · obtain whole | inside := List.prefix_concat_iff.mp inside
    · rw [whole] at answer
      exact unreadable (answer.readable event (List.mem_append_right _ List.mem_cons_self))
    · exact (unfinished.of_prefix inside).not_isAnswer answer
  · have member := beyond.subset (List.mem_append_right before (List.mem_cons_self (a := event)))
    exact unreadable (answer.readable event member)

variable {last : σ} {read rest : List LinkEvent} {run : Dialogue.Run σ Observation}

theorem hears_of_answer (heard : link.Reports state read run.link) (within : read.length ≤ client.maxLines)
    (answer : IsAnswer request.isEnough read) (told : run.outcome = some (.ok (.ofEvents read))) :
    Hears client link request state (read ++ rest) run := by
  have whole : (read ++ rest).take read.length = read := List.take_left
  have same {count : Nat} (other : IsAnswer request.isEnough ((read ++ rest).take count)) :
      (read ++ rest).take count = read := by
    obtain inside | beyond :=
      List.prefix_or_prefix_of_prefix (List.take_prefix count _) (List.prefix_append read rest)
    · exact other.unique answer inside
    · exact (answer.unique other beyond).symm
  refine {
    within := ⟨_, within, ?_⟩
    seen_iff := fun seen => ⟨fun ended => ?_, ?_⟩
    left := fun count _ other => ?_
    fault := fun never => ?_ }
  · rwa [whole]
  · rw [told] at ended
    cases ended
    exact ⟨_, within, by rwa [whole], by rw [whole]⟩
  · rintro ⟨count, _, other, rfl⟩
    rw [told, same other]
  · rwa [same other]
  · exact absurd (by rwa [whole]) (never _ within)

theorem hears_of_no_answer {fault : Fault} (heard : link.Reports state read run.link)
    (within : read.length ≤ client.maxLines)
    (never : ∀ count ≤ client.maxLines, ¬ IsAnswer request.isEnough ((read ++ rest).take count))
    (told : run.outcome = some (.error fault))
    (blamed : (((read ++ rest).take client.maxLines).findSome? (client.fault? request.command)).getD
      (client.exhausted request.command) = fault) :
    Hears client link request state (read ++ rest) run := by
  refine {
    within := ⟨_, within, ?_⟩
    seen_iff := fun seen => ⟨fun ended => ?_, ?_⟩
    left := fun count short answer => ?_
    fault := fun _ => ?_ }
  · rwa [List.take_left]
  · rw [told] at ended
    cases ended
  · rintro ⟨count, short, answer, _⟩
    exact absurd answer (never count short)
  · exact absurd answer (never count short)
  · rw [told, blamed]

theorem hears_of_concludes (heard : link.Reports state read run.link)
    (within : read.length ≤ client.maxLines)
    (concludes : Concludes client request client.maxLines read run.outcome)
    (ended : run.outcome = none → link.read run.link = none) (after : link.Reports run.link rest last)
    (full : client.maxLines ≤ (read ++ rest).length) :
    Hears client link request state (read ++ rest) run := by
  generalize told : run.outcome = outcome at concludes ended
  cases concludes with
  | answered answer => exact hears_of_answer heard within answer told
  | @faulted before event fault unfinished faulty =>
    refine hears_of_no_answer heard within
      (fun count _ => not_isAnswer_take unfinished (Client.not_isReadable faulty) count) told ?_
    have reached : (before ++ [event] ++ rest).take client.maxLines =
        before ++ event :: rest.take (client.maxLines - (before ++ [event]).length) := by
      rw [List.take_append, List.take_of_length_le within, List.append_assoc, List.singleton_append]
    rw [reached, List.findSome?_append, client.findSome?_of_readable _ unfinished.readable,
      Option.none_or, List.findSome?_cons, faulty]
    rfl
  | exhausted unfinished spent =>
    have whole : (read ++ rest).take client.maxLines = read := List.take_left' spent
    refine hears_of_no_answer heard within (fun count short answer => ?_) told ?_
    · have inside : (read ++ rest).take count <+: (read ++ rest).take client.maxLines :=
        List.prefix_take_iff.mpr ⟨List.take_prefix _ _, Nat.le_trans (List.length_take_le _ _) short⟩
      rw [whole] at inside
      exact (unfinished.of_prefix inside).not_isAnswer answer
    · rw [whole, client.findSome?_of_readable _ unfinished.readable]
      rfl
  | ended unfinished left =>
    -- There is another event to be read, as there are as many as the budget.
    have stuck := ended rfl
    cases after with
    | none =>
      rw [List.append_nil] at full
      omega
    | more first _ =>
      rw [stuck] at first
      cases first

/-- What follows once the frame of a request has been written, or not. -/
def Request.afterWrite (request : Request) (client : Client) : Option String → Dialogue Observation
  | some reason => .stop (.transport ("Failed to write command: " ++ reason))
  | none => client.collect request.command request.isEnough client.maxLines .empty

theorem exchange_eq {frame : List UInt8} (framed : request.frame client = .ok frame) :
    request.exchange client = .send frame (request.afterWrite client) := by
  rw [Request.frame] at framed
  rw [Request.exchange, Client.exchange, framed]
  refine congrArg (Dialogue.send frame) (funext fun failure => ?_)
  cases failure with
  | none => rfl
  | some reason => rfl

/-- A request that is answered has had its frame written, and all of an answer read. -/
theorem Request.Answered.reads {before after : σ} {seen : Observation}
    (answered : request.Answered client link before seen after) :
    ∃ frame taken events, request.frame client = .ok frame ∧ link.write before frame = (none, taken) ∧
      link.Reports taken events after ∧ IsAnswer request.isEnough events ∧ seen = .ofEvents events := by
  obtain ⟨outcome, rfl⟩ := answered
  cases framed : request.frame client with
  | error cause =>
    rw [Request.frame] at framed
    rw [Request.exchange, Client.exchange, framed] at outcome
    cases outcome
  | ok frame =>
    rw [exchange_eq framed] at outcome ⊢
    simp only [Dialogue.run] at outcome ⊢
    rcases written : link.write before frame with ⟨failure, taken⟩
    cases failure with
    | some reason =>
      simp only [written] at outcome
      cases outcome
    | none =>
      simp only [written, Request.afterWrite] at outcome ⊢
      obtain ⟨events, reports, _, concludes, _⟩ :=
        collect_concludes client link client.maxLines (unfinished_nil : Unfinished request.isEnough []) taken
      rw [List.nil_append, Observation.ofEvents_nil, outcome] at concludes
      refine ⟨frame, taken, events, rfl, written, reports, ?_⟩
      cases concludes with
      | answered answer => exact ⟨answer, rfl⟩

/-- The meaning of an exchange whose command has a frame. It sends that frame and only listens then. If the
frame cannot be written, nothing is read; else the events at hand decide. -/
theorem exchange_outcome (client : Client) (request : Request) (link : Link σ) (start : σ)
    {frame : List UInt8} (framed : request.frame client = .ok frame) :
    (∃ next, request.exchange client = .send frame next ∧ ∀ failure, (next failure).Listens) ∧
    ((request.exchange client).run link start).frames = [frame] ∧
    (∀ reason after, link.write start frame = (some reason, after) →
      ((request.exchange client).run link start).link = after ∧
      ((request.exchange client).run link start).outcome =
        some (.error (.transport ("Failed to write command: " ++ reason)))) ∧
    ∀ after, link.write start frame = (none, after) →
      ∀ events last, link.Reports after events last → client.maxLines ≤ events.length →
        Hears client link request after events ((request.exchange client).run link start) := by
  have shape := exchange_eq framed
  refine ⟨⟨_, shape, fun failure => ?_⟩, ?_, fun reason after refused => ?_,
    fun after taken events last reports full => ?_⟩
  · cases failure with
    | none => exact client.listens_collect _ _ _ _
    | some reason => trivial
  · rw [frames_exchange, framed]
    rfl
  · rw [shape]
    simp only [Dialogue.run, refused]
    exact ⟨rfl, rfl⟩
  · rw [shape]
    simp only [Dialogue.run, taken]
    obtain ⟨read, heard, within, concludes, ended⟩ :=
      collect_concludes client link client.maxLines (unfinished_nil : Unfinished request.isEnough []) after
    rw [List.length_nil, Nat.zero_add, List.nil_append] at concludes
    obtain ⟨rest, rfl, later⟩ := heard.rest reports (Nat.le_trans within full)
    exact hears_of_concludes heard within concludes ended later full

end

/-- With an adapter that has printed these lines and then closed the link, the dialogue sends so many frames and
gives these notices. -/
def Dialogue.Recites {α : Type} (dialogue : Dialogue α) (lines : List String) (written sent : Nat)
    (notices : List Notice) : Prop :=
  let run := dialogue.run Playback.link ⟨lines.map .line, none, none, none, written, written⟩
  run.frames.length = sent ∧ run.notices = notices

namespace Dialogue

variable {α : Type} {client : Client} {next : Observation → Dialogue α} {frame : List UInt8} {lines : List String}
  {written sent : Nat} {notices : List Notice}

/-- A line that is enough of an answer is all that a request reads. -/
theorem recites_ask (request : Request) {line : String} {records : List Record}
    (framed : request.frame client = .ok frame) (allowed : 0 < client.maxLines)
    (shown : Record.ofLine? line = .ok (some records))
    (enough : request.isEnough (Observation.empty.pushAll records) = true)
    (rest : (next (Observation.empty.pushAll records)).Recites lines (written + 1) sent notices) :
    ((request.exchange client).bind next).Recites (line :: lines) written (sent + 1) notices := by
  obtain ⟨budget, positive⟩ := Nat.exists_eq_succ_of_ne_zero (Nat.pos_iff_ne_zero.mp allowed)
  rw [exchange_eq framed]
  simp only [Recites, bind, run, Playback.link, Playback.write, Playback.read, Request.afterWrite, positive,
    Client.collect, List.map_cons, Option.map_none, reduceCtorEq, if_false, shown, enough, if_true] at rest ⊢
  exact ⟨congrArg (· + 1) rest.1, rest.2⟩

theorem recites_notify {dialogue : Dialogue α} {notice : Notice}
    (rest : dialogue.Recites lines written sent notices) :
    (notify notice dialogue).Recites lines written sent (notice :: notices) :=
  ⟨rest.1, congrArg (notice :: ·) rest.2⟩

/-- When no line is left, one frame more is sent. -/
theorem recites_closed (request : Request) (framed : request.frame client = .ok frame)
    (allowed : 0 < client.maxLines) : ((request.exchange client).bind next).Recites [] written 1 [] := by
  obtain ⟨budget, positive⟩ := Nat.exists_eq_succ_of_ne_zero (Nat.pos_iff_ne_zero.mp allowed)
  rw [exchange_eq framed]
  simp only [Recites, bind, run, Playback.link, Playback.write, Request.afterWrite, positive, Client.collect]
  exact ⟨rfl, rfl⟩

end Dialogue

/-- An adapter that has printed noise and an empty object, and has closed the link. -/
def Playback.booting : Playback := .start [.line "# booting", .line "\x7b\x7d"] none none none

/-- Two lines of the four that are allowed are read: noise counts, and an empty object is an answer. -/
theorem exchange_outcome_of_booting :
    let run := ((Request.any .disconnect).exchange ⟨3, 500, 4⟩).run Playback.link .booting
    run.outcome = some (.ok .empty) ∧ run.link.pending = [] := by
  have noise : (LinkEvent.line "# booting").IsReadable := ⟨_, none, rfl, rfl⟩
  have object : (LinkEvent.line "\x7b\x7d").IsObject := ⟨_, [], rfl, rfl⟩
  have skipped : Unfinished (fun _ => true) [.line "# booting"] :=
    unfinished_nil.concat noise fun object => absurd object (LinkEvent.not_isObject_of_noise rfl)
  have answer : IsAnswer (fun _ => true) [.line "# booting", .line "\x7b\x7d"] :=
    skipped.isAnswer_concat object rfl
  have reports : Playback.link.Reports (Playback.link.write .booting [0x02, 3, 0, 0]).2
      [.line "# booting", .line "\x7b\x7d", .closed, .closed] _ :=
    .more rfl (.more rfl (.more rfl (.more rfl (.none _))))
  have hears := (exchange_outcome ⟨3, 500, 4⟩ (.any .disconnect) Playback.link .booting rfl).2.2.2 _ rfl
  have heard := hears _ _ reports (Nat.le_refl 4)
  exact ⟨(heard.seen_iff _).mpr ⟨2, by decide, answer, rfl⟩, rfl⟩

end PadBench
