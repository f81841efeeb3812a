import PadBench.Bench.Client
import PadBench.Proofs.Bench.Dialogue

/-!
Dialogues as sequences of requests, each sent only after the one before it has been answered.

* `Exchanges`: requests answered one after the other;
* `Course`: the requests a dialogue makes on a link, and how it ends;
* `exchanges_of_course`, `ends_of_course`: what the path of a dialogue has of its course: the frames of the
  answered requests and of the one that was not, and the outcome.
-/
namespace PadBench

/-- A command, and what is enough of an answer to it. -/
structure Request where
  command : Command
  isEnough : Observation → Bool

namespace Request

/-- Any record line answers the command. -/
def any (command : Command) : Request := ⟨command, fun _ => true⟩

def exchange (request : Request) (client : Client) : Dialogue Observation :=
  client.exchange request.command request.isEnough

/-- The frame of the request, if it has one. -/
def frame (request : Request) (client : Client) : Except Command.Fault (List UInt8) :=
  request.command.encode client.handle

/-- On a link in one state the request is answered, which leaves the link in another. -/
structure Answered {σ : Type} (client : Client) (link : Link σ) (request : Request) (before : σ)
    (seen : Observation) (after : σ) : Prop where
  outcome : ((request.exchange client).run link before).outcome = some (.ok seen)
  link : ((request.exchange client).run link before).link = after

end Request

/-- Requests answered one after the other, each on the link as the one before it left it. -/
inductive Exchanges {σ : Type} (client : Client) (link : Link σ) :
    σ → List Request → List Observation → σ → Prop
  | none (state : σ) : Exchanges client link state [] [] state
  | more {start middle last : σ} {request : Request} {requests : List Request} {seen : Observation}
      {answers : List Observation} (first : request.Answered client link start seen middle)
      (rest : Exchanges client link middle requests answers last) :
      Exchanges client link start (request :: requests) (seen :: answers) last

/-- How a dialogue ends: with a value, with a fault of its own, or at a request that is not answered. -/
inductive Ending (α : Type) where
  | finished (value : α)
  | stopped (fault : Fault)
  | unanswered (request : Request)

/-- On a link in a state, the dialogue has these requests answered, which leaves the link in another
state, and then ends. -/
inductive Course {σ α : Type} (client : Client) (link : Link σ) :
    Dialogue α → σ → List Request → List Observation → Ending α → σ → Prop
  | finished (value : α) (state : σ) :
      Course client link (.done value) state [] [] (.finished value) state
  | stopped (fault : Fault) (state : σ) :
      Course client link (.stop fault) state [] [] (.stopped fault) state
  | told {notice : Notice} {next : Dialogue α} {start last : σ} {asked : List Request}
      {answers : List Observation} {ending : Ending α}
      (rest : Course client link next start asked answers ending last) :
      Course client link (.notify notice next) start asked answers ending last
  | answered {request : Request} {next : Observation → Dialogue α} {start middle last : σ}
      {seen : Observation} {asked : List Request} {answers : List Observation} {ending : Ending α}
      (first : request.Answered client link start seen middle)
      (rest : Course client link (next seen) middle asked answers ending last) :
      Course client link ((request.exchange client).bind next) start (request :: asked)
        (seen :: answers) ending last
  | unanswered {request : Request} {next : Observation → Dialogue α} {start : σ}
      (failed : ∀ seen after, ¬ request.Answered client link start seen after) :
      Course client link ((request.exchange client).bind next) start [] [] (.unanswered request) start

/-- What a path shows of its course. Its frames are those of the answered requests and, at the end, of the
one that was not answered, whose fault is the outcome. -/
def Ends {σ α : Type} (client : Client) (link : Link σ) (run : Dialogue.Run σ α) (asked : List Request)
    (last : σ) : Ending α → Prop
  | .finished value =>
    run.outcome = some (.ok value) ∧ run.frames.map .ok = asked.map (·.frame client)
  | .stopped fault =>
    run.outcome = some (.error fault) ∧ run.frames.map .ok = asked.map (·.frame client)
  | .unanswered request =>
    let tried := (request.exchange client).run link last
    run.frames.map .ok = asked.map (·.frame client) ++ tried.frames.map .ok ∧
      ((tried.outcome = none ∧ run.outcome = none) ∨
        ∃ fault, tried.outcome = some (.error fault) ∧ run.outcome = some (.error fault))

/-- Collecting an answer is listening. -/
theorem Client.listens_collect (client : Client) (command : Command) (isEnough : Observation → Bool)
    (budget : Nat) (seen : Observation) : (client.collect command isEnough budget seen).Listens := by
  induction budget generalizing seen with
  | zero => trivial
  | succ budget ih =>
    rw [collect]
    intro event
    cases event with
    | silent | failed | closed => trivial
    | line text =>
      cases decoded : Record.ofLine? text with
      | error malformed => simp only [decoded]; trivial
      | ok records =>
        cases records with
        | none => simp only [decoded]; exact ih seen
        | some records =>
          simp only [decoded]
          split
          · trivial
          · exact ih _

section

variable {σ α : Type} {client : Client} {link : Link σ}

/-- An answer that is collected is enough. -/
theorem isEnough_of_collect {command : Command} {isEnough : Observation → Bool} {budget : Nat}
    {seen answer : Observation} {state : σ}
    (answered : ((client.collect command isEnough budget seen).run link state).outcome =
      some (.ok answer)) : isEnough answer = true := by
  induction budget generalizing seen state with
  | zero => cases answered
  | succ budget ih =>
    rw [Client.collect, Dialogue.run] at answered
    cases arrived : link.read state with
    | none =>
      rw [arrived] at answered
      cases answered
    | some pair =>
      obtain ⟨event, state⟩ := pair
      rw [arrived] at answered
      cases event with
      | silent | failed | closed => cases answered
      | line text =>
        cases decoded : Record.ofLine? text with
        | error malformed =>
          simp only [decoded] at answered
          cases answered
        | ok records =>
          cases records with
          | none =>
            simp only [decoded] at answered
            exact ih answered
          | some records =>
            simp only [decoded] at answered
            split at answered
            · rename_i enough
              cases answered
              exact enough
            · exact ih answered

theorem isEnough_of_answered {request : Request} {before after : σ} {seen : Observation}
    (answered : request.Answered client link before seen after) : request.isEnough seen = true := by
  have outcome := answered.outcome
  rw [Request.exchange, Client.exchange] at outcome
  cases encoded : request.command.encode client.handle with
  | error cause =>
    rw [encoded] at outcome
    cases outcome
  | ok frame =>
    rw [encoded] at outcome
    simp only [Dialogue.run] at outcome
    split at outcome
    · cases outcome
    · exact isEnough_of_collect outcome

/-- An exchange sends the frame of its request, if it has one, and nothing else. -/
theorem frames_exchange (request : Request) (state : σ) :
    ((request.exchange client).run link state).frames = (request.frame client).toOption.toList := by
  rw [Request.exchange, Client.exchange, Request.frame]
  cases request.command.encode client.handle with
  | error cause => rfl
  | ok frame =>
    simp only [Dialogue.run]
    split
    · rfl
    · exact congrArg (frame :: ·) (Dialogue.frames_of_listens (client.listens_collect _ _ _ _) _)

/-- Every frame carries the handle of the client. -/
theorem Request.handle_of_frame {request : Request} {frame : List UInt8}
    (framed : request.frame client = .ok frame) : frame[1]? = some client.handle := by
  rw [Request.frame, Command.encode] at framed
  cases paid : request.command.payload with
  | error cause =>
    rw [paid] at framed
    cases framed
  | ok payload =>
    simp only [paid, bind, Except.bind] at framed
    split at framed
    · cases framed
    · cases framed
      rfl

theorem frames_of_answered {request : Request} {before after : σ} {seen : Observation}
    (answered : request.Answered client link before seen after) :
    ((request.exchange client).run link before).frames.map .ok = [request.frame client] := by
  have outcome := answered.outcome
  rw [frames_exchange]
  rw [Request.exchange, Client.exchange] at outcome
  rw [Request.frame]
  cases encoded : request.command.encode client.handle with
  | error cause =>
    rw [encoded] at outcome
    cases outcome
  | ok frame => rfl

theorem exchanges_of_course {dialogue : Dialogue α} {start last : σ} {asked : List Request}
    {answers : List Observation} {ending : Ending α}
    (course : Course client link dialogue start asked answers ending last) :
    Exchanges client link start asked answers last := by
  induction course with
  | finished | stopped | unanswered => exact .none _
  | told _ ih => exact ih
  | answered first _ ih => exact .more first ih

theorem ends_of_course {dialogue : Dialogue α} {start last : σ} {asked : List Request}
    {answers : List Observation} {ending : Ending α}
    (course : Course client link dialogue start asked answers ending last) :
    Ends client link (dialogue.run link start) asked last ending := by
  induction course with
  | finished | stopped => exact ⟨rfl, rfl⟩
  | @told notice next start last asked answers ending _ ih =>
    cases ending with
    | finished | stopped | unanswered => exact ih
  | @answered request next start middle last seen asked answers ending first _ ih =>
    have frames := frames_of_answered first
    have path := Dialogue.run_bind_of_ok next first.outcome
    simp only [first.link] at path
    rw [path]
    cases ending with
    | finished | stopped =>
      refine ⟨ih.1, ?_⟩
      rw [List.map_append, frames, ih.2]
      rfl
    | unanswered =>
      refine ⟨?_, ih.2⟩
      rw [List.map_append, frames, ih.1]
      rfl
  | @unanswered request next start failed =>
    obtain ⟨outcome, path, same⟩ := Dialogue.run_bind_of_not_ok next
      fun seen answered => failed seen _ ⟨answered, rfl⟩
    rw [path]
    exact ⟨rfl, same⟩

end

end PadBench
