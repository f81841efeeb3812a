import PadBench.Bench.Verdict
import PadBench.Fault
import PadBench.Link.Event

/-!
What the bench does with a link, one request at a time.

A dialogue is a tree: it sends a frame, or awaits the next event, or gives notice of something, and goes
on as the link lets it; at its end stands a value or a fault. Running it over a link gives the path that
the link chooses, with the frames and notices along it.
-/
namespace PadBench

/-- What a session tells while it runs. -/
inductive Notice where
  /-- The axes of the pad that are in force from now on. -/
  | calibrated (axes : AxisSet)
  /-- A scenario has been played and judged. -/
  | judged (result : ScenarioResult)

inductive Dialogue (α : Type) where
  | done (value : α)
  | stop (fault : Fault)
  /-- Send a frame; what follows depends on the reason why that failed, if it did. -/
  | send (frame : List UInt8) (next : Option String → Dialogue α)
  | receive (next : LinkEvent → Dialogue α)
  | notify (notice : Notice) (next : Dialogue α)

namespace Dialogue

variable {α β σ : Type}

/-- One dialogue after the other. A fault ends both. -/
def bind : Dialogue α → (α → Dialogue β) → Dialogue β
  | done value, f => f value
  | stop fault, _ => stop fault
  | send frame next, f => send frame fun failure => (next failure).bind f
  | receive next, f => receive fun event => (next event).bind f
  | notify notice next, f => notify notice (next.bind f)

instance : Monad Dialogue where
  pure := done
  bind := bind

def ofExcept : Except Fault α → Dialogue α
  | .ok value => done value
  | .error fault => stop fault

/-- The path a dialogue took. There is no outcome if the user ended the run on the way. -/
structure Run (σ α : Type) where
  outcome : Option (Except Fault α)
  link : σ
  frames : List (List UInt8)
  notices : List Notice

namespace Run

def ended (link : σ) (outcome : Option (Except Fault α)) : Run σ α := ⟨outcome, link, [], []⟩

/-- The results along the path. -/
def results (run : Run σ α) : List ScenarioResult :=
  run.notices.filterMap fun
    | .judged result => some result
    | .calibrated _ => none

/-- The axes in force at the end of a path that began with the given ones. -/
def axes (run : Run σ α) (initial : AxisSet) : AxisSet :=
  run.notices.foldl (fun current notice => match notice with
    | .calibrated axes => axes
    | .judged _ => current) initial

end Run

def run (link : Link σ) : Dialogue α → σ → Run σ α
  | done value, state => .ended state (some (.ok value))
  | stop fault, state => .ended state (some (.error fault))
  | send frame next, state =>
    let (failure, state) := link.write state frame
    let rest := run link (next failure) state
    { rest with frames := frame :: rest.frames }
  | receive next, state =>
    match link.read state with
    | none => .ended state none
    | some (event, state) => run link (next event) state
  | notify notice next, state =>
    let rest := run link next state
    { rest with notices := notice :: rest.notices }

end Dialogue

end PadBench
