import PadBench.Fault

/-!
Opening a link, with further attempts after a pause when it fails.
-/
namespace PadBench

/-- How an attempt to connect ended, and how long was waited between the attempts. -/
structure Connection (σ : Type) where
  waitedMs : Nat
  outcome : Except Fault σ

namespace Connection

variable {σ : Type}

def noAttempt : Fault := .transport "no connection attempt made"

def unopened (target : String) : Fault := .transport ("Failed to open " ++ target)

/-- Up to so many attempts; the fault is that of the last one. `tryOpen` is given the number of the
attempt. -/
def establish (tryOpen : Nat → Except Fault σ) (intervalMs : Nat) (attempt : Nat) : Nat → Connection σ
  | 0 => ⟨0, .error noAttempt⟩
  | remaining + 1 =>
    match tryOpen attempt, remaining with
    | .ok link, _ => ⟨0, .ok link⟩
    | .error fault, 0 => ⟨0, .error fault⟩
    | .error _, remaining =>
      let later := establish tryOpen intervalMs (attempt + 1) remaining
      { later with waitedMs := later.waitedMs + intervalMs }

end Connection

end PadBench
