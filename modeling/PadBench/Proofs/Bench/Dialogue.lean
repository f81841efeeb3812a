import PadBench.Bench.Dialogue

/-!
Dialogues one after the other: the laws of `bind`, and the path of a bound dialogue (`run_bind_of_ok`,
`run_bind_of_not_ok`).

`Listens` and `Quiet` say what a dialogue leaves out, whatever the link does.
-/
namespace PadBench.Dialogue

variable {α β γ σ : Type}

@[simp] theorem bind_eq (dialogue : Dialogue α) (next : α → Dialogue β) :
    (dialogue >>= next) = dialogue.bind next := rfl

@[simp] theorem done_bind (value : α) (next : α → Dialogue β) : (done value).bind next = next value := rfl

@[simp] theorem stop_bind (fault : Fault) (next : α → Dialogue β) :
    (stop fault).bind next = stop fault := rfl

@[simp] theorem notify_bind (notice : Notice) (dialogue : Dialogue α) (next : α → Dialogue β) :
    (notify notice dialogue).bind next = notify notice (dialogue.bind next) := rfl

@[simp] theorem bind_assoc (dialogue : Dialogue α) (next : α → Dialogue β) (last : β → Dialogue γ) :
    (dialogue.bind next).bind last = dialogue.bind fun value => (next value).bind last := by
  induction dialogue with
  | done value => rfl
  | stop fault => rfl
  | send frame rest ih => exact congrArg (send frame) (funext ih)
  | receive rest ih => exact congrArg receive (funext ih)
  | notify notice rest ih => exact congrArg (notify notice) ih

theorem bind_done (dialogue : Dialogue α) : dialogue.bind done = dialogue := by
  induction dialogue with
  | done value => rfl
  | stop fault => rfl
  | send frame rest ih => exact congrArg (send frame) (funext ih)
  | receive rest ih => exact congrArg receive (funext ih)
  | notify notice rest ih => exact congrArg (notify notice) ih

/-- After a value, the path goes on from where it stood. -/
theorem run_bind_of_ok {link : Link σ} {dialogue : Dialogue α} (next : α → Dialogue β) {state : σ}
    {value : α} (ended : (dialogue.run link state).outcome = some (.ok value)) :
    (dialogue.bind next).run link state =
      let first := dialogue.run link state
      let rest := (next value).run link first.link
      ⟨rest.outcome, rest.link, first.frames ++ rest.frames, first.notices ++ rest.notices⟩ := by
  induction dialogue generalizing state with
  | done result =>
    cases ended
    rfl
  | stop fault => cases ended
  | send frame rest ih =>
    have step := ih _ ended
    simp only [bind, run, step, List.cons_append]
  | receive rest ih =>
    simp only [bind, run] at ended ⊢
    cases arrived : link.read state with
    | none =>
      rw [arrived] at ended
      cases ended
    | some pair =>
      rw [arrived] at ended
      exact ih _ ended
  | notify notice rest ih =>
    have step := ih ended
    simp only [bind, run, step, List.cons_append]

/-- Without a value, that is where the path ends. -/
theorem run_bind_of_not_ok {link : Link σ} {dialogue : Dialogue α} (next : α → Dialogue β) {state : σ}
    (failed : ∀ value, (dialogue.run link state).outcome ≠ some (.ok value)) :
    let run := dialogue.run link state
    ∃ outcome, (dialogue.bind next).run link state = ⟨outcome, run.link, run.frames, run.notices⟩ ∧
      ((run.outcome = none ∧ outcome = none) ∨
        ∃ fault, run.outcome = some (.error fault) ∧ outcome = some (.error fault)) := by
  induction dialogue generalizing state with
  | done value => exact absurd rfl (failed value)
  | stop fault => exact ⟨_, rfl, .inr ⟨fault, rfl, rfl⟩⟩
  | send frame rest ih =>
    obtain ⟨outcome, step, same⟩ := ih _ failed
    refine ⟨outcome, ?_, same⟩
    simp only [bind, run, step]
  | receive rest ih =>
    simp only [bind, run] at failed ⊢
    cases arrived : link.read state with
    | none => exact ⟨none, rfl, .inl ⟨rfl, rfl⟩⟩
    | some pair =>
      rw [arrived] at failed
      exact ih _ failed
  | notify notice rest ih =>
    obtain ⟨outcome, step, same⟩ := ih failed
    refine ⟨outcome, ?_, same⟩
    simp only [bind, run, step]

/-- A dialogue that a fault follows has no value, and shows nothing of the fault before its own end. -/
theorem run_bind_stop (link : Link σ) (dialogue : Dialogue α) (fault : Fault) (state : σ) :
    let first := dialogue.run link state
    let whole := (dialogue.bind fun _ => (stop fault : Dialogue β)).run link state
    whole.frames = first.frames ∧ (∀ value, whole.outcome ≠ some (.ok value)) ∧
      ∀ value, first.outcome = some (.ok value) → whole.outcome = some (.error fault) := by
  intro first whole
  by_cases ended : ∃ value, first.outcome = some (.ok value)
  · obtain ⟨value, ended⟩ := ended
    have path : whole = ⟨some (.error fault), first.link, first.frames ++ [], first.notices ++ []⟩ :=
      run_bind_of_ok (fun _ => stop fault) ended
    rw [path]
    exact ⟨List.append_nil _, nofun, fun _ _ => rfl⟩
  · have failed (value : α) : first.outcome ≠ some (.ok value) := fun done => ended ⟨value, done⟩
    obtain ⟨outcome, path, same⟩ := run_bind_of_not_ok (fun _ => (stop fault : Dialogue β)) failed
    have path : whole = ⟨outcome, first.link, first.frames, first.notices⟩ := path
    rw [path]
    refine ⟨rfl, fun value done => ?_, fun value done => absurd done (failed value)⟩
    obtain ⟨_, rfl⟩ | ⟨cause, _, rfl⟩ := same <;> cases done

/-- The dialogue only receives: it sends nothing and tells nothing. -/
def Listens : Dialogue α → Prop
  | done _ | stop _ => True
  | receive next => ∀ event, (next event).Listens
  | send _ _ | notify _ _ => False

/-- The dialogue tells nothing. -/
def Quiet : Dialogue α → Prop
  | done _ | stop _ => True
  | send _ next => ∀ failure, (next failure).Quiet
  | receive next => ∀ event, (next event).Quiet
  | notify _ _ => False

theorem quiet_of_listens {dialogue : Dialogue α} (listens : dialogue.Listens) : dialogue.Quiet := by
  induction dialogue with
  | done value => trivial
  | stop fault => trivial
  | send frame rest ih => exact listens.elim
  | receive rest ih => exact fun event => ih event (listens event)
  | notify notice rest ih => exact listens.elim

theorem quiet_bind {dialogue : Dialogue α} {next : α → Dialogue β} (first : dialogue.Quiet)
    (after : ∀ value, (next value).Quiet) : (dialogue.bind next).Quiet := by
  induction dialogue with
  | done value => exact after value
  | stop fault => trivial
  | send frame rest ih => exact fun failure => ih failure (first failure)
  | receive rest ih => exact fun event => ih event (first event)
  | notify notice rest ih => exact first.elim

theorem quiet_ofExcept (value : Except Fault α) : (ofExcept value).Quiet := by
  cases value <;> trivial

theorem frames_of_listens {link : Link σ} {dialogue : Dialogue α} (listens : dialogue.Listens) (state : σ) :
    (dialogue.run link state).frames = [] := by
  induction dialogue generalizing state with
  | done value => rfl
  | stop fault => rfl
  | send frame rest ih => exact listens.elim
  | receive rest ih =>
    rw [run]
    cases link.read state with
    | none => rfl
    | some arrival => exact ih _ (listens _) _
  | notify notice rest ih => exact listens.elim

theorem notices_of_quiet {link : Link σ} {dialogue : Dialogue α} (quiet : dialogue.Quiet) (state : σ) :
    (dialogue.run link state).notices = [] := by
  induction dialogue generalizing state with
  | done value => rfl
  | stop fault => rfl
  | send frame rest ih => exact ih _ (quiet _) _
  | receive rest ih =>
    rw [run]
    cases link.read state with
    | none => rfl
    | some arrival => exact ih _ (quiet _) _
  | notify notice rest ih => exact quiet.elim

end PadBench.Dialogue
