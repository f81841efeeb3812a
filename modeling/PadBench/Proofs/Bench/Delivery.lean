import PadBench.Proofs.Bench.Attribution
import PadBench.Proofs.Record.RoundTrip

/-!
A report's answer is the same however its stages are delivered.

Stages may come in any order, several on a line or each on its own, between lines that say something else or
nothing. Each comes once, so the line with the last of them is the first that completes them.

* `linesToComplete?_of_delivery`: which line completes the stages;
* `inject_of_delivery`: what is read of a link that begins with a delivery;
* `answers_agree`: two links that begin with deliveries of the same stages.
-/
namespace PadBench

/-- The lines that deliver four stages, up to the one with the last of them. What stands between the stages
is anything but a stage, on lines with them or without. -/
structure Delivery (bodies : Stage → StageRecord) where
  before : List Printed
  last : Printed
  stages : (((before ++ [last]).flatMap Printed.said).filter fun record => record.stage?.isSome).Perm
    (Stage.all.map fun which => .stage which (bodies which))
  ends : ∃ record ∈ last.said, record.stage?.isSome

/-- The link takes the frame, and the first it gives then are these lines. -/
structure Link.StartsWith {σ : Type} (link : Link σ) (start : σ) (frame : List UInt8) (lines : List Printed)
    (after : σ) : Prop where
  takes : (link.write start frame).1 = none
  gives : link.Gives (link.write start frame).2 (lines.map Printed.text) after

/-- An adapter answers a frame with the first of the lines it prints. -/
theorem Printer.startsWith (lines more : List Printed) (frame : List UInt8) :
    Printer.link.StartsWith ⟨[], lines ++ more⟩ frame lines ⟨more, []⟩ :=
  ⟨rfl, Printer.gives lines more []⟩

namespace Delivery

variable {bodies : Stage → StageRecord} (delivery : Delivery bodies)

def lines : List Printed := delivery.before ++ [delivery.last]

def said : List Record := delivery.lines.flatMap Printed.said

theorem mem_said_iff {which : Stage} {body : StageRecord} :
    .stage which body ∈ delivery.said ↔ body = bodies which := by
  have kept : .stage which body ∈ delivery.said ↔
      .stage which body ∈ delivery.said.filter fun record => record.stage?.isSome := by
    rw [List.mem_filter]
    exact ⟨fun member => ⟨member, rfl⟩, And.left⟩
  rw [kept, said, lines, delivery.stages.mem_iff, List.mem_map]
  constructor
  · rintro ⟨other, _, same⟩
    cases same
    rfl
  · rintro rfl
    exact ⟨which, which.mem_all, rfl⟩

/-- Each stage is shown once. -/
theorem countP_said (which : Stage) :
    delivery.said.countP (fun record => record.stage? == some which) = 1 := by
  have kept : delivery.said.countP (fun record => record.stage? == some which) =
      (delivery.said.filter fun record => record.stage?.isSome).countP
        (fun record => record.stage? == some which) := by
    rw [List.countP_filter]
    congr 1
    funext record
    cases record <;> simp [Record.stage?]
  rw [kept, said, lines, delivery.stages.countP_eq]
  cases which <;> rfl

theorem complete : (Observation.ofRecords delivery.said).isComplete = true := by
  refine Observation.isComplete_ofRecords_iff.mpr fun which => ?_
  exact ⟨.stage which (bodies which), delivery.mem_said_iff.mpr rfl, rfl⟩

/-- Before the last line a stage is missing: the one that the last line shows. -/
theorem incomplete_before :
    (Observation.ofRecords (delivery.before.flatMap Printed.said)).isComplete = false := by
  apply Bool.eq_false_iff.mpr
  intro early
  obtain ⟨record, member, ends⟩ := delivery.ends
  obtain ⟨which, shows⟩ := Option.isSome_iff_exists.mp ends
  obtain ⟨earlier, before, alike⟩ := Observation.isComplete_ofRecords_iff.mp early which
  have once := delivery.countP_said which
  rw [said, lines, List.flatMap_append, List.countP_append, List.flatMap_singleton] at once
  have one : 0 < (delivery.before.flatMap Printed.said).countP (fun record => record.stage? == some which) :=
    List.countP_pos_iff.mpr ⟨earlier, before, beq_iff_eq.mpr alike⟩
  have two : 0 < delivery.last.said.countP (fun record => record.stage? == some which) :=
    List.countP_pos_iff.mpr ⟨record, member, beq_iff_eq.mpr shows⟩
  omega

/-- The line with the last stage is the first that completes them. -/
theorem linesToComplete?_lines :
    Observation.empty.linesToComplete? delivery.lines = some delivery.lines.length := by
  obtain ⟨count, found, short⟩ :=
    Observation.linesToComplete?_of_complete Observation.empty_incomplete delivery.complete
  rw [found]
  apply congrArg some
  apply Nat.le_antisymm short
  rw [lines, List.length_append, List.length_singleton]
  apply Nat.lt_of_not_le
  intro early
  -- What completes the stages early does so with more lines too.
  have taken := (Observation.complete_of_linesToComplete? found).2
  rw [lines, List.take_append_of_le_length early] at taken
  have whole : (Observation.ofRecords (delivery.before.flatMap Printed.said)).isComplete = true := by
    refine Observation.isComplete_ofRecords_iff.mpr fun which => ?_
    obtain ⟨record, member, shows⟩ := Observation.isComplete_ofRecords_iff.mp taken which
    obtain ⟨line, before, said⟩ := List.mem_flatMap.mp member
    exact ⟨record, List.mem_flatMap.mpr ⟨line, List.mem_of_mem_take before, said⟩, shows⟩
  rw [delivery.incomplete_before] at whole
  cases whole

end Delivery

section

variable {client : Client} {report frame : List UInt8} {bodies : Stage → StageRecord}

/-- On a link that begins with a delivery within the line budget a report is answered with the stages that
are delivered, and nothing is read after them. -/
theorem inject_of_delivery {σ : Type} {link : Link σ} {start after : σ}
    (sent : (Command.hidReport report).encode client.handle = .ok frame) (delivery : Delivery bodies)
    (within : delivery.lines.length ≤ client.maxLines)
    (starts : link.StartsWith start frame delivery.lines after) :
    ∃ seen, ((client.inject report).run link start).outcome = some (.ok seen) ∧
      (∀ which, seen.stage which = some (bodies which)) ∧
      ((client.inject report).run link start).link = after := by
  have collected : (client.collect (.hidReport report) Observation.isComplete client.maxLines .empty).run link
      (link.write start frame).2 = .ended after (some (.ok (.ofRecords delivery.said))) := by
    have gives := starts.gives
    rw [← delivery.lines.take_length] at gives
    rw [Client.run_collect Observation.empty_incomplete delivery.linesToComplete?_lines within gives,
      List.take_length]
    rfl
  have path : (client.inject report).run link start =
      ⟨some (.ok (.ofRecords delivery.said)), after, [frame], []⟩ := by
    rw [Client.inject, Client.exchange, sent]
    simp only [Dialogue.run, starts.takes, collected]
    rfl
  refine ⟨.ofRecords delivery.said, by rw [path], fun which => ?_, by rw [path]⟩
  obtain ⟨body, holds⟩ := Option.isSome_iff_exists.mp
    (Observation.isComplete_iff.mp delivery.complete which)
  rw [holds, delivery.mem_said_iff.mp (Observation.stage_ofRecords holds)]

/-- Two links that begin with deliveries of the same stages, each within the line budget, answer a report with
the same stages, and on either nothing is read after the line that completes them. -/
theorem answers_agree {σ τ : Type} {link : Link σ} {link' : Link τ} {start after : σ} {start' after' : τ}
    (sent : (Command.hidReport report).encode client.handle = .ok frame)
    (delivery delivery' : Delivery bodies) (within : delivery.lines.length ≤ client.maxLines)
    (within' : delivery'.lines.length ≤ client.maxLines)
    (starts : link.StartsWith start frame delivery.lines after)
    (starts' : link'.StartsWith start' frame delivery'.lines after') :
    let run := (client.inject report).run link start
    let run' := (client.inject report).run link' start'
    ∃ seen seen', run.outcome = some (.ok seen) ∧ run'.outcome = some (.ok seen') ∧
      (∀ which, seen.stage which = some (bodies which) ∧ seen'.stage which = seen.stage which) ∧
      run.link = after ∧ run'.link = after' := by
  obtain ⟨seen, outcome, stages, left⟩ := inject_of_delivery sent delivery within starts
  obtain ⟨seen', outcome', stages', left'⟩ := inject_of_delivery sent delivery' within' starts'
  refine ⟨seen, seen', outcome, outcome', fun which => ⟨stages which, ?_⟩, left, left'⟩
  rw [stages, stages']

end

/-- A record on a line of its own. -/
def Printed.ofRecord (record : Record) : Printed :=
  ⟨record.toJson.render, some [record], Record.ofLine?_render record⟩

namespace Delivery

/-- The stages of a scenario on the one line that is written of it. -/
def keyed (scenario : Scenario) : Delivery scenario.stageRecord where
  before := []
  last := ⟨JsonLines.line scenario.expectedJson, some scenario.records, scenario.ofLine?_expected⟩
  stages := by
    change [Record.stage .generic (scenario.stageRecord .generic), .stage .mapped (scenario.stageRecord .mapped),
      .stage .wired (scenario.stageRecord .wired), .stage .wireless (scenario.stageRecord .wireless)].Perm _
    exact List.perm_append_singleton _ [_, _, _]
  ends := ⟨_, List.mem_cons_self, rfl⟩

/-- Each stage on a line of its own, the last one first, after noise, an empty object and a record of no
known kind. -/
def tagged (bodies : Stage → StageRecord) : Delivery bodies where
  before := [⟨"boot", none, rfl⟩, ⟨"\x7b\x7d", some [], rfl⟩, .ofRecord .unknown,
    .ofRecord (.stage .wired (bodies .wired)), .ofRecord (.stage .mapped (bodies .mapped)),
    .ofRecord (.stage .generic (bodies .generic))]
  last := .ofRecord (.stage .wireless (bodies .wireless))
  stages := by
    change [Record.stage .wired (bodies .wired), .stage .mapped (bodies .mapped),
      .stage .generic (bodies .generic), .stage .wireless (bodies .wireless)].Perm _
    exact List.reverse_perm [_, _, _, _]
  ends := ⟨_, List.mem_cons_self, rfl⟩

end Delivery

/-- The two deliveries of a scenario, each with a line too many after it, which stays on the link. -/
theorem answers_agree_of_keyed_and_tagged : ∃ keyed tagged seen seen',
    keyed = (Client.inject ⟨1, 1000, 8⟩ []).run Printer.link
      ⟨[], (Delivery.keyed Scenario.extremeScenario).lines ++ [fullLine 1]⟩ ∧
    tagged = (Client.inject ⟨1, 1000, 8⟩ []).run Printer.link
      ⟨[], (Delivery.tagged Scenario.extremeScenario.stageRecord).lines ++ [fullLine 1]⟩ ∧
    keyed.outcome = some (.ok seen) ∧ tagged.outcome = some (.ok seen') ∧
    (∀ which, seen'.stage which = seen.stage which) ∧
    keyed.link.pending = [fullLine 1] ∧ tagged.link.pending = [fullLine 1] := by
  have sent : (Command.hidReport []).encode (Client.handle ⟨1, 1000, 8⟩) = .ok _ := rfl
  obtain ⟨seen, seen', outcome, outcome', same, left, left'⟩ := answers_agree sent
    (Delivery.keyed Scenario.extremeScenario) (Delivery.tagged Scenario.extremeScenario.stageRecord)
    (by decide) (by decide) (Printer.startsWith _ [fullLine 1] _) (Printer.startsWith _ [fullLine 1] _)
  refine ⟨_, _, seen, seen', rfl, rfl, outcome, outcome', fun which => (same which).2, ?_, ?_⟩
  · rw [left]
  · rw [left']

end PadBench
