import PadBench.Bench.Client
import PadBench.Proofs.Record.Expected
import PadBench.Proofs.Record.Observation

/-!
Which request an adapter's lines are read as the answer to.

A client stops reading a report's answer at the line that completes the stages. What the adapter printed
after it stays on the link and is read first when the next answer is awaited.

* `run_collect`: what is read of the lines that a link gives;
* `own_answers_iff_separated`: every report is answered by its own block of lines, and by nothing else,
  exactly if no block says more after the line that completes it and what it leaves is within the line
  budget of the next.
-/
namespace PadBench

/-- A line of an adapter, with the records on it; noise has none. -/
structure Printed where
  text : String
  records : Option (List Record)
  decodes : Record.ofLine? text = .ok records

namespace Printed

def said (line : Printed) : List Record := line.records.getD []

/-- The line says nothing that a client would keep. -/
def IsQuiet (line : Printed) : Prop := line.said = []

end Printed

/-- The number of lines until every stage has been seen. -/
def Observation.linesToComplete? : Observation → List Printed → Option Nat
  | _, [] => none
  | seen, line :: lines =>
    let seen := seen.pushAll line.said
    if seen.isComplete then some 1 else (linesToComplete? seen lines).map (· + 1)

/-- An adapter with the lines it has printed and not been heard on, and those it will answer the next
frame with. -/
structure Printer where
  pending : List Printed
  answer : List Printed

/-- Read again and again, the link gives these lines one after the other, which leaves it in another state. -/
inductive Link.Gives {σ : Type} (link : Link σ) : σ → List String → σ → Prop
  | none (state : σ) : Gives link state [] state
  | more {start middle last : σ} {text : String} {texts : List String}
      (first : link.read start = some (.line text, middle)) (rest : Gives link middle texts last) :
      Gives link start (text :: texts) last

namespace Printer

def write (printer : Printer) (_ : List UInt8) : Option String × Printer :=
  (none, ⟨printer.pending ++ printer.answer, []⟩)

def read (printer : Printer) : Option (LinkEvent × Printer) :=
  match printer.pending with
  | [] => some (.silent, printer)
  | line :: pending => some (.line line.text, { printer with pending })

def link : Link Printer := ⟨write, read⟩

/-- The lines at hand are given in order. -/
theorem gives (lines more answer : List Printed) :
    link.Gives ⟨lines ++ more, answer⟩ (lines.map Printed.text) ⟨more, answer⟩ := by
  induction lines with
  | nil => exact .none _
  | cons line lines ih => exact .more rfl ih

end Printer

namespace Observation

variable {seen : Observation} {lines : List Printed} {count : Nat}

theorem linesToComplete?_cons_of_complete {line : Printed}
    (complete : (seen.pushAll line.said).isComplete = true) :
    seen.linesToComplete? (line :: lines) = some 1 := by
  simp only [linesToComplete?, complete, if_true]

theorem linesToComplete?_cons_of_incomplete {line : Printed}
    (incomplete : (seen.pushAll line.said).isComplete = false) :
    seen.linesToComplete? (line :: lines) =
      ((seen.pushAll line.said).linesToComplete? lines).map (· + 1) := by
  simp only [linesToComplete?, incomplete, Bool.false_eq_true, if_false]

/-- The lines up to and with the completing one are there, and they complete what had been seen. -/
theorem complete_of_linesToComplete? (found : seen.linesToComplete? lines = some count) :
    count ≤ lines.length ∧
      (seen.pushAll ((lines.take count).flatMap Printed.said)).isComplete = true := by
  induction lines generalizing seen count with
  | nil => cases found
  | cons line lines ih =>
    cases complete : (seen.pushAll line.said).isComplete with
    | true =>
      rw [linesToComplete?_cons_of_complete complete] at found
      cases found
      refine ⟨Nat.le_add_left 1 _, ?_⟩
      rw [List.take_succ_cons, List.take_zero, List.flatMap_singleton]
      exact complete
    | false =>
      rw [linesToComplete?_cons_of_incomplete complete] at found
      obtain ⟨rest, foundRest, rfl⟩ := Option.map_eq_some_iff.mp found
      obtain ⟨short, completed⟩ := ih foundRest
      refine ⟨Nat.succ_le_succ short, ?_⟩
      rw [List.take_succ_cons, List.flatMap_cons, pushAll_append]
      exact completed

/-- Lines that complete what has been seen have a completing one among them. -/
theorem linesToComplete?_of_complete (incomplete : seen.isComplete = false)
    (complete : (seen.pushAll (lines.flatMap Printed.said)).isComplete = true) :
    ∃ count, seen.linesToComplete? lines = some count ∧ count ≤ lines.length := by
  induction lines generalizing seen with
  | nil =>
    rw [List.flatMap_nil, pushAll_nil, incomplete] at complete
    cases complete
  | cons line lines ih =>
    cases now : (seen.pushAll line.said).isComplete with
    | true => exact ⟨1, linesToComplete?_cons_of_complete now, Nat.le_add_left 1 _⟩
    | false =>
      rw [List.flatMap_cons, pushAll_append] at complete
      obtain ⟨count, found, short⟩ := ih now complete
      refine ⟨count + 1, ?_, Nat.succ_le_succ short⟩
      rw [linesToComplete?_cons_of_incomplete now, found]
      rfl

/-- Further lines do not change where the completing one is. -/
theorem linesToComplete?_append (more : List Printed)
    (found : seen.linesToComplete? lines = some count) :
    seen.linesToComplete? (lines ++ more) = some count := by
  induction lines generalizing seen count with
  | nil => cases found
  | cons line lines ih =>
    rw [List.cons_append]
    cases complete : (seen.pushAll line.said).isComplete with
    | true =>
      rw [linesToComplete?_cons_of_complete complete] at found ⊢
      exact found
    | false =>
      rw [linesToComplete?_cons_of_incomplete complete] at found ⊢
      obtain ⟨rest, foundRest, rfl⟩ := Option.map_eq_some_iff.mp found
      rw [ih foundRest]
      rfl

theorem said_of_quiet (quiet : ∀ line ∈ lines, line.IsQuiet) : lines.flatMap Printed.said = [] :=
  List.flatMap_eq_nil_iff.mpr quiet

/-- Quiet lines before the others only count. -/
theorem linesToComplete?_quiet_append {stale : List Printed} (incomplete : seen.isComplete = false)
    (quiet : ∀ line ∈ stale, line.IsQuiet) :
    seen.linesToComplete? (stale ++ lines) =
      (seen.linesToComplete? lines).map (stale.length + ·) := by
  induction stale with
  | nil =>
    have none_stale : (fun count => ([] : List Printed).length + count) = id := by
      funext count
      exact Nat.zero_add count
    rw [List.nil_append, none_stale, Option.map_id_fun, id]
  | cons line stale ih =>
    have first : line.said = [] := quiet line List.mem_cons_self
    have rest := ih fun line member => quiet line (List.mem_cons_of_mem _ member)
    have same : seen.pushAll line.said = seen := by rw [first, pushAll_nil]
    rw [List.cons_append, linesToComplete?_cons_of_incomplete (by rw [same, incomplete]), same, rest,
      Option.map_map]
    congr 1
    funext count
    simp only [Function.comp_apply, List.length_cons]
    omega

end Observation

namespace Client

variable {client : Client} {command : Command} {seen : Observation} {lines : List Printed}
  {budget count : Nat}

section

variable {σ : Type} {link : Link σ} {state next : σ}

/-- A line that completes what has been seen ends the answer. -/
theorem run_collect_of_complete {line : Printed} (arrives : link.read state = some (.line line.text, next))
    (incomplete : seen.isComplete = false) (complete : (seen.pushAll line.said).isComplete = true) :
    (client.collect command Observation.isComplete (budget + 1) seen).run link state =
      .ended next (some (.ok (seen.pushAll line.said))) := by
  obtain ⟨text, records, decodes⟩ := line
  cases records with
  | none =>
    rw [Printed.said, Option.getD_none, Observation.pushAll_nil, incomplete] at complete
    cases complete
  | some records =>
    rw [Printed.said, Option.getD_some] at complete
    simp only [collect, Dialogue.run, arrives, decodes, complete, if_true]
    rfl

/-- Any other line counts, and adds what it says. -/
theorem run_collect_of_incomplete {line : Printed} (arrives : link.read state = some (.line line.text, next))
    (incomplete : (seen.pushAll line.said).isComplete = false) :
    (client.collect command Observation.isComplete (budget + 1) seen).run link state =
      (client.collect command Observation.isComplete budget (seen.pushAll line.said)).run link next := by
  obtain ⟨text, records, decodes⟩ := line
  cases records with
  | none =>
    simp only [collect, Dialogue.run, arrives, decodes]
    rfl
  | some records =>
    rw [Printed.said, Option.getD_some] at incomplete
    simp only [collect, Dialogue.run, arrives, decodes, incomplete, Bool.false_eq_true, if_false]
    rfl

/-- Where the budget reaches the completing line, the lines up to it are read and nothing else. -/
theorem run_collect (incomplete : seen.isComplete = false)
    (found : seen.linesToComplete? lines = some count) (within : count ≤ budget)
    (gives : link.Gives state ((lines.take count).map Printed.text) next) :
    (client.collect command Observation.isComplete budget seen).run link state =
      .ended next (some (.ok (seen.pushAll ((lines.take count).flatMap Printed.said)))) := by
  induction lines generalizing seen budget count state with
  | nil => cases found
  | cons line lines ih =>
    cases complete : (seen.pushAll line.said).isComplete with
    | true =>
      rw [Observation.linesToComplete?_cons_of_complete complete] at found
      cases found
      obtain ⟨budget, rfl⟩ := Nat.exists_eq_add_of_le' within
      obtain _ | ⟨arrives, ⟨_⟩⟩ := gives
      rw [run_collect_of_complete arrives incomplete complete, List.take_succ_cons, List.take_zero,
        List.flatMap_singleton]
    | false =>
      rw [Observation.linesToComplete?_cons_of_incomplete complete] at found
      obtain ⟨rest, foundRest, rfl⟩ := Option.map_eq_some_iff.mp found
      obtain ⟨budget, rfl⟩ := Nat.exists_eq_add_of_le' (Nat.le_of_add_left_le within)
      obtain _ | ⟨arrives, gives⟩ := gives
      rw [run_collect_of_incomplete arrives complete, ih complete foundRest (by omega) gives,
        List.take_succ_cons, List.flatMap_cons, Observation.pushAll_append]

end

/-- An answer is only given where the completing line is within the budget. -/
theorem linesToComplete?_of_run_collect (incomplete : seen.isComplete = false) {result : Observation}
    (answered : ((client.collect command Observation.isComplete budget seen).run Printer.link
      ⟨lines, []⟩).outcome = some (.ok result)) :
    ∃ count, seen.linesToComplete? lines = some count ∧ count ≤ budget := by
  induction budget generalizing seen lines with
  | zero => cases answered
  | succ budget ih =>
    cases lines with
    | nil => cases answered
    | cons line lines =>
      cases complete : (seen.pushAll line.said).isComplete with
      | true =>
        exact ⟨1, Observation.linesToComplete?_cons_of_complete complete, Nat.le_add_left 1 _⟩
      | false =>
        rw [run_collect_of_incomplete rfl complete] at answered
        obtain ⟨count, found, within⟩ := ih complete answered
        refine ⟨count + 1, ?_, Nat.succ_le_succ within⟩
        rw [Observation.linesToComplete?_cons_of_incomplete complete, found]
        rfl

end Client

/-- How one report was answered: the block the adapter printed for it, the outcome, and the lines printed
for earlier reports that were read on the way to it. -/
structure Reading where
  block : List Printed
  outcome : Option (Except Fault Observation)
  stale : List Printed

/-- The report is answered, with stages from its own block, and nothing said for an earlier report was read
into the answer. -/
structure Reading.IsOwn (reading : Reading) : Prop where
  answered : ∃ seen, reading.outcome = some (.ok seen) ∧ ∀ which body,
    seen.stage which = some body → ∃ line ∈ reading.block, .stage which body ∈ line.said
  unmixed : ∀ line ∈ reading.stale, line.IsQuiet

/-- The path of one report, with the lines unread so far and the block that answers it. -/
def Client.heard (client : Client) (unread : List Printed) (report : List UInt8)
    (block : List Printed) : Dialogue.Run Printer Observation :=
  (client.inject report).run Printer.link ⟨unread, block⟩

def Client.reading (client : Client) (unread : List Printed) (report : List UInt8)
    (block : List Printed) : Reading :=
  let run := client.heard unread report block
  ⟨block, run.outcome, unread.take (unread.length + block.length - run.link.pending.length)⟩

/-- Reports one after the other over one link, each with the block that answers it. -/
def Client.readings (client : Client) : List Printed → List (List UInt8 × List Printed) → List Reading
  | _, [] => []
  | unread, (report, block) :: requests =>
    client.reading unread report block ::
      readings client (client.heard unread report block).link.pending requests

/-- The number of lines of a block up to the one that completes the stages. -/
def needed (block : List Printed) : Nat := (Observation.empty.linesToComplete? block).getD 0

/-- What is left of each block says nothing, and leaves the next block its part of the line budget. -/
def Separated (client : Client) : List Printed → List (List Printed) → Prop
  | _, [] => True
  | unread, block :: blocks =>
    (∀ line ∈ unread, line.IsQuiet) ∧ unread.length + needed block ≤ client.maxLines ∧
      Separated client (block.drop (needed block)) blocks

/-- Every stage is in the block within the line budget. -/
def Answers (client : Client) (block : List Printed) : Prop :=
  (Observation.ofRecords ((block.take client.maxLines).flatMap Printed.said)).isComplete = true

section Attribution

variable {client : Client} {unread block : List Printed} {report frame : List UInt8}

theorem linesToComplete?_needed (answers : Answers client block) :
    Observation.empty.linesToComplete? block = some (needed block) := by
  obtain ⟨count, found, _⟩ := Observation.linesToComplete?_of_complete Observation.empty_incomplete
    answers
  have whole := Observation.linesToComplete?_append (block.drop client.maxLines) found
  rw [List.take_append_drop] at whole
  rw [needed, whole]
  rfl

theorem heard_eq (sent : (Command.hidReport report).encode client.handle = .ok frame) :
    client.heard unread report block =
      { (client.collect (.hidReport report) Observation.isComplete client.maxLines .empty).run
          Printer.link ⟨unread ++ block, []⟩ with frames := frame ::
        ((client.collect (.hidReport report) Observation.isComplete client.maxLines .empty).run
          Printer.link ⟨unread ++ block, []⟩).frames } := by
  simp only [Client.heard, Client.inject, Client.exchange, sent, Dialogue.run, Printer.link,
    Printer.write]

/-- Where the completing line is within the budget, it is read, and what comes after it is left. -/
theorem heard_of_found (sent : (Command.hidReport report).encode client.handle = .ok frame)
    {count : Nat} (found : Observation.empty.linesToComplete? (unread ++ block) = some count)
    (within : count ≤ client.maxLines) :
    (client.heard unread report block).outcome =
        some (.ok (.ofRecords (((unread ++ block).take count).flatMap Printed.said))) ∧
      (client.heard unread report block).link.pending = (unread ++ block).drop count := by
  have gives := Printer.gives ((unread ++ block).take count) ((unread ++ block).drop count) []
  rw [List.take_append_drop] at gives
  rw [heard_eq sent, Client.run_collect Observation.empty_incomplete found within gives]
  exact ⟨rfl, rfl⟩

/-- A report is answered by its own block exactly if all that is unread before says nothing and the block
still fits the budget. -/
theorem reading_isOwn_iff (sent : (Command.hidReport report).encode client.handle = .ok frame)
    (answers : Answers client block) :
    (client.reading unread report block).IsOwn ↔
      (∀ line ∈ unread, line.IsQuiet) ∧ unread.length + needed block ≤ client.maxLines := by
  have own := linesToComplete?_needed answers
  constructor
  · rintro ⟨⟨seen, answered, _⟩, unmixed⟩
    have collected := answered
    simp only [Client.reading, heard_eq sent] at collected
    obtain ⟨count, found, within⟩ :=
      Client.linesToComplete?_of_run_collect Observation.empty_incomplete collected
    obtain ⟨short, complete⟩ := Observation.complete_of_linesToComplete? found
    have left := (heard_of_found sent found within).2
    have read : unread.length + block.length - (client.heard unread report block).link.pending.length =
        count := by
      rw [left, List.length_drop]
      rw [List.length_append] at short ⊢
      omega
    have quietTaken : ∀ line ∈ unread.take count, line.IsQuiet := by
      simp only [Client.reading, read] at unmixed
      exact unmixed
    have beyond : unread.length < count := by
      apply Nat.lt_of_not_le
      intro inside
      rw [List.take_append_of_le_length inside, Observation.said_of_quiet quietTaken] at complete
      cases complete
    have quiet : ∀ line ∈ unread, line.IsQuiet := by
      rw [List.take_of_length_le (Nat.le_of_lt beyond)] at quietTaken
      exact quietTaken
    rw [Observation.linesToComplete?_quiet_append Observation.empty_incomplete quiet, own] at found
    cases found
    exact ⟨quiet, within⟩
  · rintro ⟨quiet, within⟩
    have found : Observation.empty.linesToComplete? (unread ++ block) =
        some (unread.length + needed block) := by
      rw [Observation.linesToComplete?_quiet_append Observation.empty_incomplete quiet, own]
      rfl
    obtain ⟨outcome, _⟩ := heard_of_found sent found within
    refine ⟨⟨_, outcome, ?_⟩, ?_⟩
    · intro which body holds
      have member := Observation.stage_ofRecords holds
      obtain ⟨line, taken, said⟩ := List.mem_flatMap.mp member
      rcases List.mem_append.mp (List.mem_of_mem_take taken) with stale | here
      · have silent := quiet line stale
        rw [Printed.IsQuiet] at silent
        rw [silent] at said
        cases said
      · exact ⟨line, here, said⟩
    · intro line stale
      exact quiet line (List.mem_of_mem_take stale)

/-- What a separated block leaves on the link. -/
theorem pending_of_separated (sent : (Command.hidReport report).encode client.handle = .ok frame)
    (answers : Answers client block) (quiet : ∀ line ∈ unread, line.IsQuiet)
    (within : unread.length + needed block ≤ client.maxLines) :
    (client.heard unread report block).link.pending = block.drop (needed block) := by
  have found : Observation.empty.linesToComplete? (unread ++ block) =
      some (unread.length + needed block) := by
    rw [Observation.linesToComplete?_quiet_append Observation.empty_incomplete quiet,
      linesToComplete?_needed answers]
    rfl
  rw [(heard_of_found sent found within).2, List.drop_append, List.drop_eq_nil_of_le (by omega),
    List.nil_append, Nat.add_sub_cancel_left]

/-- Whatever is on the link at first, every report of a sequence is answered, and by its own block alone,
exactly if the blocks are separated. -/
theorem own_answers_iff_separated (client : Client) (unread : List Printed)
    (requests : List (List UInt8 × List Printed))
    (sent : ∀ request ∈ requests, ∃ frame, (Command.hidReport request.1).encode client.handle = .ok frame)
    (answers : ∀ request ∈ requests, Answers client request.2) :
    (∀ reading ∈ client.readings unread requests, reading.IsOwn) ↔
      Separated client unread (requests.map Prod.snd) := by
  induction requests generalizing unread with
  | nil => exact ⟨fun _ => trivial, fun _ _ member => nomatch member⟩
  | cons request requests ih =>
    obtain ⟨report, block⟩ := request
    obtain ⟨frame, sentHere⟩ := sent _ List.mem_cons_self
    have answersHere : Answers client block := answers _ List.mem_cons_self
    have first : (client.reading unread report block).IsOwn ↔ _ := reading_isOwn_iff sentHere answersHere
    have rest := fun left => ih left (fun other member => sent other (List.mem_cons_of_mem _ member))
      (fun other member => answers other (List.mem_cons_of_mem _ member))
    simp only [Client.readings, List.map_cons, Separated, List.forall_mem_cons]
    constructor
    · rintro ⟨own, later⟩
      obtain ⟨quiet, within⟩ := first.mp own
      rw [rest, pending_of_separated sentHere answersHere quiet within] at later
      exact ⟨quiet, within, later⟩
    · rintro ⟨quiet, within, later⟩
      refine ⟨first.mpr ⟨quiet, within⟩, ?_⟩
      rw [rest, pending_of_separated sentHere answersHere quiet within]
      exact later

/-- A line with every stage, the wireless one showing the given word. -/
def fullLine (word : UInt32) : Printed :=
  let scenario : Scenario := ⟨"", .buttons, ⟨word, none, .const none⟩, ⟨0, 0, .const none⟩⟩
  ⟨JsonLines.line scenario.expectedJson, some scenario.records, scenario.ofLine?_expected⟩

/-- Two reports with an answer of one line each. -/
theorem own_answers_of_single_lines : ∃ first second,
    Client.readings ⟨1, 1000, 8⟩ [] [([], [fullLine 1]), ([], [fullLine 2])] = [first, second] ∧
      first.IsOwn ∧ second.IsOwn := by
  have separated : Separated ⟨1, 1000, 8⟩ [] [[fullLine 1], [fullLine 2]] :=
    ⟨nofun, by decide, nofun, by decide, trivial⟩
  have own : ∀ reading ∈ Client.readings ⟨1, 1000, 8⟩ [] [([], [fullLine 1]), ([], [fullLine 2])],
      reading.IsOwn := by
    refine (own_answers_iff_separated ⟨1, 1000, 8⟩ [] [([], [fullLine 1]), ([], [fullLine 2])]
      ?_ ?_).mpr separated
    · simp only [List.forall_mem_cons]
      exact ⟨⟨_, rfl⟩, ⟨_, rfl⟩, nofun⟩
    · simp only [List.forall_mem_cons]
      exact ⟨rfl, rfl, nofun⟩
  exact ⟨_, _, rfl, own _ List.mem_cons_self, own _ (List.mem_cons_of_mem _ List.mem_cons_self)⟩

/-- After one line too many the next report is answered by it: nothing of what the second report gets was
printed for it. -/
theorem surplus_line_answers_next : ∃ reading ∈ Client.readings ⟨1, 1000, 8⟩ []
      [([], [fullLine 1, fullLine 2]), ([], [fullLine 3])],
    ∃ seen body, reading.block = [fullLine 3] ∧ reading.outcome = some (.ok seen) ∧
      seen.stage .wireless = some body ∧ ∀ line ∈ reading.block, .stage .wireless body ∉ line.said := by
  obtain ⟨frame, sent⟩ : ∃ frame, (Command.hidReport []).encode 1 = .ok frame := ⟨_, rfl⟩
  have within : 1 ≤ Client.maxLines ⟨1, 1000, 8⟩ := by decide
  have first : (Client.heard ⟨1, 1000, 8⟩ [] [] [fullLine 1, fullLine 2]).outcome = _ ∧ _ =
      [fullLine 2] := heard_of_found sent rfl within
  have second : (Client.heard ⟨1, 1000, 8⟩ [fullLine 2] [] [fullLine 3]).outcome = _ ∧ _ =
      [fullLine 3] := heard_of_found sent rfl within
  refine ⟨Client.reading ⟨1, 1000, 8⟩ [fullLine 2] [] [fullLine 3], ?_,
    .ofRecords (fullLine 2).said, _, rfl, ?_, rfl, ?_⟩
  · rw [Client.readings, first.2]
    exact List.mem_cons_of_mem _ List.mem_cons_self
  · have answer : (([fullLine 2] ++ [fullLine 3]).take 1).flatMap Printed.said = (fullLine 2).said :=
      List.flatMap_singleton _ _
    rw [Client.reading, second.1, answer]
  · intro line member said
    rw [List.mem_singleton.mp member] at said
    simp [fullLine, Printed.said, Scenario.records, Scenario.stageRecord, Scenario.buttons] at said

end Attribution

end PadBench
