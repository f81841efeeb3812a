import PadBench.Adapter.Scenario
import PadBench.Proofs.Adapter.Calibrated
import PadBench.Proofs.Pad.Hat
import PadBench.Proofs.Report.Layout

/-!
What an adapter makes of a report is what it makes of the state the report was built from, as far as
the fields can hold the axes.

* `predict_carried`: an adapter predicts the same from the state that a report carries;
* `predict_of_report`: a state whose axes and buttons the fields can hold has a report, and reading it by its
  layout loses nothing that an adapter looks at.
-/
namespace PadBench

theorem Adapter.predict_congr {adapter : Adapter} {a b : PadState}
    (buttons : adapter.genericButtons a = adapter.genericButtons b)
    (axes : ∀ axis, (adapter.source.axes.get axis).isSome → a.axes.get axis = b.axes.get axis) :
    adapter.predict a = adapter.predict b := by
  have samples : adapter.axisSample a = adapter.axisSample b := by
    funext axis
    simp only [axisSample]
    cases present : adapter.source.axes.get axis with
    | none => rfl
    | some source => rw [axes axis (by rw [present]; rfl)]
  rw [predict, predict, wiredButtons, wiredButtons, buttons, samples]

namespace Report

variable {pad : WirelessPad} {format : ReportFormat}

/-- The cases of a pad whose reports can be built. -/
theorem cases_of_format {motive : WirelessPad → ReportFormat → Prop}
    (known : pad.reportFormat? = some format) (ps4 : motive .ps4 .playStation)
    (ps5 : motive .ps5 .playStation) (switchPro : motive .switchPro .switchFull)
    (generic : motive .generic .generic) : motive pad format := by
  cases pad <;> simp only [WirelessPad.reportFormat?, Option.some.injEq, reduceCtorEq] at known <;>
    subst known <;> assumption

theorem entry_masked (known : pad.reportFormat? = some format) (button : PadButton) :
    pad.buttons.entry button &&& buttonMask format = pad.buttons.entry button := by
  refine cases_of_format (motive := fun pad format =>
    pad.buttons.entry button &&& buttonMask format = pad.buttons.entry button) known ?_ ?_ ?_ ?_ <;>
    cases button <;> decide

theorem mask_beside (format : ReportFormat) (state : PadState) :
    buttonMask format &&& beside format state = 0 := by
  cases format with
  | playStation =>
    have nibble : beside .playStation state =
        0xF &&& (state.hat.getD (releasedHat .playStation)).toUInt32 := by
      simp only [beside, hatNibble, UInt8.toUInt32_and, UInt32.and_comm]
      rfl
    have apart : buttonMask .playStation &&& 0xF = 0 := by decide
    rw [nibble, ← UInt32.and_assoc, apart, UInt32.zero_and]
  | switchFull =>
    have apart : buttonMask .switchFull &&& status = 0 := by decide
    exact apart
  | generic => exact UInt32.and_zero

/-- The hat and the status beside the buttons press nothing. -/
theorem generic_carriedWord (known : pad.reportFormat? = some format) (state : PadState) :
    pad.buttons.generic (carriedWord format state) = pad.buttons.generic state.buttons := by
  have presses : pad.buttons.presses (carriedWord format state) = pad.buttons.presses state.buttons := by
    funext button
    rw [ButtonTable.presses, ButtonTable.presses, carriedWord,
      Word.and_masked_or _ (entry_masked known button) (mask_beside format state)]
  rw [ButtonTable.generic, ButtonTable.generic, presses]

theorem union_masked (known : pad.reportFormat? = some format) :
    pad.buttons.union &&& buttonMask format = pad.buttons.union := by
  refine cases_of_format (motive := fun pad format =>
    pad.buttons.union &&& buttonMask format = pad.buttons.union) known ?_ ?_ ?_ ?_ <;> decide

/-- The bits that hold buttons of the pad are those of the state. -/
theorem buttons_carried (known : pad.reportFormat? = some format) (state : PadState) :
    (carried pad format state).buttons &&& pad.buttons.union =
      state.buttons &&& pad.buttons.union := by
  have same := Word.and_masked_or state.buttons (union_masked known) (mask_beside format state)
  rw [UInt32.and_comm, UInt32.and_comm state.buttons]
  exact same

theorem hatBits_carried {adapter : Adapter} (follows : adapter.Follows pad)
    (known : pad.reportFormat? = some format) (state : PadState) :
    adapter.hatBits (carried pad format state) = adapter.hatBits state := by
  have hat := follows.hat
  revert hat
  refine cases_of_format (motive := fun pad format => adapter.source.hat = pad.hat →
    adapter.hatBits (carried pad format state) = adapter.hatBits state) known ?_ ?_ ?_ ?_ <;>
    intro hat <;> simp only [Adapter.hatBits, hat, WirelessPad.hat, carried, carriedHat]
  all_goals
    cases code : state.hat with
    | none => simp only [hatNibble, code]; decide
    | some code' => simp only [hatNibble, code, Option.getD_some, Hat.Encoding.decode_nibble]

theorem genericButtons_carried {adapter : Adapter} (follows : adapter.Follows pad)
    (known : pad.reportFormat? = some format) (state : PadState) :
    adapter.genericButtons (carried pad format state) = adapter.genericButtons state := by
  rw [Adapter.genericButtons, Adapter.genericButtons, hatBits_carried follows known, follows.buttons]
  exact congrArg (· ||| _) (generic_carriedWord known state)

/-- The values of the axes that have a field are within it. -/
def Fits (format : ReportFormat) (state : PadState) : Prop :=
  ∀ axis ∈ axes format, ∀ value, state.axes.get axis = some value →
    0 ≤ value ∧ value ≤ greatestAxis format

/-- An axis without a field is absent or at the neutral of the pad. -/
def Expressible (pad : WirelessPad) (format : ReportFormat) (state : PadState) : Prop :=
  ∀ axis, axis ∉ axes format → ∀ value, state.axes.get axis = some value →
    (pad.axes.get axis).map Calibration.neutral = some value

theorem isExpressible_iff (pad : WirelessPad) (format : ReportFormat) (state : PadState) :
    isExpressible pad format state = true ↔ Expressible pad format state := by
  simp only [isExpressible, List.all_eq_true, Bool.or_eq_true, List.contains_iff_mem, Expressible]
  constructor
  · intro all axis outside value given
    have here := (all axis (Axis.mem_all axis)).resolve_left outside
    rw [given] at here
    simpa using here
  · intro all axis _
    by_cases inside : axis ∈ axes format
    · exact .inl inside
    · right
      cases given : state.axes.get axis with
      | none => rfl
      | some value => simpa using all axis inside value given

/-- A pad at rest has a report under every calibration. -/
theorem rest_has_report {adapter : Adapter} (follows : adapter.Follows pad)
    (known : pad.reportFormat? = some format) : ∃ report, encode? pad adapter.restState = some report := by
  cases sent : encode? pad adapter.restState with
  | some report => exact ⟨report, rfl⟩
  | none =>
    obtain ⟨rfl, refused⟩ := (encode?_eq_none known _).mp sent
    have uncalibrated : pad.calibration = none := by
      cases pad <;> first | rfl | cases known
    have expressible : Expressible pad .generic adapter.restState := by
      intro axis _ value given
      rw [← given, Adapter.restState, PadState.neutral, PerAxis.get_map, follows.fixed uncalibrated]
    rw [(isExpressible_iff pad .generic _).mpr expressible] at refused
    cases refused

theorem get_carried (pad : WirelessPad) (format : ReportFormat) (state : PadState) (axis : Axis) :
    (carried pad format state).axes.get axis =
      if axis ∈ axes format then some (carriedValue format (axisValue pad state axis))
      else (pad.axes.get axis).map Calibration.neutral := by
  simp only [carried, PerAxis.get_ofFn, carriedAxis]
  split <;> rfl

/-- A field holds the very value exactly if the value is within it. -/
theorem carriedValue_eq_iff (format : ReportFormat) (value : Int) :
    carriedValue format value = value ↔ 0 ≤ value ∧ value ≤ greatestAxis format := by
  have positive : 0 < greatestAxis format := by cases format <;> decide
  simp only [carriedValue]
  omega

/-- The report of a state says of every axis with a field what the state says, exactly if the fields
can hold it. -/
theorem carried_eq_iff_fits (pad : WirelessPad) {state : PadState}
    (present : ∀ axis ∈ axes format, (state.axes.get axis).isSome) :
    (∀ axis ∈ axes format, (carried pad format state).axes.get axis = state.axes.get axis) ↔
      Fits format state := by
  have each : ∀ axis ∈ axes format, ∀ value, state.axes.get axis = some value →
      ((carried pad format state).axes.get axis = state.axes.get axis ↔
        0 ≤ value ∧ value ≤ greatestAxis format) := by
    intro axis field value given
    rw [get_carried, if_pos field, given, Option.some.injEq, ← carriedValue_eq_iff]
    simp only [axisValue, given, Option.getD_some]
  constructor
  · intro same axis field value given
    exact (each axis field value given).mp (same axis field)
  · intro fits axis field
    obtain ⟨value, given⟩ := Option.isSome_iff_exists.mp (present axis field)
    exact (each axis field value given).mpr (fits axis field value given)

/-- An adapter predicts from the report of a state what it predicts from the state, if the report can
express it. -/
theorem predict_carried {adapter : Adapter} (follows : adapter.Follows pad)
    (known : pad.reportFormat? = some format) {state : PadState}
    (present : ∀ axis, (adapter.source.axes.get axis).isSome → (state.axes.get axis).isSome)
    (fits : Fits format state) (expressible : Expressible pad format state) :
    adapter.predict (carried pad format state) = adapter.predict state := by
  refine Adapter.predict_congr (genericButtons_carried follows known state) fun axis has => ?_
  obtain ⟨value, given⟩ := Option.isSome_iff_exists.mp (present axis has)
  rw [get_carried, given]
  split
  · rename_i field
    rw [Option.some.injEq]
    simp only [axisValue, given, Option.getD_some]
    exact (carriedValue_eq_iff format value).mpr (fits axis field value given)
  · rename_i outside
    exact expressible axis outside value given

theorem field_present (known : pad.reportFormat? = some format) {axis : Axis}
    (field : axis ∈ axes format) : (pad.axes.get axis).isSome := by
  revert field
  refine cases_of_format
    (motive := fun pad format => axis ∈ axes format → (pad.axes.get axis).isSome)
    known ?_ ?_ ?_ ?_ <;> cases axis <;> decide

/-- A state of the pad that a report can tell: the axes with a field are within it and the others at rest,
and no button lies past the button field. -/
structure IsTold (pad : WirelessPad) (format : ReportFormat) (state : PadState) : Prop where
  present : ∀ axis, (state.axes.get axis).isSome = (pad.axes.get axis).isSome
  fits : Fits format state
  rest : ∀ axis, axis ∉ axes format → state.axes.get axis = (pad.axes.get axis).map Calibration.neutral
  narrow : state.buttons.toNat ≤ greatestWord format

theorem IsTold.expressible {state : PadState} (told : IsTold pad format state) :
    Expressible pad format state := by
  intro axis outside value given
  rw [← told.rest axis outside, given]

theorem axes_carried (known : pad.reportFormat? = some format) {state : PadState}
    (told : IsTold pad format state) : (carried pad format state).axes = state.axes := by
  have held := (carried_eq_iff_fits pad fun axis field => by
    rw [told.present]
    exact field_present known field).mpr told.fits
  apply PerAxis.ext_get
  intro axis
  by_cases field : axis ∈ axes format
  · exact held axis field
  · rw [get_carried, if_neg field, told.rest axis field]

/-- Neither by their reports nor by what an adapter predicts can two states be told apart. -/
def Alike (adapter : Adapter) (pad : WirelessPad) (a b : PadState) : Prop :=
  encode? pad a = encode? pad b ∧ adapter.predict a = adapter.predict b

/-- Of the hat only the nibble counts that a report has. -/
theorem alike_of_nibble {adapter : Adapter} (follows : adapter.Follows pad)
    (known : pad.reportFormat? = some format) (state : PadState) {hat hat' : Option UInt8}
    (same : hatNibble format { state with hat } = hatNibble format { state with hat := hat' }) :
    Alike adapter pad { state with hat } { state with hat := hat' } := by
  constructor
  · simp only [encode?, known, Option.bind_eq_bind, Option.bind_some, same]
    rfl
  · have carriedHat_eq : (carried pad format { state with hat }).hat =
        (carried pad format { state with hat := hat' }).hat := by
      simp only [carried, carriedHat, same]
    have bits : adapter.hatBits { state with hat } = adapter.hatBits { state with hat := hat' } := by
      rw [← hatBits_carried follows known, ← hatBits_carried follows known { state with hat := hat' },
        Adapter.hatBits, Adapter.hatBits, carriedHat_eq]
    refine Adapter.predict_congr ?_ fun _ _ => rfl
    rw [Adapter.genericButtons, Adapter.genericButtons, bits]

/-- A state that a report can tell has one, which stands for a state that an adapter makes the same of. So a
missing hat is a released one, and of any hat code only the low nibble counts. -/
theorem predict_of_report (known : pad.reportFormat? = some format) {adapter : Adapter}
    (follows : adapter.Follows pad) {state : PadState} (told : IsTold pad format state) :
    (∃ report recovered, encode? pad state = some report ∧ recover? pad report = some recovered ∧
      recovered.axes = state.axes ∧ adapter.predict recovered = adapter.predict state) ∧
    Alike adapter pad { state with hat := none } (state.withHat (releasedHat format)) ∧
    ∀ code, Alike adapter pad (state.withHat code) (state.withHat (code &&& 0xF)) := by
  refine ⟨?_, ?_, ?_⟩
  · cases sent : encode? pad state with
    | none =>
      obtain ⟨rfl, refused⟩ := (encode?_eq_none known state).mp sent
      rw [(isExpressible_iff pad .generic state).mpr told.expressible] at refused
      cases refused
    | some report =>
      refine ⟨report, carried pad format state, rfl, recover?_encode? known told.narrow sent,
        axes_carried known told, ?_⟩
      refine predict_carried follows known ?_ told.fits told.expressible
      intro axis has
      rw [told.present, ← follows.present]
      exact has
  · exact alike_of_nibble follows known state rfl
  · intro code
    refine alike_of_nibble follows known state ?_
    simp only [hatNibble, Option.getD_some, nibble_nibble]

/-- A hat code past the nibble, sent by a pad at rest. -/
theorem predict_of_report_high_hat : ∃ report recovered,
    encode? .ps5 ((PadState.neutral WirelessPad.ps5.axes).withHat 0x12) = some report ∧
    recover? .ps5 report = some recovered ∧
    ((Adapter.withDefaults WirelessPad.ps5.profile Console.gameCube.profile).predict recovered).generic =
      PadButton.ldRight.mask := by
  have told : IsTold .ps5 .playStation ((PadState.neutral WirelessPad.ps5.axes).withHat 0x12) := by
    refine ⟨fun axis => by cases axis <;> rfl, ?_, ?_, by decide⟩
    · intro axis _ value given
      cases axis <;> cases given <;> decide
    · intro axis outside
      exact absurd (Axis.mem_all axis) outside
  obtain ⟨⟨report, recovered, sent, read, _, same⟩, _⟩ := predict_of_report rfl
    (Adapter.withFraction_follows .ps5 Console.gameCube.profile Response.defaultFraction) told
  refine ⟨report, recovered, sent, read, ?_⟩
  rw [Adapter.withDefaults, same]
  decide

end Report

end PadBench
