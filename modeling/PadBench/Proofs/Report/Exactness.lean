import PadBench.Proofs.Adapter.Fraction
import PadBench.Proofs.Adapter.Inputs
import PadBench.Proofs.Report.Fidelity

/-!
Which scenarios survive their own report.

A scenario is lost if its report says something else of an axis than its input does, or if an adapter
predicts something else from the report.

* The byte formats hold every value a scenario of theirs has.
* The 12-bit fields of a Switch report hold the nominal values. A calibration may rest as far from the
  nominal neutral as its own travel allows, so live values can lie outside; these are sent saturated,
  and such a scenario is lost.
-/
namespace PadBench.Report

variable {pad : WirelessPad} {format : ReportFormat} {adapter : Adapter}

/-- Read by its layout, the report says of every axis with a field and of every button what the input of
the scenario says, and the adapter predicts from it what the scenario expects. -/
def Lossless (adapter : Adapter) (pad : WirelessPad) (format : ReportFormat) (scenario : Scenario)
    (report : List UInt8) : Prop :=
  ∃ state, recover? pad report = some state ∧
    (∀ axis ∈ axes format, state.axes.get axis = scenario.input.axes.get axis) ∧
    state.buttons &&& pad.buttons.union = scenario.input.buttons &&& pad.buttons.union ∧
    adapter.predict state = scenario.expected

theorem union_narrow (known : pad.reportFormat? = some format) :
    pad.buttons.union.toNat ≤ greatestWord format := by
  refine cases_of_format (motive := fun pad format => pad.buttons.union.toNat ≤ greatestWord format)
    known ?_ ?_ ?_ ?_ <;> decide

theorem entry_narrow (known : pad.reportFormat? = some format) (button : PadButton) :
    (pad.buttons.entry button).toNat ≤ greatestWord format := by
  refine cases_of_format
    (motive := fun pad format => (pad.buttons.entry button).toNat ≤ greatestWord format)
    known ?_ ?_ ?_ ?_ <;> cases button <;> decide

/-- The words of the scenarios fit the button field. -/
theorem tries_narrow (follows : adapter.Follows pad) (known : pad.reportFormat? = some format)
    {state : PadState} (tried : adapter.Tries state) : state.buttons.toNat ≤ greatestWord format := by
  cases tried with
  | rest | none | hat | axis => exact Nat.zero_le _
  | entry button =>
    have narrow := entry_narrow known button
    rw [← follows.buttons] at narrow
    exact narrow
  | union =>
    have narrow := union_narrow known
    rw [← follows.buttons] at narrow
    exact narrow

/-- Only the generic pad has axes that its report does not tell. -/
theorem absent_of_outside (known : pad.reportFormat? = some format) (other : format ≠ .generic)
    {axis : Axis} (outside : axis ∉ axes format) : (pad.axes.get axis).isSome = false := by
  revert other outside
  refine cases_of_format (motive := fun pad format => format ≠ .generic → axis ∉ axes format →
    (pad.axes.get axis).isSome = false) known ?_ ?_ ?_ ?_ <;> cases axis <;> decide

theorem tries_expressible (follows : adapter.Follows pad) (known : pad.reportFormat? = some format)
    {state : PadState} (tried : adapter.Tries state) {report : List UInt8}
    (sent : encode? pad state = some report) : Expressible pad format state := by
  by_cases other : format = .generic
  · subst other
    rw [encode?_generic known] at sent
    split at sent
    · rename_i expressible
      exact (isExpressible_iff pad .generic state).mp expressible
    · cases sent
  · intro axis outside value given
    have absent := absent_of_outside known other outside
    rw [← follows.present, ← Adapter.tries_present tried, given] at absent
    cases absent

/-- A scenario survives its report exactly if the axis fields can hold its values. -/
theorem lossless_iff_fits (follows : adapter.Follows pad) (known : pad.reportFormat? = some format)
    {scenario : Scenario} (member : scenario ∈ adapter.scenarios) {report : List UInt8}
    (sent : encode? pad scenario.input = some report) :
    Lossless adapter pad format scenario report ↔ Fits format scenario.input := by
  obtain ⟨tried, expected⟩ := Adapter.tries_of_mem member
  have recovered := recover?_encode? known (tries_narrow follows known tried) sent
  have present : ∀ axis, (adapter.source.axes.get axis).isSome →
      (scenario.input.axes.get axis).isSome := fun axis has => by
    rw [Adapter.tries_present tried, has]
  have fieldPresent : ∀ axis ∈ axes format, (scenario.input.axes.get axis).isSome :=
    fun axis field => present axis (by rw [follows.present]; exact field_present known field)
  have same := carried_eq_iff_fits pad fieldPresent
  constructor
  · rintro ⟨state, found, axesSame, _⟩
    rw [recovered, Option.some.injEq] at found
    subst found
    exact same.mp axesSame
  · intro fits
    refine ⟨_, recovered, same.mpr fits, buttons_carried known scenario.input, ?_⟩
    rw [expected]
    exact predict_carried follows known present fits (tries_expressible follows known tried sent)

/-- A raw axis of one byte, resting so that both sides of its travel stay within the byte. -/
structure InByte (source : Calibration) : Prop where
  positive : 0 ≤ source.positiveTravel ∧ source.positiveTravel ≤ 255
  negative : 0 ≤ source.negativeTravel ∧ source.negativeTravel ≤ 255
  deadzone : source.fixedDeadzone = 0
  neutral : 0 ≤ source.neutral ∧ source.neutral ≤ 255
  sides : if source.inverted
    then 0 ≤ source.neutral - source.positiveTravel ∧ source.neutral + source.negativeTravel ≤ 255
    else 0 ≤ source.neutral - source.negativeTravel ∧ source.neutral + source.positiveTravel ≤ 255

theorem inByte_of_axis (known : pad.reportFormat? = some format) (narrow : format ≠ .switchFull)
    {axis : Axis} {source : Calibration} (has : pad.axes.get axis = some source) : InByte source := by
  have stick : InByte Wireless.Axes.byteStick :=
    ⟨by decide, by decide, rfl, by decide, by decide⟩
  have vertical : InByte Wireless.Axes.byteStickVertical :=
    ⟨by decide, by decide, rfl, by decide, by decide⟩
  have trigger : InByte Wireless.Axes.byteTrigger :=
    ⟨by decide, by decide, rfl, by decide, by decide⟩
  revert narrow has
  refine cases_of_format (motive := fun pad format => format ≠ .switchFull →
    pad.axes.get axis = some source → InByte source) known ?_ ?_ ?_ ?_ <;> intro narrow has
  case refine_3 => exact absurd rfl narrow
  all_goals
    cases axis <;> cases has <;> assumption

/-- Within its travel such an axis stays within its byte. -/
theorem displaced_inByte {source : Calibration} (inByte : InByte source) (axis : Axis)
    (direction : Direction) {magnitude : Int}
    (within : 0 ≤ magnitude ∧ magnitude ≤ source.travel direction.sign) :
    0 ≤ Adapter.rawValue axis source direction magnitude ∧
      Adapter.rawValue axis source direction magnitude ≤ 255 := by
  obtain ⟨_, _, _, neutral, sides⟩ := inByte
  have inside : 0 ≤ source.neutral + axis.sign source.inverted * direction.sign * magnitude ∧
      source.neutral + axis.sign source.inverted * direction.sign * magnitude ≤ 255 := by
    rw [Axis.sign_eq]
    cases direction <;> simp only [Direction.sign, Calibration.travel] at within ⊢ <;>
      split at sides <;> rename_i polarity <;> simp only [polarity] <;> simp at within ⊢ <;> omega
  rw [Adapter.rawValue, Signed32.wrap_of_mem (by rw [Signed32.least]; omega) (by rw [Signed32.greatest]; omega)]
  exact inside

/-- Such an axis has a deadzone within its travel. -/
theorem deadzone_inByte {source : Calibration} (inByte : InByte source) {fraction : BinaryFloat}
    (isShare : fraction.IsShare) {travel : Int} (bounds : 0 ≤ travel ∧ travel ≤ 255) :
    0 ≤ Response.deadzone travel source.fixedDeadzone fraction ∧
      Response.deadzone travel source.fixedDeadzone fraction ≤ travel := by
  have part := Response.share_le isShare bounds.1 (by omega)
  rw [inByte.deadzone, Response.deadzone_eq (by rw [Signed32.least]; omega) (by rw [Signed32.greatest]; omega)]
  omega

/-- The byte formats hold every scenario. -/
theorem tries_fits (follows : adapter.Follows pad) (known : pad.reportFormat? = some format)
    (narrow : format ≠ .switchFull) (share : adapter.fraction.IsShare) {state : PadState}
    (tried : adapter.Tries state) : Fits format state := by
  have axesEq : adapter.source.axes = pad.axes := by
    apply follows.fixed
    revert narrow
    refine cases_of_format (motive := fun pad format => format ≠ .switchFull → pad.calibration = none)
      known ?_ ?_ ?_ ?_ <;> decide
  have byte : greatestAxis format = 255 := by
    cases format <;> first | rfl | exact absurd rfl narrow
  have rest : ∀ axis value, adapter.restState.axes.get axis = some value → 0 ≤ value ∧ value ≤ 255 := by
    intro axis value given
    simp only [Adapter.restState, PadState.neutral, PerAxis.get_map, axesEq, Option.map_eq_some_iff] at given
    obtain ⟨source, has, rfl⟩ := given
    exact (inByte_of_axis known narrow has).neutral
  intro axis _ value given
  rw [byte]
  cases tried with
  | rest | none | entry | union | hat => exact rest axis value given
  | axis which source wired direction boundary magnitude sourceAxis wiredAxis boundaryTried =>
    simp only [Adapter.displaced, PadState.withAxis, PerAxis.get_set] at given
    split at given
    · cases given
      rw [axesEq] at sourceAxis
      have inByte := inByte_of_axis known narrow sourceAxis
      have travel : 0 ≤ source.travel direction.sign ∧ source.travel direction.sign ≤ 255 := by
        have positive := inByte.positive
        have negative := inByte.negative
        simp only [Calibration.travel]
        split <;> omega
      have dead := deadzone_inByte inByte share travel
      exact displaced_inByte inByte which direction
        (Adapter.magnitude_le_travel boundaryTried (by omega) dead)
    · exact rest axis value given

/-- The scenarios without a report are those that displace an axis without a field. -/
theorem encode?_eq_none_iff (follows : adapter.Follows pad) (known : pad.reportFormat? = some format)
    {state : PadState} (tried : adapter.Tries state) :
    encode? pad state = none ↔ ¬ Expressible pad format state := by
  constructor
  · intro unsent expressible
    obtain ⟨rfl, refused⟩ := (encode?_eq_none known state).mp unsent
    rw [(isExpressible_iff pad .generic state).mpr expressible] at refused
    cases refused
  · intro inexpressible
    cases sent : encode? pad state with
    | none => rfl
    | some report => exact absurd (tries_expressible follows known tried sent) inexpressible

/-- Under every calibration that is accepted, a scenario that is sent survives its report exactly if the
axis fields can hold its values, and each field says of its axis the nearest value that it can hold. Only the
12-bit fields can fail to hold one, and only a displaced axis without a field keeps a scenario from being sent. -/
theorem survives_report_iff_fits (known : pad.reportFormat? = some format) (console : Console)
    (fraction : BinaryFloat) (reports : List CalibrationReport)
    (accepted : reports.foldlM Adapter.calibrate
      (.withFraction pad.profile console.profile fraction) = .ok adapter)
    {scenario : Scenario} (member : scenario ∈ adapter.scenarios) :
    (∀ report, encode? pad scenario.input = some report →
      (Lossless adapter pad format scenario report ↔ Fits format scenario.input) ∧
      ∃ state, recover? pad report = some state ∧
        ∀ axis ∈ axes format, ∀ value, scenario.input.axes.get axis = some value →
          state.axes.get axis = some (min (max value 0) (greatestAxis format))) ∧
    (format ≠ .switchFull → Fits format scenario.input) ∧
    (encode? pad scenario.input = none ↔ ¬ Expressible pad format scenario.input) := by
  have follows := Adapter.reached_follows accepted
  have share : adapter.fraction.IsShare := by
    refine Adapter.foldlM_calibrate (fun adapter => adapter.fraction.IsShare) ?_
      (Adapter.withFraction_isShare pad.profile console.profile fraction) accepted
    intro before after report kept step
    rw [Adapter.calibrate_fraction step]
    exact kept
  obtain ⟨tried, _⟩ := Adapter.tries_of_mem member
  refine ⟨?_, ?_, ?_⟩
  · intro report sent
    refine ⟨lossless_iff_fits follows known member sent, _,
      recover?_encode? known (tries_narrow follows known tried) sent, ?_⟩
    intro axis field value given
    rw [get_carried, if_pos field, axisValue, given]
    rfl
  · intro narrow
    exact tries_fits follows known narrow share tried
  · exact encode?_eq_none_iff follows known tried

/-- A left stick that rests at the given horizontal value and travels as far to either side. -/
def reportedStick (neutral travel : Int32) : CalibrationReport :=
  ⟨[neutral], [travel], [travel], [0]⟩

/-- A Switch pad on a GameCube, after its left stick has reported that. -/
def reportedAdapter (neutral travel : Int32) : Adapter :=
  let adapter := Adapter.withFraction WirelessPad.switchPro.profile Console.gameCube.profile
    Response.defaultFraction
  let stick := Calibration.symmetric neutral.toInt travel.toInt
  { adapter with source := { adapter.source with axes := adapter.source.axes.set .lx (some stick) } }

/-- The scenario that takes the stick all the way to the right. -/
def reportedExtreme (neutral travel : Int32) : Scenario :=
  (reportedAdapter neutral travel).scenario (Adapter.axisName .lx .positive .extreme) .axis
    ((reportedAdapter neutral travel).displaced .lx (.symmetric neutral.toInt travel.toInt) .positive
      travel.toInt)

theorem reportedExtreme_mem {neutral travel : Int32} (travels : 0 < travel.toInt) :
    reportedExtreme neutral travel ∈ (reportedAdapter neutral travel).scenarios :=
  Adapter.mem_scenarios_of_displaced .lx .positive rfl rfl (Adapter.extreme_mem_boundaries travels)

/-- A stick that the 12-bit fields hold at its full travel. -/
theorem survives_report_iff_fits_centered : ∃ adapter scenario report,
    [reportedStick 2048 1500].foldlM Adapter.calibrate (.withFraction WirelessPad.switchPro.profile
      Console.gameCube.profile Response.defaultFraction) = .ok adapter ∧
    scenario ∈ adapter.scenarios ∧ scenario.input.axes.lx = some 3548 ∧
    encode? .switchPro scenario.input = some report ∧
    Lossless adapter .switchPro .switchFull scenario report := by
  have known : WirelessPad.switchPro.reportFormat? = some .switchFull := rfl
  have accepted : [reportedStick 2048 1500].foldlM Adapter.calibrate (.withFraction
      WirelessPad.switchPro.profile Console.gameCube.profile Response.defaultFraction) =
    .ok (reportedAdapter 2048 1500) := rfl
  have member : reportedExtreme 2048 1500 ∈ (reportedAdapter 2048 1500).scenarios :=
    reportedExtreme_mem (by decide)
  obtain ⟨sent, _⟩ := survives_report_iff_fits known .gameCube Response.defaultFraction
    [reportedStick 2048 1500] accepted member
  have moved : (reportedExtreme 2048 1500).input.axes.lx = some 3548 := by decide
  refine ⟨_, _, _, accepted, member, moved, rfl, (sent _ rfl).1.mpr ?_⟩
  intro axis field value given
  cases axis with
  | lx =>
    cases moved.symm.trans given
    decide
  | ly | rx | ry | lm | rm => cases given <;> decide

/-- A stick off its center that is at the limit of its field before it is at its full travel. -/
theorem saturated_scenario_is_lost : ∃ adapter scenario report,
    [reportedStick 3000 2000].foldlM Adapter.calibrate (.withFraction WirelessPad.switchPro.profile
      Console.gameCube.profile Response.defaultFraction) = .ok adapter ∧
    scenario ∈ adapter.scenarios ∧ scenario.input.axes.lx = some 5000 ∧
    encode? .switchPro scenario.input = some report ∧
    ¬ Lossless adapter .switchPro .switchFull scenario report := by
  refine ⟨reportedAdapter 3000 2000, reportedExtreme 3000 2000, _, rfl, reportedExtreme_mem (by decide),
    by decide, rfl, ?_⟩
  rintro ⟨state, recovered, same, _⟩
  have value := same .lx (by decide)
  cases recovered
  revert value
  decide

end PadBench.Report
