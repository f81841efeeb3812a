import PadBench.Proofs.Adapter.PullBack
import PadBench.Proofs.Pad.Polarity

/-!
A pad's axis at its full travel takes the console's axis to its own.

The factor of a regime is rounded and so is what it scales, so of the console's travel one unit may be missing.
A storage range has room for both travels and cuts nothing off.

* `Response.deflection_full`, `Response.deflection_short`: what is scaled at the full travel, and from the
  pull-back travel on;
* `Calibration.stored_reaches`: what of it is stored;
* `Console.sample_reaches_travel`: what a sample shows of it.
-/
namespace PadBench

/-- A storage range has room for the travel of each side. -/
theorem Calibration.stored_reaches {wired : Calibration} (sound : wired.fault? = none) {side size : Int}
    (unit : side = 1 ∨ side = -1) (nonneg : 0 ≤ size) :
    ((wired.stored (side * size)).natAbs : Int) ≤ size ∧
      min size (wired.travel side) ≤ (wired.stored (side * size)).natAbs := by
  unfold stored
  cases ranged : wired.range with
  | none =>
    dsimp only
    rcases unit with rfl | rfl <;> omega
  | some range =>
    obtain ⟨positive, negative, _, fits⟩ := fault?_eq_none_iff.mp sound
    obtain ⟨right, left⟩ := of_decide_eq_true (fits range ranged)
    have proper : range.least ≤ range.greatest := by omega
    simp only [StorageRange.clamp_eq proper]
    rcases unit with rfl | rfl
    · have travel : wired.travel 1 = wired.positiveTravel := rfl
      omega
    · have travel : wired.travel (-1) = wired.negativeTravel := rfl
      omega

namespace Response

section

variable {target magnitude : Int}

/-- What is left of a span past its start. -/
theorem Span.Carries.length {span : Span} (carries : span.Carries magnitude) :
    0 < span.travel - span.dead ∧ span.travel - span.dead ≤ Signed32.greatest := by
  have within := Signed32.wrap_le_greatest (span.travel - span.dead)
  rw [carries.exact.span] at within
  exact ⟨Int.sub_pos_of_lt carries.moves, within⟩

/-- From its end on, a span is scaled to the target or nearly so. -/
theorem Span.Carries.target_le {span : Span} (carries : span.Carries magnitude) (target_nonneg : 0 ≤ target)
    (target_narrow : target < 2 ^ 20) (reached : span.travel ≤ magnitude) :
    target - 1 ≤ BinaryFloat.scaled (magnitude - span.dead) target (span.travel - span.dead) := by
  obtain ⟨positive, within⟩ := carries.length
  rw [Signed32.greatest] at within
  obtain ⟨units, rfl⟩ := Int.eq_ofNat_of_zero_le target_nonneg
  obtain ⟨left, hleft⟩ := Int.eq_ofNat_of_zero_le positive.le
  rw [hleft]
  calc (units : Int) - 1 ≤ BinaryFloat.scaled left units left :=
        (BinaryFloat.scaled_self (by omega) (by omega) (by omega)).1
    _ ≤ BinaryFloat.scaled (magnitude - span.dead) units left :=
        BinaryFloat.scaled_le_scaled (Int.natCast_nonneg left) (by omega) (Int.natCast_nonneg units)
          (by omega) le_rfl (by omega)

/-- At its end a span is scaled to no more than the target. -/
theorem Span.Carries.le_target {span : Span} (carries : span.Carries magnitude) (target_nonneg : 0 ≤ target)
    (target_narrow : target < 2 ^ 20) :
    BinaryFloat.scaled (span.travel - span.dead) target (span.travel - span.dead) ≤ target := by
  obtain ⟨positive, within⟩ := carries.length
  rw [Signed32.greatest] at within
  obtain ⟨units, rfl⟩ := Int.eq_ofNat_of_zero_le target_nonneg
  obtain ⟨left, hleft⟩ := Int.eq_ofNat_of_zero_le positive.le
  rw [hleft]
  exact (BinaryFloat.scaled_self (by omega) (by omega) (by omega)).2

end

section

variable {travel target fixed magnitude : Int} {fraction : BinaryFloat} (target_nonneg : 0 ≤ target)
  (target_narrow : target < 2 ^ 20) (live : deadzone travel fixed fraction < travel)

include target_nonneg target_narrow live

theorem deflection_full (carries : (span travel travel fixed fraction).Carries travel) :
    target - 1 ≤ deflection travel target fixed fraction travel ∧
      deflection travel target fixed fraction travel ≤ target := by
  have whole : span travel travel fixed fraction = ⟨deadzone travel fixed fraction, travel⟩ := span_of_full le_rfl
  have reaches := carries.target_le target_nonneg target_narrow (by rw [whole])
  have within := carries.le_target target_nonneg target_narrow
  rw [deflection_of_live (by omega) carries]
  simp only [whole] at reaches within ⊢
  omega

theorem deflection_short (moves : pullBackDead travel fixed fraction < pullBackTravel travel)
    (past : deadzone travel fixed fraction < magnitude) (reached : pullBackTravel travel ≤ magnitude)
    (short : magnitude < travel) (carries : (span magnitude travel fixed fraction).Carries magnitude) :
    target - 1 ≤ deflection travel target fixed fraction magnitude := by
  have part := span_of_short short moves
  have reaches := carries.target_le target_nonneg target_narrow (by rw [part]; exact reached)
  rw [deflection_of_live (by omega) carries]
  exact reaches.trans (le_max_left _ _)

end

theorem deadzone_zero {fixed : Int} (fixes : 0 ≤ fixed ∧ fixed ≤ Signed32.greatest) (fraction : BinaryFloat) :
    deadzone 0 fixed fraction = fixed := by
  rw [deadzone, share_zero, Int.zero_add]
  exact Signed32.wrap_of_mem (by rw [Signed32.least]; omega) fixes.2

theorem magnitude_of_le {genericValue : Int} (small : (genericValue.natAbs : Int) ≤ Signed32.greatest) :
    magnitude genericValue = genericValue.natAbs :=
  Signed32.saturate_of_mem (by simp only [Signed32.least]; omega) small

section

variable {source wired : Calibration} {fraction : BinaryFloat} {genericValue : Int}

theorem moved_of_full (sound : source.fault? = none)
    (full : genericValue.natAbs = source.travel genericValue) : genericValue.sign ≠ 0 := by
  intro still
  obtain rfl := Int.sign_eq_zero_iff_zero.mp still
  have positive : 0 < source.travel 0 := (Calibration.travels_of_sound sound).1
  omega

/-- Where the pull-back travel is more than its deadzone, it is more than nothing. -/
theorem moved_of_short (sound : source.fault? = none)
    (small : source.travel genericValue ≤ Signed32.greatest)
    (narrow : source.travel genericValue * pullBackPercent ≤ Signed32.greatest)
    (moves : pullBackDead (source.travel genericValue) source.fixedDeadzone fraction <
      pullBackTravel (source.travel genericValue))
    (reached : pullBackTravel (source.travel genericValue) ≤ genericValue.natAbs) :
    genericValue.sign ≠ 0 := by
  intro still
  obtain rfl := Int.sign_eq_zero_iff_zero.mp still
  obtain ⟨pulled_nonneg, _⟩ := pullBackTravel_bounds (Calibration.travel_nonneg sound 0) narrow
  have nothing : pullBackTravel (source.travel 0) = 0 := by omega
  obtain ⟨_, _, ⟨fixed_nonneg, fixed_lt⟩, _⟩ := Calibration.fault?_eq_none_iff.mp sound
  have right : source.travel 0 = source.positiveTravel := rfl
  rw [pullBackDead, nothing, deadzone_zero ⟨fixed_nonneg, by omega⟩] at moves
  omega

/-- What a console's axis stores of a deflection, up to its travel. -/
theorem mapped_reaches (axis : Axis) (source : Calibration) (fraction : BinaryFloat)
    (sound : wired.fault? = none) (moved : genericValue.sign ≠ 0) :
    let target := wired.travel (axis.sign wired.inverted * genericValue.sign)
    let size := deflection (source.travel genericValue) target source.fixedDeadzone fraction
      (magnitude genericValue)
    ((mapped axis source wired fraction genericValue).natAbs : Int) ≤ size ∧
      min size target ≤ (mapped axis source wired fraction genericValue).natAbs := by
  intro target size
  rw [mapped_eq_stored axis source fraction sound, unbounded_eq]
  exact Calibration.stored_reaches sound (sign_mul_unit axis wired.inverted moved) (deflection_nonneg _)

end

end Response

namespace Console

/-- The axes of the consoles are sound, and their travels are those of a byte. -/
theorem axis_sound (console : Console) {axis : Axis} {wired : Calibration}
    (has : console.axes.get axis = some wired) : wired.fault? = none ∧ ∀ side, wired.travel side ≤ 255 := by
  unfold Calibration.travel
  cases console <;> cases axis <;> cases has <;>
    exact ⟨rfl, fun side => by split <;> decide⟩

/-- At its full travel a pad's axis takes the console's to its own but for one unit, and short of it from the
pull-back travel on, no less, if no sum or difference leaves the range on the way to the sample. -/
theorem sample_reaches_travel (console : Console) {axis : Axis} {wired source : Calibration}
    (has : console.axes.get axis = some wired) (sound : source.fault? = none) (fraction : BinaryFloat)
    (raw : Int) :
    let sample := Response.sample axis source wired fraction raw
    let travel := source.travel sample.generic
    let dead := Response.deadzone travel source.fixedDeadzone fraction
    let target := wired.travel (axis.sign wired.inverted * sample.generic.sign)
    (Response.sample? axis source wired fraction raw).isSome → travel ≤ Signed32.greatest → dead < travel →
      (sample.generic.natAbs = travel → sample.mapped.natAbs = target - 1 ∨ sample.mapped.natAbs = target) ∧
      (Response.pullBackDead travel source.fixedDeadzone fraction < Response.pullBackTravel travel →
        dead < sample.generic.natAbs → Response.pullBackTravel travel ≤ sample.generic.natAbs →
          sample.generic.natAbs < travel → target - 1 ≤ sample.mapped.natAbs) := by
  intro sample travel dead target checked small live
  have inRange : Response.IsInRange axis source wired fraction sample.generic :=
    Response.isInRange_of_isSome checked
  obtain ⟨stored, narrow⟩ := console.axis_sound has
  have target_nonneg : 0 ≤ target := Calibration.travel_nonneg stored _
  have target_narrow : target < 2 ^ 20 := (narrow _).trans_lt (by decide)
  have size (inside : sample.generic.natAbs ≤ travel) :
      Response.magnitude sample.generic = sample.generic.natAbs :=
    Response.magnitude_of_le (inside.trans small)
  have stores (moved : sample.generic.sign ≠ 0) (inside : sample.generic.natAbs ≤ travel) :
      let deflection := Response.deflection travel target source.fixedDeadzone fraction sample.generic.natAbs
      sample.mapped.natAbs ≤ deflection ∧ min deflection target ≤ sample.mapped.natAbs := by
    rw [← size inside]
    exact Response.mapped_reaches axis source fraction stored moved
  have alive (past : dead < sample.generic.natAbs) (inside : sample.generic.natAbs ≤ travel) :
      Response.isDead source fraction sample.generic = false := by
    have apart : ¬ (Response.magnitude sample.generic ≤ dead ∨ travel ≤ dead) := by
      rw [size inside]
      omega
    exact decide_eq_false apart
  have carries (past : dead < sample.generic.natAbs) (inside : sample.generic.natAbs ≤ travel) :
      (Response.span sample.generic.natAbs travel source.fixedDeadzone fraction).Carries
        sample.generic.natAbs := by
    rw [← size inside]
    exact inRange.carries (alive past inside)
  constructor
  · intro full
    obtain ⟨most, least⟩ := stores (Response.moved_of_full sound full) full.le
    have carries := carries (by omega) full.le
    rw [full] at carries most least
    obtain ⟨reaches, within⟩ := Response.deflection_full target_nonneg target_narrow live carries
    omega
  · intro moves past reached short
    have narrow := inRange.narrow (alive past short.le) (by rw [size short.le]; exact short)
    obtain ⟨_, least⟩ := stores (Response.moved_of_short sound small narrow moves reached) short.le
    have reaches := Response.deflection_short target_nonneg target_narrow live moves past reached short
      (carries past short.le)
    omega

/-- A vertical stick pulled all the way down, and then let back to the pull-back travel. -/
theorem sample_reaches_travel_down :
    let down := Response.sample .ly Wireless.Axes.byteStickVertical Wired.Axes.nintendo64Stick
      Response.defaultFraction 0xFF
    let back := Response.sample .ly Wireless.Axes.byteStickVertical Wired.Axes.nintendo64Stick
      Response.defaultFraction 0xF8
    down.generic = -127 ∧ (down.mapped.natAbs = (0x54 - 1 : Int) ∨ down.mapped.natAbs = (0x54 : Int)) ∧
      back.generic = -120 ∧ (0x54 - 1 : Int) ≤ back.mapped.natAbs := by
  intro down back
  have has : nintendo64.axes.get .ly = some Wired.Axes.nintendo64Stick := rfl
  have sound : Wireless.Axes.byteStickVertical.fault? = none := by decide
  obtain ⟨full, _⟩ := nintendo64.sample_reaches_travel has sound Response.defaultFraction 0xFF (by decide)
    (by decide) (by decide)
  obtain ⟨_, short⟩ := nintendo64.sample_reaches_travel has sound Response.defaultFraction 0xF8 (by decide)
    (by decide) (by decide)
  exact ⟨by decide, full (by decide), by decide,
    short (by decide) (by decide) (by decide) (by decide)⟩

end Console

end PadBench
