import PadBench.Proofs.Adapter.Fraction
import PadBench.Proofs.Arith.Shares

/-!
The pull-back regime beside the full scale.

Short of the full travel both the travel and its deadzone shrink. The travel loses at least as much as its
deadzone does, although both are cut to whole numbers.

* `share_mono`, `share_sub_le`: the dead shares of two travels of one side;
* `pullBack?_eq_some_iff`: when there is a pull-back regime, and which;
* `pullBack_no_less`: it starts no later than the full scale, has no more travel left, and answers no magnitude
  with less.
-/
namespace PadBench.Response

/-- The deadzone of the pull-back travel. -/
def pullBackDead (travel fixed : Int) (fraction : BinaryFloat) : Int :=
  deadzone (pullBackTravel travel) fixed fraction

/-- A travel short enough for its percentage is pulled back by it. -/
theorem pullBackTravel_eq {travel : Int} (nonneg : 0 ≤ travel)
    (narrow : travel * pullBackPercent ≤ Signed32.greatest) : pullBackTravel travel = travel * 95 / 100 := by
  rw [pullBackPercent, Signed32.greatest] at narrow
  have exact : Signed32.wrap (travel * 95) = travel * 95 :=
    Signed32.wrap_of_mem (by rw [Signed32.least]; omega) (by rw [Signed32.greatest]; omega)
  rw [pullBackTravel, pullBackPercent, exact, Int.tdiv_eq_ediv_of_nonneg (by omega)]

theorem pullBackTravel_bounds {travel : Int} (nonneg : 0 ≤ travel)
    (narrow : travel * pullBackPercent ≤ Signed32.greatest) :
    0 ≤ pullBackTravel travel ∧ pullBackTravel travel ≤ travel := by
  rw [pullBackTravel_eq nonneg narrow]
  omega

/-- At least a twentieth of the travel is pulled back. -/
theorem pullBackTravel_close {travel : Int} (positive : 0 < travel)
    (narrow : travel * pullBackPercent ≤ Signed32.greatest) :
    pullBackTravel travel < travel ∧ travel ≤ 20 * (travel - pullBackTravel travel) := by
  rw [pullBackTravel_eq positive.le narrow]
  omega

/-- The two differences that a regime takes are within the range of its numbers. -/
structure IsExact (dead travel magnitude : Int) : Prop where
  span : Signed32.wrap (travel - dead) = travel - dead
  past : Signed32.wrap (magnitude - dead) = magnitude - dead

/-- The regime is the scaling of what lies past its deadzone. -/
theorem Regime.apply_onto {dead travel magnitude : Int} (exact : IsExact dead travel magnitude) (target : Int) :
    (Regime.onto dead travel target).apply magnitude =
      BinaryFloat.scaled (magnitude - dead) target (travel - dead) := by
  rw [Regime.apply, Regime.onto, exact.span, exact.past]
  rfl

/-- Differences of numbers that are not negative are within the range. -/
theorem isExact_of_nonneg {dead travel magnitude : Int} (dead_nonneg : 0 ≤ dead)
    (travels : 0 ≤ travel ∧ travel ≤ Signed32.greatest)
    (sizes : 0 ≤ magnitude ∧ magnitude ≤ Signed32.greatest) (small : dead ≤ Signed32.greatest) :
    IsExact dead travel magnitude := by
  simp only [Signed32.greatest] at travels sizes small
  constructor <;> exact Signed32.wrap_of_mem (by rw [Signed32.least]; omega) (by rw [Signed32.greatest]; omega)

variable {travel target fixed magnitude : Int} {fraction : BinaryFloat}

theorem pullBack?_eq_some_iff {short : Regime} :
    pullBack? travel target fixed fraction = some short ↔
      pullBackDead travel fixed fraction < pullBackTravel travel ∧
        short = .onto (pullBackDead travel fixed fraction) (pullBackTravel travel) target := by
  unfold pullBack? pullBackDead
  dsimp only
  split
  · rename_i still
    exact iff_of_false nofun fun ⟨moves, _⟩ => absurd still (not_le.mpr moves)
  · rename_i moves
    rw [Option.some.injEq, eq_comm]
    exact (and_iff_right (not_le.mp moves)).symm

/-- A travel that a regime carries onto the target, and the deadzone it starts at. -/
structure Span where
  dead : Int
  travel : Int

/-- Short of the full travel the pull-back travel counts, if it is more than its deadzone. -/
def span (magnitude travel fixed : Int) (fraction : BinaryFloat) : Span :=
  if travel ≤ magnitude ∨ pullBackTravel travel ≤ pullBackDead travel fixed fraction then
    ⟨deadzone travel fixed fraction, travel⟩
  else ⟨pullBackDead travel fixed fraction, pullBackTravel travel⟩

theorem span_of_full (full : travel ≤ magnitude) :
    span magnitude travel fixed fraction = ⟨deadzone travel fixed fraction, travel⟩ :=
  if_pos (.inl full)

theorem span_of_short (short : magnitude < travel)
    (moves : pullBackDead travel fixed fraction < pullBackTravel travel) :
    span magnitude travel fixed fraction = ⟨pullBackDead travel fixed fraction, pullBackTravel travel⟩ :=
  if_neg (by omega)

theorem regime_eq_onto (magnitude travel target fixed : Int) (fraction : BinaryFloat) :
    regime magnitude travel target fixed fraction =
      .onto (span magnitude travel fixed fraction).dead (span magnitude travel fixed fraction).travel target := by
  by_cases full : travel ≤ magnitude
  · rw [span_of_full full]
    exact if_pos full
  · rw [regime, if_neg full]
    by_cases moves : pullBackDead travel fixed fraction < pullBackTravel travel
    · rw [span_of_short (not_le.mp full) moves, pullBack?_eq_some_iff.mpr ⟨moves, rfl⟩, Option.getD_some]
    · have none : pullBack? travel target fixed fraction = none := if_pos (not_lt.mp moves)
      rw [none, span, if_pos (.inr (not_lt.mp moves)), Option.getD_none]

/-- The span has a length, and the differences taken of it and of a magnitude are within the range. -/
structure Span.Carries (span : Span) (magnitude : Int) : Prop where
  moves : span.dead < span.travel
  exact : IsExact span.dead span.travel magnitude

/-- What a regime makes of a magnitude, where its span carries it. -/
theorem apply_regime (carries : (span magnitude travel fixed fraction).Carries magnitude) (target : Int) :
    (regime magnitude travel target fixed fraction).apply magnitude =
      BinaryFloat.scaled (magnitude - (span magnitude travel fixed fraction).dead) target
        ((span magnitude travel fixed fraction).travel - (span magnitude travel fixed fraction).dead) := by
  rw [regime_eq_onto, Regime.apply_onto carries.exact]

theorem share_mono (half : fraction.IsHalfShare) {shorter : Int} (nonneg : 0 ≤ shorter) (le : shorter ≤ travel) :
    share shorter fraction ≤ share travel fraction :=
  BinaryFloat.truncate_share_mono half nonneg le

theorem share_zero (fraction : BinaryFloat) : share 0 fraction = 0 := by
  have zero : BinaryFloat.ofInt .single 0 = .finite false 0 (-149) := by decide
  rw [share, zero, BinaryFloat.mul_symm, BinaryFloat.truncate_zero_mul]

theorem share_nonneg (half : fraction.IsHalfShare) (nonneg : 0 ≤ travel) : 0 ≤ share travel fraction := by
  rw [← share_zero fraction]
  exact share_mono half (Int.le_refl 0) nonneg

/-- A travel that is not much shorter loses at least as much as its dead share does. -/
theorem share_sub_le (half : fraction.IsHalfShare) {shorter : Int} (nonneg : 0 ≤ shorter)
    (less : shorter < travel) (close : travel ≤ 20 * (travel - shorter)) (small : travel < 2 ^ 39) :
    shorter - share shorter fraction ≤ travel - share travel fraction := by
  obtain ⟨part, rfl⟩ := Int.eq_ofNat_of_zero_le nonneg
  obtain ⟨whole, rfl⟩ := Int.eq_ofNat_of_zero_le (nonneg.trans less.le)
  have less : part < whole := by omega
  have cut := BinaryFloat.truncate_share_le_add half less (by omega) (by omega)
  simp only [share]
  omega

/-- A pull-back regime has its deadzone within the full one and no more travel past it, and it answers whatever
lies past the full deadzone with at least what the full scale would answer. The deadzone is short of the travel
as a sum, before it is kept within the range. -/
theorem pullBack_no_less (admissible : Adapter.IsAdmissible fraction) (positive : 0 < travel)
    (narrow : travel * pullBackPercent ≤ Signed32.greatest) (fixed_nonneg : 0 ≤ fixed)
    (target_nonneg : 0 ≤ target) (live : share travel fraction + fixed < travel) {short : Regime}
    (pulled : pullBack? travel target fixed fraction = some short) :
    let dead := deadzone travel fixed fraction
    short.deadzone ≤ dead ∧
      0 < pullBackTravel travel - short.deadzone ∧ pullBackTravel travel - short.deadzone ≤ travel - dead ∧
      ∀ magnitude, dead < magnitude → magnitude ≤ Signed32.greatest →
        0 ≤ short.apply magnitude ∧ (Regime.onto dead travel target).apply magnitude ≤ short.apply magnitude := by
  intro dead
  obtain ⟨moves, rfl⟩ := pullBack?_eq_some_iff.mp pulled
  have half := Adapter.isHalfShare_of_admissible admissible
  obtain ⟨less, close⟩ := pullBackTravel_close positive narrow
  obtain ⟨shorter_nonneg, _⟩ := pullBackTravel_bounds positive.le narrow
  have small : travel < 2 ^ 31 := by
    simp only [pullBackPercent, Signed32.greatest] at narrow
    omega
  have shares := share_mono half shorter_nonneg less.le
  have share_low := share_nonneg half shorter_nonneg
  have shares_sub := share_sub_le half shorter_nonneg less close (by omega)
  -- Both deadzones are sums of parts that are not negative, and short of the travel.
  have whole : dead = share travel fraction + fixed :=
    deadzone_eq (by rw [Signed32.least]; omega) (by rw [Signed32.greatest]; omega)
  have part : pullBackDead travel fixed fraction = share (pullBackTravel travel) fraction + fixed :=
    deadzone_eq (by rw [Signed32.least]; omega) (by rw [Signed32.greatest]; omega)
  have earlier : pullBackDead travel fixed fraction ≤ dead := by omega
  have left : pullBackTravel travel - pullBackDead travel fixed fraction ≤ travel - dead := by omega
  refine ⟨earlier, Int.sub_pos_of_lt moves, left, ?_⟩
  intro magnitude past small_magnitude
  have sizes : 0 ≤ magnitude ∧ magnitude ≤ Signed32.greatest := ⟨by omega, small_magnitude⟩
  have travels (ends : Int) (low : 0 ≤ ends) (high : ends ≤ travel) : 0 ≤ ends ∧ ends ≤ Signed32.greatest :=
    ⟨low, by rw [Signed32.greatest]; omega⟩
  rw [Regime.apply_onto (isExact_of_nonneg (by omega) (travels _ shorter_nonneg less.le) sizes
      (travels _ (by omega) (by omega)).2),
    Regime.apply_onto (isExact_of_nonneg (by omega) (travels _ positive.le (Int.le_refl _)) sizes
      (travels _ (by omega) (by omega)).2)]
  obtain ⟨span, hspan⟩ := Int.eq_ofNat_of_zero_le (by omega : 0 ≤ travel - dead)
  obtain ⟨span', hspan'⟩ := Int.eq_ofNat_of_zero_le (Int.sub_nonneg_of_le moves.le)
  constructor
  · exact BinaryFloat.scaled_nonneg (by omega) target_nonneg (by omega)
  · rw [hspan, hspan']
    exact BinaryFloat.scaled_le_scaled (by omega) (by omega) target_nonneg (by omega) (by omega) (by omega)

/-- The longest travel whose percentage is still in the range of its numbers: it is longer than single precision
can hold, and so is rounded before it is scaled. -/
theorem pullBack_no_less_longest :
    let dead := deadzone 22605091 5 defaultFraction
    ∃ short, pullBack? 22605091 0x64 5 defaultFraction = some short ∧ short.deadzone ≤ dead ∧
      (Regime.onto dead 22605091 0x64).apply 22605090 ≤ short.apply 22605090 := by
  intro dead
  have pulled : pullBack? 22605091 0x64 5 defaultFraction =
      some (.onto (pullBackDead 22605091 5 defaultFraction) (pullBackTravel 22605091) 0x64) :=
    pullBack?_eq_some_iff.mpr ⟨by decide, rfl⟩
  obtain ⟨earlier, _, _, answers⟩ := pullBack_no_less (by decide) (by decide) (by decide) (by decide)
    (by decide) (by decide) pulled
  exact ⟨_, pulled, earlier, (answers 22605090 (by decide) (by decide)).2⟩

end PadBench.Response
