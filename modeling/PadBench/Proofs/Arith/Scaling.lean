import PadBench.Proofs.Arith.Sign
import PadBench.Proofs.Arith.Values

/-!
Scaling a whole number in single precision, cut to a whole number.

* `scaled_near`: the value that is cut is the exact quotient but for a small error;
* `scaled_self`: the whole span is scaled to the target, or to one less;
* `le_scaled_iff`: which whole numbers the result reaches. The error matters only where the exact quotient
  is a whole number itself.
-/
namespace PadBench.BinaryFloat

/-- `count` in units of which `span` make `target`. -/
def scaled (count target span : Int) : Int :=
  (mul .single (ofInt .single count) (div .single (ofInt .single target) (ofInt .single span))).truncate

/-- The exact quotient `count · target / span` reaches `goal`. Where it is `goal`, rounding decides, and only
`goal` and `count` matter: whether `count` shares of `goal / count` are found to make `goal`. -/
def Reaches (goal count target span : Int) : Prop :=
  goal * span < count * target ∨ (goal * span = count * target ∧ goal ≤ scaled count goal count)

instance (goal count target span : Int) : Decidable (Reaches goal count target span) :=
  inferInstanceAs (Decidable (_ ∨ (_ ∧ _)))

/-- The error of a product with a rounded factor. -/
theorem two_roundings {quotient factor product count : ℚ} (count_nonneg : 0 ≤ count)
    (count_high : count < 2 ^ 40) (nonneg : 0 ≤ quotient)
    (first : |factor - quotient| ≤ quotient / 2 ^ 24 + 1 / 2 ^ 100)
    (second : |product - count * factor| ≤ count * factor / 2 ^ 24 + 1 / 2 ^ 100) :
    |product - count * quotient| ≤ count * quotient * 3 / 2 ^ 24 + 1 / 2 ^ 50 := by
  obtain ⟨low, high⟩ := abs_le.mp first
  obtain ⟨low', high'⟩ := abs_le.mp second
  have above : count * factor ≤ count * (quotient + (quotient / 2 ^ 24 + 1 / 2 ^ 100)) := by
    gcongr
    linarith
  have below : count * (quotient - (quotient / 2 ^ 24 + 1 / 2 ^ 100)) ≤ count * factor := by
    gcongr
    linarith
  have exact_nonneg : 0 ≤ count * quotient := by positivity
  rw [abs_le]
  constructor <;> linarith

/-- What a scaled value reaches is what a value near the exact quotient reaches. -/
theorem scaled_near {count target span : Int} {c t s : ℚ} (hc : (ofInt .single count).HasValue c)
    (ht : (ofInt .single target).HasValue t) (hs : (ofInt .single span).HasValue s) (s_pos : 0 < s)
    (c_high : c < 2 ^ 40) (quotient_high : t / s < 2 ^ 40) :
    ∃ value : ℚ, |value - c * (t / s)| ≤ c * (t / s) * 3 / 2 ^ 24 + 1 / 2 ^ 50 ∧
      ∀ goal : Nat, (goal : Int) ≤ Signed32.greatest →
        ((goal : Int) ≤ scaled count target span ↔ (goal : ℚ) ≤ value) := by
  have quotient_nonneg : 0 ≤ t / s := div_nonneg ht.nonneg s_pos.le
  obtain ⟨factor, hfactor, factor_near⟩ :=
    (rounds_div ht hs s_pos).error (quotient_high.trans (by norm_num))
  have factor_high : factor < 2 ^ 41 := by
    obtain ⟨_, high⟩ := abs_le.mp factor_near
    linarith
  have product_high : c * factor < 2 ^ 100 := by
    calc c * factor ≤ 2 ^ 40 * 2 ^ 41 := mul_le_mul c_high.le factor_high.le hfactor.nonneg (by norm_num)
      _ < 2 ^ 100 := by norm_num
  obtain ⟨value, hvalue, value_near⟩ := (rounds_mul hc hfactor).error product_high
  exact ⟨value, two_roundings hc.nonneg c_high quotient_nonneg factor_near value_near,
    fun _ small => hvalue.le_truncate_iff small⟩

/-- A number of any size as the value that holds it. -/
theorem exists_value {whole : Nat} (positive : 0 < whole) (short : whole < 2 ^ 39) :
    ∃ value : ℚ, (ofInt .single whole).HasValue value ∧ 1 / 2 ≤ value ∧ value < 2 ^ 40 := by
  have low : (1 : ℚ) ≤ whole := by exact_mod_cast positive
  have high : (whole : ℚ) < 2 ^ 39 := by exact_mod_cast short
  obtain ⟨value, held, near⟩ := (rounds_ofInt whole).error (high.trans (by norm_num))
  obtain ⟨near_low, near_high⟩ := abs_le.mp near
  exact ⟨value, held, by linarith, by linarith⟩

theorem scaled_nonneg {count target span : Int} (count_nonneg : 0 ≤ count) (target_nonneg : 0 ≤ target)
    (span_nonneg : 0 ≤ span) : 0 ≤ scaled count target span := by
  have signs := hasSign_mul .single (hasSign_ofInt .single count)
    (hasSign_quotient .single target_nonneg span_nonneg)
  rw [decide_eq_false (by omega)] at signs
  exact truncate_nonneg signs

/-- As many units as make the target come to the target, or to one less. -/
theorem scaled_self {target span : Nat} (target_narrow : target < 2 ^ 20) (span_pos : 0 < span)
    (span_short : span < 2 ^ 39) :
    (target : Int) - 1 ≤ scaled span target span ∧ scaled span target span ≤ target := by
  obtain ⟨s, hs, s_low, s_high⟩ := exists_value span_pos span_short
  have s_pos : 0 < s := by linarith
  have target_rat : (target : ℚ) + 1 ≤ 2 ^ 20 := by exact_mod_cast target_narrow
  have target_nonneg : (0 : ℚ) ≤ target := by positivity
  have quotient_high : (target : ℚ) / s < 2 ^ 40 := by
    rw [div_lt_iff₀ s_pos]
    linarith
  obtain ⟨value, near, reaches⟩ :=
    scaled_near hs (hasValue_ofInt (by omega)) hs s_pos s_high quotient_high
  rw [mul_div_cancel₀ _ s_pos.ne'] at near
  obtain ⟨near_low, near_high⟩ := abs_le.mp near
  constructor
  · rcases target with _ | less
    · have := scaled_nonneg (Int.natCast_nonneg span) (Int.natCast_nonneg 0) (Int.natCast_nonneg span)
      omega
    · have reached := (reaches less (by simp only [Signed32.greatest]; omega)).mpr (by
        push_cast at near_low target_rat
        linarith)
      omega
  · apply Int.not_lt.mp
    intro past
    have reached := (reaches (target + 1) (by simp only [Signed32.greatest]; omega)).mp past
    push_cast at reached
    linarith

/-- Nothing, and what is less, is scaled to nothing or less. -/
theorem scaled_nonpos {count target span : Int} (nonpos : count ≤ 0) (target_nonneg : 0 ≤ target)
    (span_nonneg : 0 ≤ span) : scaled count target span ≤ 0 :=
  truncate_mul_nonpos nonpos (hasSign_quotient .single target_nonneg span_nonneg)

/-- Where the exact quotient is a whole number, only that number and the count matter. -/
theorem scaled_of_eq {goal count target span : Nat} (goal_pos : 0 < goal) (goal_narrow : goal < 2 ^ 24)
    (count_pos : 0 < count) (count_narrow : count < 2 ^ 24) (target_narrow : target < 2 ^ 24)
    (span_pos : 0 < span) (span_narrow : span < 2 ^ 24)
    (exact : goal * span = count * target) : scaled count target span = scaled count goal count := by
  have quotients : (target : ℚ) / span = (goal : ℚ) / count := by
    have : (goal : ℚ) * span = count * target := by exact_mod_cast exact
    rw [div_eq_div_iff (by positivity) (by positivity), this, mul_comm]
  have first := rounds_div (hasValue_ofInt target_narrow) (hasValue_ofInt span_narrow) (by positivity)
  have second := rounds_div (hasValue_ofInt goal_narrow) (hasValue_ofInt count_narrow) (by positivity)
  rw [quotients] at first
  rw [scaled, scaled, first.eq second (by positivity)]

/-- The result reaches the whole numbers that the exact quotient reaches, but for the quotient itself. -/
theorem le_scaled_iff {goal count : Int} {target span : Nat} (goal_pos : 0 < goal)
    (high : count < 2 ^ 24) (target_narrow : target < 2 ^ 24) (span_pos : 0 < span)
    (span_narrow : span < 2 ^ 24) (small : goal * span < 2 ^ 22) :
    goal ≤ scaled count target span ↔ Reaches goal count target span := by
  obtain ⟨goal, rfl⟩ := Int.eq_ofNat_of_zero_le goal_pos.le
  have goal_pos : 0 < goal := by omega
  have small : goal * span < 2 ^ 22 := by exact_mod_cast small
  have goal_narrow : goal < 2 ^ 22 := lt_of_le_of_lt (Nat.le_mul_of_pos_right goal span_pos) small
  by_cases positive : 0 < count
  · obtain ⟨count, rfl⟩ := Int.eq_ofNat_of_zero_le positive.le
    have count_pos : 0 < count := by omega
    have count_narrow : count < 2 ^ 24 := by omega
    have span_rat : (1 : ℚ) ≤ span := by exact_mod_cast span_pos
    have target_rat : (target : ℚ) < 2 ^ 24 := by exact_mod_cast target_narrow
    have span_high : (span : ℚ) < 2 ^ 24 := by exact_mod_cast span_narrow
    have count_high : (count : ℚ) < 2 ^ 24 := by exact_mod_cast count_narrow
    have quotient_high : (target : ℚ) / span < 2 ^ 40 := by
      rw [div_lt_iff₀ (by positivity)]
      linarith
    obtain ⟨value, near, reaches⟩ := scaled_near (hasValue_ofInt count_narrow)
      (hasValue_ofInt target_narrow) (hasValue_ofInt span_narrow) (by positivity)
      (count_high.trans (by norm_num)) quotient_high
    have reached := reaches goal (by simp only [Signed32.greatest]; omega)
    have small_rat : (goal : ℚ) * span + 1 ≤ 2 ^ 22 := by exact_mod_cast small
    -- The error in units of `1 / span`, of which the exact quotient is a whole number.
    have near_units : |value * span - count * target| ≤ count * target * 3 / 2 ^ 24 + 1 / 2 ^ 26 := by
      calc |value * span - count * target| = |value - count * (target / span)| * span := by
            rw [← abs_of_pos (by positivity : (0 : ℚ) < span), ← abs_mul,
              abs_of_pos (by positivity : (0 : ℚ) < span)]
            congr 1
            field_simp
        _ ≤ (count * (target / span) * 3 / 2 ^ 24 + 1 / 2 ^ 50) * span := by gcongr
        _ = count * target * 3 / 2 ^ 24 + span / 2 ^ 50 := by field_simp
        _ ≤ count * target * 3 / 2 ^ 24 + 1 / 2 ^ 26 := by linarith
    obtain ⟨near_low, near_high⟩ := abs_le.mp near_units
    rcases Nat.lt_trichotomy (goal * span) (count * target) with below | exact | above
    · have past : (goal : ℚ) * span + 1 ≤ count * target := by exact_mod_cast below
      have above : (goal : ℚ) ≤ value := by
        apply le_of_mul_le_mul_right _ (by positivity : (0 : ℚ) < span)
        linarith
      refine iff_of_true (reached.mpr above) (.inl ?_)
      exact_mod_cast below
    · have same := scaled_of_eq goal_pos (by omega) count_pos count_narrow target_narrow span_pos
        span_narrow exact
      have tie : (goal : Int) * span = count * target := by exact_mod_cast exact
      rw [same, Reaches]
      constructor
      · intro recovered
        exact .inr ⟨tie, recovered⟩
      · rintro (past | ⟨_, recovered⟩)
        · omega
        · exact recovered
    · have short : (count : ℚ) * target + 1 ≤ goal * span := by exact_mod_cast above
      have misses : value < goal := by
        apply lt_of_mul_lt_mul_right _ (by positivity : (0 : ℚ) ≤ span)
        linarith
      refine iff_of_false (fun above => absurd (reached.mp above) (not_le.mpr misses)) ?_
      have short : (count : Int) * target < goal * span := by exact_mod_cast above
      rintro (past | ⟨tie, _⟩) <;> omega
  · have stays := scaled_nonpos (Int.not_lt.mp positive) (Int.natCast_nonneg target) (Int.natCast_nonneg span)
    refine iff_of_false (by omega) ?_
    have nothing : count * target ≤ 0 :=
      Int.mul_nonpos_of_nonpos_of_nonneg (Int.not_lt.mp positive) (Int.natCast_nonneg target)
    have some_goal : (0 : Int) < goal * span := by positivity
    rintro (past | ⟨tie, _⟩) <;> omega

end PadBench.BinaryFloat
