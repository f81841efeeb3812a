import PadBench.Proofs.Arith.Scaling

/-!
The arithmetic keeps the order of its operands.

* `round_upTo`: of two quotients the greater one is not rounded to less;
* `truncate_mul_mono`: nor does it become less when both are scaled by one factor and cut;
* `scaled_le_scaled`: a greater count of units of which fewer make the target is not scaled to less.
-/
namespace PadBench.BinaryFloat

/-- The order of the values from zero up to infinity. -/
def UpTo : BinaryFloat → BinaryFloat → Prop
  | .finite false m₁ e₁, .finite false m₂ e₂ => (m₁ : ℚ) * 2 ^ e₁ ≤ m₂ * 2 ^ e₂
  | .finite false _ _, .infinite false | .infinite false, .infinite false => True
  | _, _ => False

theorem le_nearestEven {num den whole : Nat} (den_pos : 0 < den) (bound : whole * den ≤ num) :
    whole ≤ nearestEven num den := by
  have below : whole ≤ num / den := (Nat.le_div_iff_mul_le den_pos).mpr bound
  rcases nearestEven_cases num den with ⟨down, _⟩ | ⟨up, _⟩ <;> omega

theorem nearestEven_mono {num den num' den' : Nat} (den_pos : 0 < den) (den_pos' : 0 < den')
    (le : num * den' ≤ num' * den) : nearestEven num den ≤ nearestEven num' den' := by
  rcases Nat.eq_or_lt_of_le le with same | less
  · exact (nearestEven_congr den_pos den_pos' same).le
  · have den_rat : (0 : ℚ) < den := by exact_mod_cast den_pos
    have den_rat' : (0 : ℚ) < den' := by exact_mod_cast den_pos'
    have quotients : (num : ℚ) / den < num' / den' := by
      rw [div_lt_div_iff₀ den_rat den_rat']
      exact_mod_cast less
    have near := (abs_le.mp (nearestEven_near num den_pos)).2
    have near' := (abs_le.mp (nearestEven_near num' den_pos')).1
    -- Both are within one half of their quotients, so they cannot be a whole one apart the other way.
    apply Nat.le_of_not_lt
    intro above
    have apart : (nearestEven num' den' : ℚ) + 1 ≤ nearestEven num den := by exact_mod_cast above
    linarith

section

variable (format : FloatFormat) {num den num' den' : Nat}

/-- Units above the least ones are so coarse that the quotient has the full precision. -/
theorem le_units (wide : 0 < format.precision) (num_pos : 0 < num) (den_pos : 0 < den)
    (coarse : format.leastExponent < unit format num den) :
    2 ^ (format.precision - 1) ≤ units format num den := by
  obtain ⟨low, _⟩ := binade_bounds num_pos den_pos
  have scaled_nat := inUnits_den_pos num (unit format num den) den_pos
  have scaled_pos : (0 : ℚ) < (inUnits num den (unit format num den)).2 := by exact_mod_cast scaled_nat
  have unit_pos : (0 : ℚ) < 2 ^ unit format num den := by positivity
  have lifted : ((format.precision - 1 : Nat) : Int) + unit format num den = binade num den := by
    rw [unit] at coarse ⊢
    omega
  apply le_nearestEven scaled_nat
  have above : (2 : ℚ) ^ (format.precision - 1) ≤
      ((inUnits num den (unit format num den)).1 : ℚ) / (inUnits num den (unit format num den)).2 := by
    rw [inUnits_quotient, le_div_iff₀ unit_pos, ← zpow_natCast, ← zpow_add₀ two_ne_zero, lifted]
    exact low
  rw [le_div_iff₀ scaled_pos] at above
  exact_mod_cast above

/-- Rounding keeps the order before it looks for an overflow. -/
theorem units_mono (wide : 0 < format.precision) (num_pos : 0 < num) (den_pos : 0 < den)
    (num_pos' : 0 < num') (den_pos' : 0 < den') (le : (num : ℚ) / den ≤ num' / den') :
    (units format num den : ℚ) * 2 ^ unit format num den ≤
      units format num' den' * 2 ^ unit format num' den' := by
  obtain ⟨low, _⟩ := binade_bounds num_pos den_pos
  obtain ⟨_, high'⟩ := binade_bounds num_pos' den_pos'
  have binades : binade num den < binade num' den' + 1 :=
    (zpow_lt_zpow_iff_right₀ one_lt_two).mp (lt_of_le_of_lt (low.trans le) high')
  have ordered : unit format num den ≤ unit format num' den' := by
    rw [unit, unit]
    omega
  rcases ordered.eq_or_lt with same | finer
  · have counts : units format num den ≤ units format num' den' := by
      rw [units, units, ← same]
      have scaled_nat := inUnits_den_pos num (unit format num den) den_pos
      have scaled_nat' := inUnits_den_pos num' (unit format num den) den_pos'
      have scaled : (0 : ℚ) < (inUnits num den (unit format num den)).2 := by exact_mod_cast scaled_nat
      have scaled' : (0 : ℚ) < (inUnits num' den' (unit format num den)).2 := by exact_mod_cast scaled_nat'
      refine nearestEven_mono scaled_nat scaled_nat' ?_
      have quotients : (num : ℚ) / den / 2 ^ unit format num den ≤
          num' / den' / 2 ^ unit format num den := by gcongr
      rw [← inUnits_quotient, ← inUnits_quotient, div_le_div_iff₀ scaled scaled'] at quotients
      exact_mod_cast quotients
    rw [same]
    gcongr
  · -- A power of two lies between the two: the finer units end at it, the coarser ones begin there.
    have coarse : format.leastExponent < unit format num' den' :=
      lt_of_le_of_lt (le_max_left _ _) finer
    have ends : (units format num den : ℚ) ≤ 2 ^ format.precision := by
      exact_mod_cast units_le format num_pos den_pos
    have begins : (2 : ℚ) ^ (format.precision - 1) ≤ units format num' den' := by
      exact_mod_cast le_units format wide num_pos' den_pos' coarse
    calc (units format num den : ℚ) * 2 ^ unit format num den
        ≤ 2 ^ format.precision * 2 ^ unit format num den := by gcongr
      _ = 2 ^ ((format.precision : Int) + unit format num den) := by
        rw [zpow_add₀ two_ne_zero, zpow_natCast]
      _ ≤ 2 ^ (((format.precision - 1 : Nat) : Int) + unit format num' den') :=
        zpow_le_zpow_right₀ one_le_two (by omega)
      _ = 2 ^ (format.precision - 1) * 2 ^ unit format num' den' := by
        rw [zpow_add₀ two_ne_zero, zpow_natCast]
      _ ≤ units format num' den' * 2 ^ unit format num' den' := by gcongr

end

/-- The binade of a value that is not zero. -/
theorem log2_add_le {mantissa mantissa' : Nat} {exponent exponent' : Int} (positive : 0 < mantissa)
    (le : (mantissa : ℚ) * 2 ^ exponent ≤ mantissa' * 2 ^ exponent') :
    (mantissa.log2 : Int) + exponent ≤ mantissa'.log2 + exponent' := by
  have low : (2 : ℚ) ^ mantissa.log2 ≤ mantissa := by exact_mod_cast Nat.log2_self_le positive.ne'
  have high : (mantissa' : ℚ) < 2 ^ (mantissa'.log2 + 1) := by exact_mod_cast Nat.lt_log2_self
  have powers : (2 : ℚ) ^ ((mantissa.log2 : Int) + exponent) < 2 ^ ((mantissa'.log2 + 1 : Nat) + exponent') := by
    rw [zpow_add₀ two_ne_zero, zpow_add₀ two_ne_zero, zpow_natCast, zpow_natCast]
    calc (2 : ℚ) ^ mantissa.log2 * 2 ^ exponent ≤ mantissa * 2 ^ exponent := by gcongr
      _ ≤ mantissa' * 2 ^ exponent' := le
      _ < 2 ^ (mantissa'.log2 + 1) * 2 ^ exponent' := by gcongr
  have exponents := (zpow_lt_zpow_iff_right₀ one_lt_two).mp powers
  omega

/-- Of two quotients the greater one is not rounded to less. -/
theorem round_upTo {format : FloatFormat} (holds : HoldsWhole format) (wide : 0 < format.precision)
    {num den num' den' : Nat} (den_pos : 0 < den) (den_pos' : 0 < den')
    (le : (num : ℚ) / den ≤ num' / den') :
    UpTo (round format false num den) (round format false num' den') := by
  rcases Nat.eq_zero_or_pos num with rfl | num_pos
  · rw [round_zero]
    rcases Nat.eq_zero_or_pos num' with rfl | num_pos'
    · rw [round_zero]
      exact le_refl _
    · rw [round_eq format false num_pos']
      split
      · trivial
      · simp only [UpTo, Nat.cast_zero, zero_mul]
        positivity
  · have num_pos' : 0 < num' := by
      apply Nat.pos_of_ne_zero
      rintro rfl
      have : (0 : ℚ) < (num : ℚ) / den := by positivity
      rw [Nat.cast_zero, zero_div] at le
      linarith
    have ordered := units_mono format wide num_pos den_pos num_pos' den_pos' le
    rw [round_eq format false num_pos, round_eq format false num_pos']
    split
    · -- What overflows has the full precision, so it is not zero and bounds the binade of the other.
      rename_i overflows
      have positive : 0 < units format num den := by
        obtain ⟨least, greatest⟩ := holds
        by_cases coarse : format.leastExponent < unit format num den
        · exact lt_of_lt_of_le (by positivity) (le_units format wide num_pos den_pos coarse)
        · apply Nat.pos_of_ne_zero
          intro none
          rw [none, Nat.log2_zero] at overflows
          omega
      rw [if_pos (lt_of_lt_of_le overflows (log2_add_le positive ordered))]
      trivial
    · split
      · trivial
      · exact ordered

theorem truncate_mono {x y : BinaryFloat} (ordered : UpTo x y) : x.truncate ≤ y.truncate := by
  match x, y, ordered with
  | .finite false m₁ e₁, .finite false m₂ e₂, ordered =>
    have nonneg : 0 ≤ truncate (.finite false m₁ e₁) := truncate_nonneg rfl
    obtain ⟨goal, hgoal⟩ := Int.eq_ofNat_of_zero_le nonneg
    have small : (goal : Int) ≤ Signed32.greatest := hgoal ▸ truncate_le_greatest _
    rw [hgoal]
    exact (hasValue_finite m₂ e₂).le_truncate_iff small |>.mpr
      (((hasValue_finite m₁ e₁).le_truncate_iff small |>.mp hgoal.ge).trans ordered)
  | .finite false m e, .infinite false, _ => exact truncate_le_greatest _
  | .infinite false, .infinite false, _ => exact le_refl _

theorem single_wide : 0 < FloatFormat.single.precision := by decide

theorem Rounds.upTo {x y : BinaryFloat} {a b : ℚ} (hx : Rounds a x) (hy : Rounds b y) (le : a ≤ b) :
    UpTo x y := by
  obtain ⟨num, den, den_pos, rfl, rfl⟩ := hx
  obtain ⟨num', den', den_pos', rfl, rfl⟩ := hy
  exact round_upTo single_holdsWhole single_wide den_pos den_pos' le

theorem ofInt_upTo {a b : Int} (nonneg : 0 ≤ a) (le : a ≤ b) : UpTo (ofInt .single a) (ofInt .single b) := by
  obtain ⟨a, rfl⟩ := Int.eq_ofNat_of_zero_le nonneg
  obtain ⟨b, rfl⟩ := Int.eq_ofNat_of_zero_le (nonneg.trans le)
  exact (rounds_ofInt a).upTo (rounds_ofInt b) (by exact_mod_cast le)

/-- Two values scaled by one factor and cut to whole numbers keep their order. -/
theorem truncate_mul_mono {x y factor : BinaryFloat} (ordered : UpTo x y) (plus : factor.HasSign false) :
    (mul .single x factor).truncate ≤ (mul .single y factor).truncate := by
  have nonneg {value : BinaryFloat} (hvalue : value.HasSign false) :
      0 ≤ (mul .single value factor).truncate :=
    truncate_nonneg (hasSign_mul .single hvalue plus)
  match x, y, factor, ordered, plus with
  | x, y, .nan, _, _ => cases x <;> cases y <;> exact le_refl _
  | .finite false 0 _, .finite false m₂ e₂, _, _, _ =>
    rw [truncate_zero_mul]
    exact nonneg rfl
  | .finite false (m₁ + 1) e₁, .finite false m₂ e₂, .infinite false, ordered, _ =>
    have some : m₂ ≠ 0 := by
      rintro rfl
      have positive : (0 : ℚ) < (m₁ + 1 : Nat) * 2 ^ e₁ := by positivity
      simp only [UpTo, Nat.cast_zero, zero_mul] at ordered
      linarith
    simp only [mul, some, Nat.succ_ne_zero, if_false, le_refl]
  | .finite false m₁ e₁, .finite false m₂ e₂, .finite false mantissa exponent, ordered, _ =>
    have first := rounds_mul (hasValue_finite m₁ e₁) (hasValue_finite mantissa exponent)
    have second := rounds_mul (hasValue_finite m₂ e₂) (hasValue_finite mantissa exponent)
    exact truncate_mono (first.upTo second (mul_le_mul_of_nonneg_right ordered (by positivity)))
  | .finite false _ _, .infinite false, .infinite false, _, _ => exact truncate_le_greatest _
  | .finite false _ _, .infinite false, .finite false 0 _, _, _ =>
    simp only [mul, Nat.mul_zero, inUnits_zero, round_zero, truncate_zero]
    exact le_refl _
  | .finite false _ _, .infinite false, .finite false (_ + 1) _, _, _ => exact truncate_le_greatest _
  | .infinite false, .infinite false, _, _, _ => exact le_refl _

theorem mul_symm (format : FloatFormat) (x y : BinaryFloat) : mul format x y = mul format y x := by
  cases x <;> cases y <;> simp only [mul, Nat.mul_comm, Int.add_comm, bne_comm]

theorem UpTo.value_le {x y : BinaryFloat} {a b : ℚ} (ordered : UpTo x y) (hx : x.HasValue a)
    (hy : y.HasValue b) : a ≤ b := by
  obtain ⟨m₁, e₁, rfl, rfl⟩ := hx.exists_finite
  obtain ⟨m₂, e₂, rfl, rfl⟩ := hy.exists_finite
  exact ordered

/-- A quotient does not become greater when its divisor does. -/
theorem div_upTo {x y z : BinaryFloat} {a b : ℚ} (dividend : UpTo x x) (hy : y.HasValue a)
    (hz : z.HasValue b) (positive : 0 < a) (le : a ≤ b) : UpTo (div .single x z) (div .single x y) := by
  match x, dividend with
  | .finite false mantissa exponent, _ =>
    have hx := hasValue_finite mantissa exponent
    have quotients := div_le_div_of_nonneg_left hx.nonneg positive le
    exact (rounds_div hx hz (positive.trans_le le)).upTo (rounds_div hx hy positive) quotients
  | .infinite false, _ =>
    obtain ⟨m₁, e₁, rfl, _⟩ := hy.exists_finite
    obtain ⟨m₂, e₂, rfl, _⟩ := hz.exists_finite
    trivial

/-- A greater count, of units of which fewer make the target, is not scaled to less. -/
theorem scaled_le_scaled {count count' target : Int} {span span' : Nat} (count_nonneg : 0 ≤ count)
    (count_le : count ≤ count') (target_nonneg : 0 ≤ target) (span_pos : 0 < span') (span_le : span' ≤ span)
    (span_short : span < 2 ^ 39) : scaled count target span ≤ scaled count' target span' := by
  obtain ⟨s, hs, _, _⟩ := exists_value (span_pos.trans_le span_le) span_short
  obtain ⟨s', hs', s_low', _⟩ := exists_value span_pos (span_le.trans_lt span_short)
  have ordered : s' ≤ s :=
    (ofInt_upTo (Int.natCast_nonneg span') (Int.ofNat_le.mpr span_le)).value_le hs' hs
  have factors : UpTo (div .single (ofInt .single target) (ofInt .single span))
      (div .single (ofInt .single target) (ofInt .single span')) :=
    div_upTo (ofInt_upTo target_nonneg le_rfl) hs' hs (by linarith) ordered
  have count_plus : (ofInt .single count').HasSign false := by
    have sign := hasSign_ofInt .single count'
    rwa [decide_eq_false (by omega)] at sign
  calc scaled count target span
      ≤ (mul .single (ofInt .single count')
          (div .single (ofInt .single target) (ofInt .single span))).truncate :=
        truncate_mul_mono (ofInt_upTo count_nonneg count_le)
          (hasSign_quotient .single target_nonneg (Int.natCast_nonneg span))
    _ = (mul .single (div .single (ofInt .single target) (ofInt .single span))
          (ofInt .single count')).truncate := by rw [mul_symm]
    _ ≤ (mul .single (div .single (ofInt .single target) (ofInt .single span'))
          (ofInt .single count')).truncate := truncate_mul_mono factors count_plus
    _ = scaled count' target span' := by rw [mul_symm, scaled]

end PadBench.BinaryFloat
