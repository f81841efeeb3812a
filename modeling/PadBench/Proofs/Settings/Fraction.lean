import Mathlib.Tactic.NormNum
import PadBench.Bench.Session
import PadBench.Proofs.Adapter.Fraction

/-!
The fraction in the settings and the one an adapter is built with.

* `isFraction_iff`: settings can ask for any share below one half;
* `isAdmissible_iff`: an adapter is built with the fraction asked for up to 0.499, which single precision puts a
  little lower;
* `fraction_in_force_iff`: so what is asked for is in force except between the two.
-/
namespace PadBench

/-- The greatest fraction of an adapter: of the numbers that single precision has, the nearest to 0.499. -/
def Adapter.greatestShare : ℚ := 16743662 / 2 ^ 25

theorem Adapter.number?_least : (BinaryFloat.ofInt .single 0).number? = some 0 := by
  rw [least_eq]
  norm_num [BinaryFloat.number?]

theorem Adapter.number?_greatest : greatestFraction.number? = some greatestShare := by
  rw [greatestFraction_eq]
  norm_num [BinaryFloat.number?, greatestShare]

theorem Settings.number?_fractionEnd : fractionEnd.number? = some (1 / 2) := by
  have half : fractionEnd = .finite false (2 ^ 23) (-24) := by decide
  rw [half]
  norm_num [BinaryFloat.number?]

theorem Settings.isFraction_iff {fraction : BinaryFloat} :
    isFraction fraction = true ↔ fraction.LiesIn (Set.Ico 0 (1 / 2)) := by
  rw [BinaryFloat.liesIn_Ico_iff Adapter.number?_least number?_fractionEnd]
  cases fraction <;> simp [isFraction, BinaryFloat.isNan]

namespace Adapter

variable {fraction : BinaryFloat}

/-- What the clamp leaves alone: the shares up to the greatest one, and what is no number at all. -/
theorem isAdmissible_iff :
    IsAdmissible fraction ↔ fraction = .nan ∨ fraction.LiesIn (Set.Icc 0 greatestShare) := by
  rw [BinaryFloat.liesIn_Icc_iff number?_least number?_greatest, IsAdmissible]
  constructor
  · intro kept
    by_cases none : fraction = .nan
    · exact .inl none
    · exact .inr ⟨none, kept⟩
  · rintro (rfl | ⟨_, kept⟩)
    · exact ⟨rfl, rfl⟩
    · exact kept

theorem greatestShare_lt : greatestShare < 1 / 2 := by norm_num [greatestShare]

/-- An adapter is built with a share below one half, unless it is given no number. -/
theorem withFraction_liesIn_iff (source : SourceProfile) (wired : WiredProfile) :
    (withFraction source wired fraction).fraction.LiesIn (Set.Ico 0 (1 / 2)) ↔ fraction ≠ .nan := by
  constructor
  · rintro built rfl
    obtain ⟨_, _, none⟩ := built
    cases none
  · intro some
    rw [withFraction, BinaryFloat.clamp]
    split
    · exact ⟨0, ⟨le_rfl, by norm_num⟩, number?_least⟩
    · rename_i above
      split
      · exact ⟨greatestShare, ⟨by norm_num [greatestShare], greatestShare_lt⟩, number?_greatest⟩
      · rename_i below
        have admissible : IsAdmissible fraction := ⟨Bool.not_eq_true _ ▸ above, Bool.not_eq_true _ ▸ below⟩
        obtain ⟨number, ⟨low, high⟩, stands⟩ := (isAdmissible_iff.mp admissible).resolve_left some
        exact ⟨number, ⟨low, high.trans_lt greatestShare_lt⟩, stands⟩

end Adapter

namespace Settings

/-- A check is passed, and then the rest succeeds. What the check yields is not used. -/
theorem check_eq_ok_iff {ε α β : Type} {check : Except ε α} {rest : Except ε β} {result : β} :
    (check >>= fun _ => rest) = .ok result ↔ (∃ value, check = .ok value) ∧ rest = .ok result := by
  cases check <;> simp [bind, Except.bind]

variable {settings : Settings}

theorem Model.validate_eq_ok_iff {model : Model} :
    model.validate = .ok () ↔ isFraction model.fraction = true ∧ (∃ pad, model.pad = .ok pad) ∧
      (∃ console, model.console = .ok console) ∧ model.deviceName.all isAdvertisable = true := by
  rw [Model.validate]
  cases isFraction model.fraction with
  | false => exact iff_of_false nofun nofun
  | true =>
    simp only [Bool.not_true, Bool.false_eq_true, if_false, check_eq_ok_iff, true_and]
    refine and_congr_right fun _ => and_congr_right fun _ => ?_
    cases model.deviceName.all isAdvertisable
    · exact iff_of_false nofun nofun
    · exact iff_of_true rfl rfl

theorem validate_eq_ok_iff :
    settings.validate = .ok () ↔ settings.dut.validate = .ok () ∧ settings.model.validate = .ok () ∧
      settings.results.validate = .ok () ∧ settings.logging.validate = .ok () := by
  simp only [validate, check_eq_ok_iff, Unique.exists_iff]

/-- Of settings that are accepted just the shares below one half can be in place of the fraction. -/
theorem validate_withFraction_iff (valid : settings.validate = .ok ()) (fraction : BinaryFloat) :
    ({ settings with model := { settings.model with fraction } } : Settings).validate = .ok () ↔
      fraction.LiesIn (Set.Ico 0 (1 / 2)) := by
  obtain ⟨dut, model, results, logging⟩ := validate_eq_ok_iff.mp valid
  obtain ⟨_, pad, console, name⟩ := Model.validate_eq_ok_iff.mp model
  rw [validate_eq_ok_iff, Model.validate_eq_ok_iff, isFraction_iff]
  exact ⟨fun accepted => accepted.2.1.1, fun share => ⟨dut, ⟨share, pad, console, name⟩, results, logging⟩⟩

theorem ofSettings_of_valid (valid : settings.validate = .ok ()) :
    ∃ pad console, Session.ofSettings settings.model =
      .ok (.new pad console settings.model.fraction settings.model.deviceName) := by
  obtain ⟨_, model, _⟩ := validate_eq_ok_iff.mp valid
  obtain ⟨_, ⟨pad, known⟩, ⟨console, given⟩, _⟩ := Model.validate_eq_ok_iff.mp model
  refine ⟨pad, console, ?_⟩
  rw [Session.ofSettings, known, given]
  rfl

end Settings

/-- Which fraction is in force. An adapter is built with a share below one half, unless it is given no number,
and with just the fraction it is given up to the greatest one, or if that is no number. Settings are accepted
with any share below one half; the session of accepted settings has the fraction they ask for exactly if it is
not above the greatest one. -/
theorem Settings.fraction_in_force_iff (source : SourceProfile) (wired : WiredProfile) (fraction : BinaryFloat) :
    let built := (Adapter.withFraction source wired fraction).fraction
    (built.LiesIn (Set.Ico 0 (1 / 2)) ↔ fraction ≠ .nan) ∧
    (built = fraction ↔ fraction = .nan ∨ fraction.LiesIn (Set.Icc 0 Adapter.greatestShare)) ∧
    (∀ settings : Settings, settings.validate = .ok () →
      (({ settings with model := { settings.model with fraction } } : Settings).validate = .ok () ↔
        fraction.LiesIn (Set.Ico 0 (1 / 2)))) ∧
    ∀ settings : Settings, settings.validate = .ok () → settings.model.fraction = fraction →
      ∃ session, Session.ofSettings settings.model = .ok session ∧
        (session.adapter.fraction = fraction ↔ fraction.LiesIn (Set.Icc 0 Adapter.greatestShare)) := by
  intro built
  have kept (source : SourceProfile) (wired : WiredProfile) :
      (Adapter.withFraction source wired fraction).fraction = fraction ↔
        fraction = .nan ∨ fraction.LiesIn (Set.Icc 0 Adapter.greatestShare) := by
    rw [Adapter.withFraction_fraction_eq_iff, Adapter.isAdmissible_iff]
  refine ⟨Adapter.withFraction_liesIn_iff source wired, kept source wired, ?_, ?_⟩
  · exact fun settings valid => validate_withFraction_iff valid fraction
  · rintro settings valid rfl
    obtain ⟨pad, console, opened⟩ := ofSettings_of_valid valid
    refine ⟨_, opened, (kept pad.profile console.profile).trans (or_iff_right ?_)⟩
    intro none
    obtain ⟨number, _, stands⟩ := (validate_withFraction_iff valid _).mp valid
    exact BinaryFloat.ne_nan_of_number? stands none

/-- Settings that ask for 0.4995 are accepted, and their session has 0.499 in force. What is no number is not cut
to one. -/
theorem Settings.fraction_near_half_is_cut :
    let fraction := BinaryFloat.ofDecimal .single false 4995 (-4)
    let settings : Settings := { Settings.default with model := { Settings.Model.default with fraction } }
    (settings.validate = .ok () ∧
      ∃ session, Session.ofSettings settings.model = .ok session ∧
        session.adapter.fraction = Adapter.greatestFraction ∧ session.adapter.fraction ≠ fraction) ∧
    (Adapter.withFraction WirelessPad.ps4.profile Console.gameCube.profile .nan).fraction = .nan := by
  intro fraction settings
  exact ⟨⟨by decide, _, rfl, by decide, by decide⟩, rfl⟩

end PadBench
