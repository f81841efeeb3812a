import PadBench.Adapter.Model
import PadBench.Proofs.Pad.Hat

/-!
The digital stages of an adapter, bit by bit.

* `digital_iff_pressed`: a position is set if a button or the hat of the report presses it, a wire leaves its
  idle level if a set position drives it, and where the wires idle high no further button raises one.
-/
namespace PadBench.Adapter

variable (adapter : Adapter) (state : PadState)

/-- The report presses the position: its word has a bit of the position's entry, or its hat, on a pad that
has one, points there. -/
def Presses (button : PadButton) : Prop :=
  adapter.source.buttons.entry button &&& state.buttons ≠ 0 ∨
    ∃ encoding code, adapter.source.hat = some encoding ∧ state.hat = some code ∧
      encoding.Points code button

theorem testBit_hatBits (button : PadButton) :
    (adapter.hatBits state).toNat.testBit button.index = true ↔
      ∃ encoding code, adapter.source.hat = some encoding ∧ state.hat = some code ∧
        encoding.Points code button := by
  unfold hatBits
  split
  · rename_i encoding code hat given
    rw [Hat.testBit_decode_iff]
    constructor
    · exact fun points => ⟨encoding, code, hat, given, points⟩
    · rintro ⟨_, _, same, again, points⟩
      rw [hat, Option.some.injEq] at same
      rw [given, Option.some.injEq] at again
      rwa [same, again]
  · rename_i missing
    refine iff_of_false (by simp) ?_
    rintro ⟨encoding, code, hat, given, -⟩
    exact missing encoding code hat given

theorem testBit_genericButtons (button : PadButton) :
    (adapter.genericButtons state).toNat.testBit button.index = true ↔ adapter.Presses state button := by
  rw [genericButtons, UInt32.toNat_or, Nat.testBit_or, Bool.or_eq_true, ButtonTable.testBit_generic,
    testBit_hatBits, ButtonTable.presses, bne_iff_ne, Presses]

/-- A wire is off its idle level exactly if a set position drives it. -/
theorem wire_moves_iff (wire : Nat) :
    (adapter.wiredButtons state).toNat.testBit wire ≠ adapter.wired.idle.toNat.testBit wire ↔
      ∃ button, (adapter.genericButtons state).toNat.testBit button.index = true ∧
        (adapter.wired.buttons.entry button).toNat.testBit wire = true := by
  rw [← ButtonTable.testBit_drive, wiredButtons, UInt32.toNat_xor, Nat.testBit_xor]
  cases (adapter.wired.buttons.drive (adapter.genericButtons state)).toNat.testBit wire <;> simp

/-- All the wires the console's table drives idle high. -/
def IdlesHigh : Prop :=
  ∀ button, adapter.wired.buttons.entry button &&& adapter.wired.idle = adapter.wired.buttons.entry button

variable {adapter state}

/-- A wire that idles high is low exactly while something presses it. -/
theorem wire_high_iff (high : adapter.IdlesHigh) (wire : Nat) :
    (adapter.wiredButtons state).toNat.testBit wire = true ↔
      adapter.wired.idle.toNat.testBit wire = true ∧
        ∀ button, adapter.Presses state button →
          (adapter.wired.buttons.entry button).toNat.testBit wire = false := by
  have moves := adapter.wire_moves_iff state wire
  have undriven : (∀ button, adapter.Presses state button →
      (adapter.wired.buttons.entry button).toNat.testBit wire = false) ↔
      ¬∃ button, adapter.Presses state button ∧
        (adapter.wired.buttons.entry button).toNat.testBit wire = true := by
    simp only [not_exists, not_and, Bool.not_eq_true]
  simp only [testBit_genericButtons] at moves
  rw [undriven, ← moves, Decidable.not_not]
  constructor
  · intro up
    -- A wire that moved is driven, so it idles high, as it is now: it did not move.
    have still : (adapter.wiredButtons state).toNat.testBit wire = adapter.wired.idle.toNat.testBit wire := by
      apply Decidable.byContradiction
      intro moved
      obtain ⟨button, -, drives⟩ := moves.mp moved
      have idles := Word.and_eq_left_iff.mp (high button) wire drives
      exact moved (up.trans idles.symm)
    exact ⟨still.symm.trans up, still⟩
  · rintro ⟨idles, still⟩
    exact still.trans idles

/-- Further bits of the word take no position back. -/
theorem Presses.or {button : PadButton} (presses : adapter.Presses state button) (extra : UInt32) :
    adapter.Presses (state.withButtons (state.buttons ||| extra)) button := by
  refine presses.imp_left fun meets => ?_
  obtain ⟨i, entry, set⟩ := Word.and_ne_zero_iff.mp meets
  refine Word.and_ne_zero_iff.mpr ⟨i, entry, ?_⟩
  rw [PadState.withButtons, UInt32.toNat_or, Nat.testBit_or, set, Bool.true_or]

/-- Where the wires idle high, one that is low stays low as more is pressed. -/
theorem wiredButtons_and_of_more {more : PadState} (high : adapter.IdlesHigh)
    (held : ∀ button, adapter.Presses state button → adapter.Presses more button) :
    adapter.wiredButtons more &&& adapter.wiredButtons state = adapter.wiredButtons more := by
  refine Word.and_eq_left_iff.mpr fun wire up => ?_
  rw [wire_high_iff high] at up ⊢
  exact ⟨up.1, fun button pressed => up.2 button (held button pressed)⟩

/-- A position is set exactly if a button or the hat presses it, and a wire is off its idle level exactly if
a set position drives it. Further bits of the word take no position back, and if all driven wires idle high,
more positions pressed can only pull wires low. -/
theorem digital_iff_pressed (adapter : Adapter) (state : PadState) :
    (∀ button, (adapter.predict state).generic.toNat.testBit button.index = true ↔
      adapter.source.buttons.entry button &&& state.buttons ≠ 0 ∨
        ∃ encoding code, adapter.source.hat = some encoding ∧ state.hat = some code ∧
          encoding.Points code button) ∧
    (∀ wire,
      (adapter.predict state).wired.toNat.testBit wire ≠ adapter.wired.idle.toNat.testBit wire ↔
        ∃ button, (adapter.predict state).generic.toNat.testBit button.index = true ∧
          (adapter.wired.buttons.entry button).toNat.testBit wire = true) ∧
    (∀ extra button, adapter.Presses state button →
      adapter.Presses (state.withButtons (state.buttons ||| extra)) button) ∧
    (adapter.IdlesHigh → ∀ more, (∀ button, adapter.Presses state button → adapter.Presses more button) →
      (adapter.predict more).wired &&& (adapter.predict state).wired = (adapter.predict more).wired) :=
  ⟨adapter.testBit_genericButtons state, adapter.wire_moves_iff state,
    fun extra _ presses => presses.or extra, fun high _ held => wiredButtons_and_of_more high held⟩

/-- The cross of a PlayStation pad on a Saturn wire, and up on its hat with it. -/
theorem digital_iff_pressed_saturn :
    let adapter := withDefaults WirelessPad.ps4.profile Console.saturn.profile
    let cross := PadState.empty.withButtons 0x20
    adapter.IdlesHigh ∧ (∀ button, adapter.Presses cross button → adapter.Presses (cross.withHat 0) button) ∧
      (adapter.predict (cross.withHat 0)).wired &&& (adapter.predict cross).wired =
        (adapter.predict (cross.withHat 0)).wired ∧
      (adapter.predict cross).wired = 0xFFFE ∧ (adapter.predict (cross.withHat 0)).wired = 0xFFEE := by
  intro adapter cross
  have high : adapter.IdlesHigh := by
    intro button
    cases button <;> decide
  have held (button : PadButton) (presses : adapter.Presses cross button) :
      adapter.Presses (cross.withHat 0) button := by
    obtain pressed | ⟨_, _, _, given, _⟩ := presses
    · exact .inl pressed
    · cases given
  exact ⟨high, held, (digital_iff_pressed adapter cross).2.2.2 high _ held, by decide, by decide⟩

end PadBench.Adapter
