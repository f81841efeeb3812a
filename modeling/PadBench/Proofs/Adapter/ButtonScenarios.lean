import Mathlib.Data.List.Pairwise
import PadBench.Proofs.Adapter.ScenarioList
import PadBench.Proofs.Pad.Agreement

/-!
What the button scenarios of an adapter tell of the table a device folds its buttons by.

A device that folds by another table passes them if it shows the same generic words.

* `passesButtons_iff`: the scenarios ask for the entries of the adapter's table, each as a whole;
* `folding_fixed_iff`: so they fix what becomes of a word exactly if it holds each entry that it meets as a
  whole, and all of the folding for the pads whose entries are single bits.
-/
namespace PadBench

namespace Adapter

variable {adapter : Adapter} {candidate : ButtonTable}

/-- A device that folds by the table shows the generic word that each button scenario expects. -/
def PassesButtons (adapter : Adapter) (candidate : ButtonTable) : Prop :=
  ∀ scenario ∈ adapter.scenarios, scenario.kind = .buttons →
    candidate.generic scenario.input.buttons = scenario.expected.generic

theorem mem_buttonScenarios_iff {scenario : Scenario} :
    scenario ∈ adapter.scenarios ∧ scenario.kind = .buttons ↔ scenario ∈ adapter.buttonScenarios := by
  constructor
  · rintro ⟨listed, kind⟩
    rw [scenarios, List.mem_append, List.mem_append] at listed
    rcases listed with (pressed | turned) | moved
    · exact pressed
    · rw [kind_of_hat scenario turned] at kind
      cases kind
    · rw [kind_of_axes scenario moved] at kind
      cases kind
  · intro pressed
    exact ⟨List.mem_append_left _ (List.mem_append_left _ pressed), kind_of_buttons scenario pressed⟩

/-- With the hat at rest a generic word is what the table makes of the buttons. -/
theorem generic_of_buttons (word : UInt32) :
    (adapter.predict (adapter.restState.withButtons word)).generic = adapter.source.buttons.generic word := by
  have still : adapter.hatBits (adapter.restState.withButtons word) = 0 := by
    rw [hatBits]
    cases adapter.source.hat <;> rfl
  rw [predict, genericButtons, still, UInt32.or_zero]
  rfl

/-- The scenarios compare two tables on the entries of one of them. -/
theorem passesButtons_iff : adapter.PassesButtons candidate ↔ adapter.source.buttons.Agrees candidate := by
  constructor
  · intro passes button
    by_cases active : adapter.source.buttons.isActive button = true
    · have listed : adapter.scenario ("buttons/" ++ button.name) .buttons
          (adapter.restState.withButtons (adapter.source.buttons.entry button)) ∈ adapter.buttonScenarios := by
        refine List.mem_append_left _ (List.mem_cons_of_mem _ (List.mem_map.mpr ⟨button, ?_, rfl⟩))
        exact List.mem_filter.mpr ⟨button.mem_all, active⟩
      obtain ⟨among, kind⟩ := mem_buttonScenarios_iff.mpr listed
      exact (passes _ among kind).trans (generic_of_buttons (adapter.source.buttons.entry button))
    · rw [ButtonTable.isActive, bne_iff_ne, Decidable.not_not] at active
      rw [active, ButtonTable.generic_zero, ButtonTable.generic_zero]
  · intro agrees scenario listed kind
    have pressed := mem_buttonScenarios_iff.mp ⟨listed, kind⟩
    simp only [buttonScenarios, List.mem_append, List.mem_cons, List.mem_map, List.not_mem_nil,
      or_false] at pressed
    obtain (rfl | ⟨button, _, rfl⟩) | rfl := pressed <;> refine Eq.trans ?_ (generic_of_buttons _).symm
    · exact candidate.generic_zero.trans adapter.source.buttons.generic_zero.symm
    · exact agrees button
    · exact ButtonTable.generic_eq_of_holdsWhole agrees (UInt32.and_self) ButtonTable.holdsWhole_union

end Adapter

theorem WirelessPad.buttons_disjoint (pad : WirelessPad) : pad.buttons.IsDisjoint := by
  have apart : PadButton.all.Pairwise fun a b => pad.buttons.entry a &&& pad.buttons.entry b = 0 := by
    cases pad <;> decide +kernel
  have symm : Std.Symm fun a b => pad.buttons.entry a &&& pad.buttons.entry b = 0 :=
    ⟨fun a b none => (UInt32.and_comm _ _).trans none⟩
  exact fun a b distinct => apart.forall a.mem_all b.mem_all distinct

/-- Only the full reports of the Switch Pro Controller and of the Joy-Cons have two bits for one position. -/
theorem WirelessPad.buttons_singleBits {pad : WirelessPad}
    (plain : pad ∉ [switchPro, leftJoyCon, rightJoyCon]) : pad.buttons.HasSingleBits := by
  have powers : ∀ button ∈ PadButton.all, pad.buttons.entry button = 0 ∨
      (pad.buttons.entry button).toNat = 2 ^ (pad.buttons.entry button).toNat.log2 := by
    cases pad <;> first | decide +kernel | exact absurd (by decide) plain
  exact fun button => (powers button button.mem_all).imp_right fun power => ⟨_, power⟩

/-- Which words of a pad's mapped buttons the button scenarios fix: those that hold each entry that they meet as
a whole. A device that passes shows no wrong position for any other word, but it may miss one. For the pads
that give each position a single bit that leaves nothing open. -/
theorem Adapter.folding_fixed_iff (pad : WirelessPad) (wired : WiredProfile) (fraction : BinaryFloat)
    {word : UInt32} (mapped : word &&& pad.buttons.union = word) :
    let adapter : Adapter := .withFraction pad.profile wired fraction
    ((∀ candidate, adapter.PassesButtons candidate → candidate.generic word = pad.buttons.generic word) ↔
      ∀ button, pad.buttons.entry button &&& word ≠ 0 →
        pad.buttons.entry button &&& word = pad.buttons.entry button) ∧
    (∀ candidate, adapter.PassesButtons candidate →
      candidate.generic word &&& pad.buttons.generic word = candidate.generic word) ∧
    (pad ∉ [.switchPro, .leftJoyCon, .rightJoyCon] →
      ∀ candidate, adapter.PassesButtons candidate → candidate.generic word = pad.buttons.generic word) := by
  intro adapter
  have passes (candidate : ButtonTable) : adapter.PassesButtons candidate ↔ pad.buttons.Agrees candidate :=
    passesButtons_iff
  simp only [passes]
  refine ⟨ButtonTable.fixes_iff pad.buttons_disjoint mapped, ?_, ?_⟩
  · exact fun candidate agrees => ButtonTable.generic_under_of_agrees pad.buttons_disjoint agrees mapped
  · intro plain candidate agrees
    have whole := ButtonTable.holdsWhole_of_singleBits (WirelessPad.buttons_singleBits plain) word
    exact ButtonTable.generic_eq_of_holdsWhole agrees mapped whole

/-- The two side buttons that the full Switch report has for one position, both pressed, and `A` with them. -/
theorem Adapter.folding_fixed_switchPro :
    let adapter : Adapter := .withDefaults WirelessPad.switchPro.profile Console.gameCube.profile
    let word := bit Wireless.Layout.SwitchFull.lSl ||| bit Wireless.Layout.SwitchFull.rSl |||
      bit Wireless.Layout.SwitchFull.a
    word &&& WirelessPad.switchPro.buttons.union = word ∧
      ∀ candidate, adapter.PassesButtons candidate →
        candidate.generic word = PadButton.lt.mask ||| PadButton.rbRight.mask := by
  intro adapter word
  have mapped : word &&& WirelessPad.switchPro.buttons.union = word := by decide
  refine ⟨mapped, fun candidate passes => ?_⟩
  refine ((folding_fixed_iff .switchPro _ _ mapped).1.mpr ?_ candidate passes).trans (by decide)
  intro button
  cases button <;> decide

/-- A device that misses one of the two side buttons of a position passes: no scenario presses one of them
alone. -/
theorem Adapter.half_entry_is_missed :
    let adapter : Adapter := .withDefaults WirelessPad.switchPro.profile Console.gameCube.profile
    let alone := bit Wireless.Layout.SwitchFull.rSl
    let candidate := WirelessPad.switchPro.buttons.without .lt alone
    adapter.PassesButtons candidate ∧ alone &&& WirelessPad.switchPro.buttons.union = alone ∧
      candidate.generic alone = 0 ∧ WirelessPad.switchPro.buttons.generic alone = PadButton.lt.mask := by
  intro adapter alone candidate
  have agrees : adapter.source.buttons.Agrees candidate :=
    ButtonTable.agrees_without WirelessPad.switchPro.buttons_disjoint (by decide)
  exact ⟨passesButtons_iff.mpr agrees, by decide, by decide, by decide⟩

end PadBench
