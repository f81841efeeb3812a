import Mathlib.Data.List.Nodup
import Mathlib.Data.List.Pairwise
import PadBench.Proofs.Adapter.Names

/-!
The list of scenarios as a whole: no name is there twice, and how many there are of each kind.

A name begins with its kind, so names can only clash within one kind. There the rest of the name is the label
of what is tried: a position, a code, or an axis with a side and a boundary.

* `kind_of_name`: scenarios of one name are of one kind;
* `names_of_buttons`, `names_of_hat`, `names_of_axes`: no two scenarios of one kind share a name;
* `scenarios_distinct`: nor do any two of all, and what is in the list: so many button scenarios, so many of the
  hat, and beside them only those of axes that pad and console share.
-/
namespace PadBench

theorem ScenarioKind.eq_of_first {a b : ScenarioKind} (same : a.name.toList.head? = b.name.toList.head?) :
    a = b := by
  cases a <;> cases b <;> first | rfl | exact absurd same (by decide)

theorem PerAxis.set_get {α : Type} (values : PerAxis α) (axis : Axis) :
    values.set axis (values.get axis) = values := by
  apply ext_get
  intro other
  rw [get_set]
  split
  · rename_i here
    rw [here]
  · rfl

namespace Adapter

variable {adapter : Adapter} {axis : Axis}

section Kinds

theorem kind_of_buttons : ∀ scenario ∈ adapter.buttonScenarios, scenario.kind = .buttons := by
  intro scenario listed
  simp only [buttonScenarios, List.mem_append, List.mem_cons, List.mem_map, List.not_mem_nil,
    or_false] at listed
  obtain (rfl | ⟨_, _, rfl⟩) | rfl := listed <;> rfl

theorem kind_of_hat : ∀ scenario ∈ adapter.hatScenarios, scenario.kind = .hat := by
  rw [hatScenarios]
  split <;> simp [scenario]

theorem begins_with_axis {scenario : Scenario} (listed : scenario ∈ adapter.oneAxisScenarios axis) :
    ∃ label, scenario.name = "axis/" ++ axis.name ++ "/" ++ label := by
  rw [oneAxisScenarios] at listed
  split at listed
  · rcases List.mem_cons.mp listed with rfl | displaced
    · exact ⟨"zero", by simp only [Adapter.scenario, String.append_assoc]; rfl⟩
    · obtain ⟨direction, _, side⟩ := List.mem_flatMap.mp displaced
      obtain ⟨⟨boundary, _⟩, _, rfl⟩ := List.mem_map.mp side
      refine ⟨direction.name ++ "/" ++ boundary.name, ?_⟩
      simp only [Adapter.scenario, axisName, String.append_assoc]
  · cases listed

/-- The scenario is one of an axis: it is named for it, and nothing but that axis is away from rest. -/
structure IsOn (adapter : Adapter) (axis : Axis) (scenario : Scenario) : Prop where
  kind : scenario.kind = .axis
  named : ∃ label, scenario.name = "axis/" ++ axis.name ++ "/" ++ label
  displaced : ∃ raw, scenario.input = adapter.restState.withAxis axis raw

theorem isOn_of_mem {scenario : Scenario} (listed : scenario ∈ adapter.oneAxisScenarios axis) :
    adapter.IsOn axis scenario ∧ (adapter.source.axes.get axis).isSome = true ∧
      (adapter.wired.axes.get axis).isSome = true := by
  have named := begins_with_axis listed
  rw [oneAxisScenarios] at listed
  split at listed
  · rename_i source wired sourceAxis wiredAxis
    refine ⟨?_, by rw [sourceAxis]; rfl, by rw [wiredAxis]; rfl⟩
    rcases List.mem_cons.mp listed with rfl | displaced
    · have still : adapter.restState.axes.get axis = some source.neutral := by
        simp [restState, PadState.neutral, sourceAxis]
      refine ⟨rfl, named, source.neutral, ?_⟩
      have same := PerAxis.set_get adapter.restState.axes axis
      rw [still] at same
      simp only [Adapter.scenario, PadState.withAxis, same]
    · obtain ⟨direction, _, side⟩ := List.mem_flatMap.mp displaced
      obtain ⟨⟨boundary, magnitude⟩, _, rfl⟩ := List.mem_map.mp side
      exact ⟨rfl, named, _, rfl⟩
  · cases listed

theorem kind_of_axes : ∀ scenario ∈ adapter.axisScenarios, scenario.kind = .axis := by
  intro scenario listed
  obtain ⟨axis, _, here⟩ := List.mem_flatMap.mp listed
  exact (isOn_of_mem here).1.kind

end Kinds

section Names

theorem begins_with_kind {scenario : Scenario} (listed : adapter.Lists scenario) :
    ∃ label, scenario.name = scenario.kind.name ++ "/" ++ label := by
  cases listed with
  | none => exact ⟨"none", rfl⟩
  | entry button => exact ⟨button.name, rfl⟩
  | union => exact ⟨"all", rfl⟩
  | hat code => exact ⟨toString code, rfl⟩
  | rest axis => exact ⟨axis.name ++ "/zero", String.append_assoc ..⟩
  | @displaced axis _ _ direction boundary =>
    refine ⟨axis.name ++ "/" ++ direction.name ++ "/" ++ boundary.name, ?_⟩
    simp only [scenario, axisName, ScenarioKind.name, String.append_assoc]
    rfl

/-- The first letter of a name tells the kind. -/
theorem kind_of_name {a b : Scenario} (here : a ∈ adapter.scenarios) (there : b ∈ adapter.scenarios)
    (same : a.name = b.name) : a.kind = b.kind := by
  obtain ⟨label, name⟩ := begins_with_kind (lists_of_mem here)
  obtain ⟨label', name'⟩ := begins_with_kind (lists_of_mem there)
  have first (kind : ScenarioKind) (rest : String) :
      (kind.name ++ "/" ++ rest).toList.head? = kind.name.toList.head? := by
    cases kind <;> simp [ScenarioKind.name, String.toList_append]
  apply ScenarioKind.eq_of_first
  rw [← first a.kind label, ← first b.kind label', ← name, ← name', same]

theorem names_of_buttons : (adapter.buttonScenarios.map Scenario.name).Nodup := by
  have labels : ("none" :: adapter.source.buttons.active.map PadButton.name ++ ["all"]).Nodup := by
    have all : ("none" :: PadButton.all.map PadButton.name ++ ["all"]).Nodup := by decide
    refine all.sublist (((List.Sublist.map _ ?_).cons_cons _).append (List.Sublist.refl _))
    exact List.filter_sublist
  have names : adapter.buttonScenarios.map Scenario.name =
      ("none" :: adapter.source.buttons.active.map PadButton.name ++ ["all"]).map ("buttons/" ++ ·) := by
    simp [buttonScenarios, scenario]
  rw [names]
  exact labels.map fun _ _ same => (String.append_right_inj _).mp same

theorem names_of_hat : (adapter.hatScenarios.map Scenario.name).Nodup := by
  rw [hatScenarios]
  split
  · exact List.nodup_nil
  · have codes : ((List.range Hat.codes).map fun code => "hat/" ++ toString code).Nodup := by decide
    rw [List.map_map]
    exact codes

theorem boundaries_distinct (source wired : Calibration) (fraction : BinaryFloat) (direction : Direction) :
    ((boundaries axis source wired fraction direction).map Prod.fst).Nodup := by
  simp only [boundaries]
  split
  · exact List.nodup_nil
  · split <;> simp

theorem names_of_side (source wired : Calibration) (direction : Direction) :
    ((adapter.directionScenarios axis source wired direction).map Scenario.name).Nodup := by
  have names : (adapter.directionScenarios axis source wired direction).map Scenario.name =
      ((boundaries axis source wired adapter.fraction direction).map Prod.fst).map
        (axisName axis direction) := by
    simp [directionScenarios, scenario]
  rw [names]
  exact (boundaries_distinct source wired _ direction).map fun _ _ same => (axisName_injective same).2.2

/-- The names of one axis: its rest, and each boundary of each side. -/
theorem names_of_axis (axis : Axis) : ((adapter.oneAxisScenarios axis).map Scenario.name).Nodup := by
  rw [oneAxisScenarios]
  split
  · rename_i source wired _ _
    rw [List.map_cons, List.nodup_cons, List.map_flatMap]
    constructor
    · intro member
      obtain ⟨direction, _, side⟩ := List.mem_flatMap.mp member
      obtain ⟨_, listed, named⟩ := List.mem_map.mp side
      obtain ⟨_, _, rfl⟩ := List.mem_map.mp listed
      exact axisName_ne_zero _ _ _ _ named.symm
    · refine List.nodup_flatMap.mpr ⟨fun direction _ => names_of_side source wired direction, ?_⟩
      have sides : Direction.all.Pairwise (· ≠ ·) := by decide
      refine sides.imp fun {direction direction'} differ name here there => differ ?_
      obtain ⟨_, listed, rfl⟩ := List.mem_map.mp here
      obtain ⟨_, listed', named⟩ := List.mem_map.mp there
      obtain ⟨_, _, rfl⟩ := List.mem_map.mp listed
      obtain ⟨_, _, rfl⟩ := List.mem_map.mp listed'
      exact (axisName_injective named).2.1.symm
  · exact List.nodup_nil

theorem names_of_axes : (adapter.axisScenarios.map Scenario.name).Nodup := by
  rw [axisScenarios, List.map_flatMap]
  refine List.nodup_flatMap.mpr ⟨fun axis _ => names_of_axis axis, ?_⟩
  have axes : Axis.all.Pairwise (· ≠ ·) := by decide
  refine axes.imp fun {axis axis'} differ name here there => differ ?_
  obtain ⟨_, listed, rfl⟩ := List.mem_map.mp here
  obtain ⟨_, listed', named⟩ := List.mem_map.mp there
  obtain ⟨label, name⟩ := begins_with_axis listed
  obtain ⟨label', name'⟩ := begins_with_axis listed'
  have letters := congrArg String.toList (name'.symm.trans (named.trans name))
  simp only [String.toList_append, List.append_assoc] at letters
  exact (axis_of_name letters).1.symm

/-- Each kind has names of its own, and within a kind no two scenarios share one. -/
theorem names_distinct (adapter : Adapter) : (adapter.scenarios.map Scenario.name).Nodup := by
  have apart {a b : Scenario} (here : a ∈ adapter.scenarios) (there : b ∈ adapter.scenarios)
      (kinds : a.kind ≠ b.kind) : a.name ≠ b.name :=
    fun same => kinds (kind_of_name here there same)
  rw [scenarios, List.map_append, List.map_append]
  refine List.nodup_append.mpr ⟨List.nodup_append.mpr ⟨names_of_buttons, names_of_hat, ?_⟩, names_of_axes, ?_⟩
  · intro _ button _ code
    obtain ⟨a, here, rfl⟩ := List.mem_map.mp button
    obtain ⟨b, there, rfl⟩ := List.mem_map.mp code
    refine apart (List.mem_append_left _ (List.mem_append_left _ here))
      (List.mem_append_left _ (List.mem_append_right _ there)) ?_
    rw [kind_of_buttons a here, kind_of_hat b there]
    decide
  · intro _ digital _ displaced
    rw [← List.map_append] at digital
    obtain ⟨a, here, rfl⟩ := List.mem_map.mp digital
    obtain ⟨b, there, rfl⟩ := List.mem_map.mp displaced
    refine apart (List.mem_append_left _ here) (List.mem_append_right _ there) ?_
    rw [kind_of_axes b there]
    rcases List.mem_append.mp here with button | code
    · rw [kind_of_buttons a button]
      decide
    · rw [kind_of_hat a code]
      decide

end Names

section Numbers

theorem length_buttonScenarios : adapter.buttonScenarios.length = adapter.source.buttons.active.length + 2 := by
  simp [buttonScenarios]

theorem length_hatScenarios :
    adapter.hatScenarios.length = if adapter.source.hat.isSome then Hat.codes else 0 := by
  rw [hatScenarios]
  cases adapter.source.hat <;> simp

/-- Of scenarios of one kind all are counted, or none. -/
theorem countP_of_kind {listed : List Scenario} {kind : ScenarioKind}
    (all : ∀ scenario ∈ listed, scenario.kind = kind) (counted : ScenarioKind) :
    listed.countP (·.kind = counted) = if kind = counted then listed.length else 0 := by
  split
  · rename_i same
    exact List.countP_eq_length.mpr fun scenario member => decide_eq_true ((all scenario member).trans same)
  · rename_i other
    refine List.countP_eq_zero.mpr fun scenario member counts => other ?_
    exact (all scenario member).symm.trans (of_decide_eq_true counts)

theorem countP_scenarios (kind : ScenarioKind) :
    adapter.scenarios.countP (·.kind = kind) =
      match kind with
      | .buttons => adapter.buttonScenarios.length
      | .hat => adapter.hatScenarios.length
      | .axis => adapter.axisScenarios.length := by
  rw [scenarios, List.countP_append, List.countP_append, countP_of_kind kind_of_buttons,
    countP_of_kind kind_of_hat, countP_of_kind kind_of_axes]
  cases kind <;> simp

end Numbers

/-- No two scenarios of an adapter share a name. There are two button scenarios more than the table has
positions with an entry, sixteen of the hat exactly if the pad has one, and all others are of axes that pad and
console both have. -/
theorem scenarios_distinct (adapter : Adapter) :
    (adapter.scenarios.map Scenario.name).Nodup ∧
      adapter.scenarios.countP (·.kind = .buttons) = adapter.source.buttons.active.length + 2 ∧
      adapter.scenarios.countP (·.kind = .hat) = (if adapter.source.hat.isSome then 16 else 0) ∧
      ∀ scenario ∈ adapter.scenarios, scenario.kind = .buttons ∨ scenario.kind = .hat ∨
        ∃ axis, (adapter.source.axes.get axis).isSome = true ∧ (adapter.wired.axes.get axis).isSome = true ∧
          adapter.IsOn axis scenario := by
  refine ⟨names_distinct adapter, ?_, ?_, ?_⟩
  · rw [countP_scenarios]
    exact length_buttonScenarios
  · rw [countP_scenarios]
    exact length_hatScenarios
  · intro scenario listed
    rw [scenarios, List.mem_append, List.mem_append] at listed
    rcases listed with (button | code) | displaced
    · exact .inl (kind_of_buttons scenario button)
    · exact .inr (.inl (kind_of_hat scenario code))
    · obtain ⟨axis, _, here⟩ := List.mem_flatMap.mp displaced
      obtain ⟨onAxis, sourceHas, wiredHas⟩ := isOn_of_mem here
      exact .inr (.inr ⟨axis, sourceHas, wiredHas, onAxis⟩)

end Adapter

end PadBench
