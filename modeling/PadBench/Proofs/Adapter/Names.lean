import PadBench.Proofs.Adapter.Inputs

/-!
The names of scenarios: a name tells which axis is displaced, to which side and how far.

* `axisName_injective`: no two displacements share a name;
* `displaced_of_name`: a scenario with the name of a displacement is that displacement.
-/
namespace PadBench

theorem Axis.length_name (axis : Axis) : axis.name.toList.length = 2 := by cases axis <;> rfl

theorem Axis.name_injective {a b : Axis} (same : a.name.toList = b.name.toList) : a = b := by
  cases a <;> cases b <;> first | rfl | exact absurd same (by decide)

theorem Direction.length_name (direction : Direction) : direction.name.toList.length = 8 := by
  cases direction <;> rfl

theorem Direction.name_injective {a b : Direction} (same : a.name.toList = b.name.toList) : a = b := by
  cases a <;> cases b <;> first | rfl | exact absurd same (by decide)

theorem Boundary.name_injective {a b : Boundary} (same : a.name.toList = b.name.toList) : a = b := by
  cases a <;> cases b <;> first | rfl | exact absurd same (by decide)

namespace Adapter

section

variable {axis axis' : Axis} {direction direction' : Direction} {boundary boundary' : Boundary}

theorem toList_axisName (axis : Axis) (direction : Direction) (boundary : Boundary) :
    (axisName axis direction boundary).toList =
      "axis/".toList ++
        (axis.name.toList ++ '/' :: (direction.name.toList ++ '/' :: boundary.name.toList)) := by
  simp [axisName, String.toList_append]

/-- Names that begin with an axis are those of the same axis, if they go on after it alike. -/
theorem axis_of_name {rest rest' : List Char}
    (same : "axis/".toList ++ (axis.name.toList ++ '/' :: rest) =
      "axis/".toList ++ (axis'.name.toList ++ '/' :: rest')) : axis = axis' ∧ rest = rest' := by
  obtain ⟨name, after⟩ := List.append_inj (List.append_cancel_left same)
    (by rw [Axis.length_name, Axis.length_name])
  exact ⟨Axis.name_injective name, (List.cons_inj_right _).mp after⟩

/-- The axis, the side and the boundary are told by the name. -/
theorem axisName_injective (same : axisName axis direction boundary = axisName axis' direction' boundary') :
    axis = axis' ∧ direction = direction' ∧ boundary = boundary' := by
  have letters := congrArg String.toList same
  rw [toList_axisName, toList_axisName] at letters
  obtain ⟨rfl, rest⟩ := axis_of_name letters
  obtain ⟨side, after⟩ := List.append_inj rest (by rw [Direction.length_name, Direction.length_name])
  exact ⟨rfl, Direction.name_injective side,
    Boundary.name_injective ((List.cons_inj_right _).mp after)⟩

theorem axisName_ne_zero (axis axis' : Axis) (direction : Direction) (boundary : Boundary) :
    "axis/" ++ axis'.name ++ "/zero" ≠ axisName axis direction boundary := by
  intro same
  have letters := congrArg String.toList same
  have zero : ("axis/" ++ axis'.name ++ "/zero").toList =
      "axis/".toList ++ (axis'.name.toList ++ '/' :: "zero".toList) := by
    simp [String.toList_append]
  rw [toList_axisName, zero] at letters
  have lengths := congrArg List.length (axis_of_name letters).2
  rw [List.length_append, Direction.length_name] at lengths
  have four : "zero".toList.length = 4 := rfl
  omega

/-- No other name begins like that of a displacement. -/
theorem axisName_ne_append (label rest : String) (other : label.toList.head?.getD 'a' ≠ 'a') :
    label ++ rest ≠ axisName axis direction boundary := by
  intro same
  have letters := congrArg String.toList same
  rw [toList_axisName, String.toList_append] at letters
  cases begins : label.toList with
  | nil =>
    rw [begins] at other
    exact other rfl
  | cons first more =>
    rw [begins] at letters other
    exact other (List.cons.inj letters).1

end

/-- A scenario with the name of a displacement displaces that axis to that side, by what is tried there. -/
theorem displaced_of_name {adapter : Adapter} {scenario : Scenario} {axis : Axis} {direction : Direction}
    {boundary : Boundary} (member : scenario ∈ adapter.scenarios)
    (named : scenario.name = axisName axis direction boundary) :
    ∃ source wired magnitude, adapter.source.axes.get axis = some source ∧
      adapter.wired.axes.get axis = some wired ∧
      (boundary, magnitude) ∈ boundaries axis source wired adapter.fraction direction ∧
      scenario = adapter.scenario (axisName axis direction boundary) .axis
        (adapter.displaced axis source direction magnitude) := by
  cases lists_of_mem member with
  | none | entry | union => exact absurd named (axisName_ne_append "buttons/" _ (by decide))
  | hat code => exact absurd named (axisName_ne_append "hat/" (toString code) (by decide))
  | rest which => exact absurd named (axisName_ne_zero axis which direction boundary)
  | displaced which side sourceAxis wiredAxis tried =>
    obtain ⟨rfl, rfl, rfl⟩ := axisName_injective named
    exact ⟨_, _, _, sourceAxis, wiredAxis, tried, rfl⟩

end Adapter

end PadBench
