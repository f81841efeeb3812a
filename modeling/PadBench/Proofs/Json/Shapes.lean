import PadBench.Json.Fields

/-!
The values that readers take, told by their form.

* `takes_listOf?` and its kin: the values of each type;
* `isSome_required?_iff`, `isSome_defaulted?_iff`, `isSome_optional?_iff`: when a field of an object can be
  read.
-/
namespace PadBench.Json

/-- Which values there are of a kind. -/
abbrev Shape := Json → Prop

/-- A whole number within bounds. One with a fraction or an exponent is none. -/
def IsNumber (least greatest : Int) : Shape := fun value =>
  ∃ number, value = .int number ∧ least ≤ number ∧ number ≤ greatest

def IsInt32 : Shape := IsNumber (-2147483648) 2147483647

def IsInt64 : Shape := IsNumber (-9223372036854775808) 9223372036854775807

def IsUInt8 : Shape := IsNumber 0 255

def IsUInt32 : Shape := IsNumber 0 4294967295

def IsText : Shape := fun value => ∃ text, value = .str text

def IsList (item : Shape) : Shape := fun value => ∃ items, value = .arr items ∧ ∀ value ∈ items, item value

/-- Whether an object may lack a field. -/
inductive Presence where
  | required
  | defaulted
  /-- It may be `null` instead. -/
  | optional
  deriving DecidableEq, Repr

structure Field where
  key : String
  presence : Presence
  shape : Shape

/-- The members have a value of the field's shape under its key, or need none. -/
def Field.Fits (field : Field) (members : Members) : Prop :=
  match member? field.key members with
  | none => field.presence ≠ .required
  | some value => field.shape value ∨ field.presence = .optional ∧ value = .null

theorem Field.fits_congr {field : Field} {members more : Members}
    (same : member? field.key members = member? field.key more) : field.Fits members ↔ field.Fits more := by
  rw [Fits, Fits, same]

section Reading

variable {α β : Type} {read? : Json → Option α} {shape : Shape}

/-- The reader takes the values of the shape and no others. -/
def Takes (read? : Json → Option α) (shape : Shape) : Prop :=
  ∀ value, (read? value).isSome = true ↔ shape value

theorem takes_intBetween? (least greatest : Int) :
    Takes (intBetween? least greatest) (IsNumber least greatest) := by
  intro value
  cases value with
  | int number =>
    rw [intBetween?]
    split
    · rename_i within
      exact ⟨fun _ => ⟨number, rfl, within⟩, fun _ => rfl⟩
    · rename_i outside
      refine ⟨nofun, ?_⟩
      rintro ⟨_, same, within⟩
      cases same
      exact absurd within outside
  | null | bool | real | str | arr | obj =>
    refine ⟨nofun, ?_⟩
    rintro ⟨_, same, _⟩
    cases same

theorem Takes.map (takes : Takes read? shape) (f : α → β) : Takes (fun value => (read? value).map f) shape := by
  intro value
  rw [Option.isSome_map]
  exact takes value

theorem takes_int32? : Takes int32? IsInt32 := (takes_intBetween? _ _).map _

theorem takes_int64? : Takes int64? IsInt64 := (takes_intBetween? _ _).map _

theorem takes_uint8? : Takes uint8? IsUInt8 := (takes_intBetween? _ _).map _

theorem takes_uint32? : Takes uint32? IsUInt32 := (takes_intBetween? _ _).map _

theorem takes_string? : Takes string? IsText := by
  intro value
  cases value with
  | str text => exact ⟨fun _ => ⟨text, rfl⟩, fun _ => rfl⟩
  | null | bool | int | real | arr | obj =>
    refine ⟨nofun, ?_⟩
    rintro ⟨_, same⟩
    cases same

/-- Readings one after the other, none of which depends on what was read before. -/
theorem isSome_bind_iff {first : Option α} {next : α → Option β} {rest : Prop}
    (after : ∀ value, (next value).isSome = true ↔ rest) :
    (first >>= next).isSome = true ↔ first.isSome = true ∧ rest := by
  cases first with
  | none => exact ⟨nofun, nofun⟩
  | some value => exact (after value).trans ⟨fun rest => ⟨rfl, rest⟩, And.right⟩

theorem isSome_mapM_iff {items : List Json} (takes : Takes read? shape) :
    (items.mapM read?).isSome = true ↔ ∀ item ∈ items, shape item := by
  induction items with
  | nil => exact ⟨fun _ => nofun, fun _ => rfl⟩
  | cons item items ih =>
    rw [List.mapM_cons, List.forall_mem_cons, ← takes item, ← ih]
    refine isSome_bind_iff fun _ => ?_
    rw [isSome_bind_iff fun _ => iff_of_true rfl trivial, and_true]

theorem length_of_mapM {items : List Json} {values : List α} (read : items.mapM read? = some values) :
    values.length = items.length := by
  induction items generalizing values with
  | nil =>
    cases read
    rfl
  | cons item items ih =>
    simp only [List.mapM_cons, Option.bind_eq_bind, Option.bind_eq_some_iff] at read
    obtain ⟨value, _, rest, there, same⟩ := read
    cases same
    rw [List.length_cons, List.length_cons, ih there]

theorem takes_listOf? (takes : Takes read? shape) : Takes (listOf? read?) (IsList shape) := by
  intro value
  cases value with
  | arr items =>
    rw [listOf?, isSome_mapM_iff takes]
    refine ⟨fun each => ⟨items, rfl, each⟩, ?_⟩
    rintro ⟨_, same, each⟩
    cases same
    exact each
  | null | bool | int | real | str | obj =>
    refine ⟨nofun, ?_⟩
    rintro ⟨_, same, _⟩
    cases same

variable {members : Members} {key : String}

theorem isSome_required?_iff (takes : Takes read? shape) :
    (members.required? key read?).isSome = true ↔ Field.Fits ⟨key, .required, shape⟩ members := by
  rw [Members.required?, Field.Fits]
  cases member? key members with
  | none => exact ⟨nofun, fun lacks => absurd rfl lacks⟩
  | some value => simp [takes value]

theorem isSome_defaulted?_iff (default : α) (takes : Takes read? shape) :
    (members.defaulted? key default read?).isSome = true ↔ Field.Fits ⟨key, .defaulted, shape⟩ members := by
  rw [Members.defaulted?, Field.Fits]
  cases member? key members with
  | none => simp
  | some value => simp [takes value]

theorem isSome_optional?_iff (takes : Takes read? shape) :
    (members.optional? key read?).isSome = true ↔ Field.Fits ⟨key, .optional, shape⟩ members := by
  rw [Members.optional?, Field.Fits]
  cases member? key members with
  | none => simp
  | some value => cases value <;> simp [takes _]

end Reading

end PadBench.Json
