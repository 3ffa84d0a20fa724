import ZanovixCrm.Library.JsonValue

/-!
# Types of JSON values

The types of TypeScript, as far as they are about data, are sets of JSON values: the primitive
types, unions of literals, arrays, and interfaces. An interface asks for its fields, each with a
value of its type, and does not mind others. A field that may be `null` has to be there all the
same.
-/

namespace ZanovixCrm

/-- A type, by the values that inhabit it. -/
abbrev JsonType := JsonValue → Bool

namespace JsonType

/-! ### Types -/

/-- `null`. -/
def null : JsonType
  | .null => true
  | _ => false

/-- `string`. -/
def string : JsonType
  | .str _ => true
  | _ => false

/-- `number`. -/
def number : JsonType
  | .num _ => true
  | _ => false

/-- `boolean`. -/
def boolean : JsonType
  | .bool _ => true
  | _ => false

/-- A union of texts. -/
def oneOf (texts : List String) : JsonType
  | .str s => texts.contains s
  | _ => false

/-- `t | null`. -/
def orNull (t : JsonType) : JsonType := fun v ↦ t v || null v

/-- `t[]`. -/
def array (t : JsonType) : JsonType
  | .arr items => items.all t
  | _ => false

/-- An interface with these fields. -/
def interface (fields : List (String × JsonType)) : JsonType
  | .obj members => fields.all fun f ↦ ((JsonValue.obj members).get? f.1).any f.2
  | _ => false

/-! ### Values -/

variable {α : Type} {t : JsonType}

@[simp] theorem string_str (s : String) : string (.str s) = true := rfl

@[simp] theorem number_num (n : Int) : number (.num n) = true := rfl

@[simp] theorem boolean_bool (b : Bool) : boolean (.bool b) = true := rfl

@[simp] theorem oneOf_str (texts : List String) (s : String) :
    oneOf texts (.str s) = texts.contains s := rfl

@[simp] theorem orNull_null : t.orNull .null = true := Bool.or_true _

theorem orNull_of_eq_true {v : JsonValue} (h : t v = true) : t.orNull v = true := by
  rw [orNull, h, Bool.true_or]

/-- A value that may be missing, if what is there is of the type. -/
theorem orNull_nullable {f : α → JsonValue} {o : Option α} (h : ∀ a ∈ o, t (f a) = true) :
    t.orNull (.nullable f o) = true := by
  cases o with
  | none => exact orNull_null
  | some a => exact orNull_of_eq_true (h a rfl)

/-- An array is of the type of its items. -/
@[simp] theorem array_list (f : α → JsonValue) (as : List α) :
    t.array (.list f as) = as.all fun a ↦ t (f a) := by
  rw [JsonValue.list, array, List.all_map]
  rfl

theorem array_list_of_forall {f : α → JsonValue} {as : List α} (h : ∀ a, t (f a) = true) :
    t.array (.list f as) = true := by
  rw [array_list]
  exact List.all_eq_true.2 fun a _ ↦ h a

section Interface

variable {fields : List (String × JsonType)} {members : List (String × JsonValue)}

/-- **An object inhabits an interface** exactly if each field is there with a value of its type. -/
theorem interface_obj : interface fields (.obj members) = true ↔
    ∀ f ∈ fields, ∃ v, (JsonValue.obj members).get? f.1 = some v ∧ f.2 v = true := by
  simp only [interface, List.all_eq_true, Option.any_eq_true]

/-- A field that is missing. -/
theorem interface_of_missing {f : String × JsonType} (hf : f ∈ fields)
    (h : (JsonValue.obj members).get? f.1 = none) : interface fields (.obj members) = false := by
  refine Bool.eq_false_iff.2 fun htrue ↦ ?_
  obtain ⟨v, hv, -⟩ := interface_obj.1 htrue f hf
  rw [h] at hv
  cases hv

end Interface

end JsonType

end ZanovixCrm
