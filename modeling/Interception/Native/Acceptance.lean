import Interception.Native.Value

/-!
# Legal arguments

Which values a declared type accepts. Nothing is converted here: a primitive
accepts its own kind only, while a reference to a class accepts every value.
-/

set_option autoImplicit false

namespace Interception.Native

namespace Ty

mutual

def accepts : Ty → Value → Bool
  | .object _, _ => true
  | .void, .null => true
  | .string, .null => true
  | .array _, .null => true
  | .boolean, .boolean _ => true
  | .integer width, .integer valueWidth _ => width == valueWidth
  | .float precision, .float valuePrecision _ => precision == valuePrecision
  | .char, .char _ => true
  | .string, .string _ => true
  | .array element, .array items => element.acceptsAll items
  | _, _ => false

def acceptsAll (element : Ty) : List Value → Bool
  | [] => true
  | item :: items => element.accepts item && element.acceptsAll items

end

theorem acceptsAll_eq_all (element : Ty) (items : List Value) :
    element.acceptsAll items = items.all element.accepts := by
  induction items with
  | nil => rfl
  | cons item items ih => simp [acceptsAll, ih]

theorem accepts_zero (declared : Ty) : declared.accepts declared.zero = true := by
  cases declared <;> simp [Ty.zero, accepts]

/-- Only a primitive does without null. -/
theorem accepts_null_iff {declared : Ty} :
    declared.accepts .null = true ↔ declared.isPrimitive = false := by
  cases declared <;> simp [accepts, Ty.isPrimitive]

theorem accepts_array_iff {element : Ty} {items : List Value} :
    (array element).accepts (.array items) = true ↔
      ∀ item ∈ items, element.accepts item = true := by
  rw [accepts, acceptsAll_eq_all, List.all_eq_true]

end Ty

end Interception.Native
