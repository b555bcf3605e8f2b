import Interception.Proofs.Conversion.Acceptance
import Interception.Proofs.Conversion.Whole

/-!
# Coercion as a retraction

Coercion to a declared type maps onto the values that the type accepts and leaves each of
them as it is: a single survives the way through a double, an item of an array of classes
or of nulls is not touched. The accepted values are therefore the fixed points, and
coercing twice is coercing once.
-/

set_option autoImplicit false

namespace Interception.Native.Value

theorem coerceAll_eq_self {element : Ty} {items : List Value}
    (kept : ∀ item ∈ items, (coerce element item).outcome = .ok item) :
    (coerceAll element items).outcome = .ok items := by
  induction items with
  | nil => rfl
  | cons item items ih =>
      obtain ⟨first, rest⟩ := List.forall_mem_cons.mp kept
      rw [coerceAll, Coercion.andThen]
      simp only [first, Coercion.map, ih rest]
      rfl

theorem coerce_eq_self {target : Ty} {value : Value} (accepted : target.accepts value = true) :
    (value.coerce target).outcome = .ok value := by
  -- The items of an array have its element type, which is smaller.
  induction target generalizing value with
  | void =>
      cases value with
      | null => rfl
      | _ => simp [Ty.accepts] at accepted
  | boolean =>
      cases value with
      | boolean value => rfl
      | _ => simp [Ty.accepts] at accepted
  | integer width =>
      cases value with
      | integer valueWidth integer =>
          obtain rfl : width = valueWidth := by simpa [Ty.accepts] using accepted
          refine narrow_ok_iff.mpr ?_
          rw [narrow?_integer, truncate?, Option.bind_some, SizedInt.ofInt?_toInt,
            Option.map_some]
      | _ => simp [Ty.accepts] at accepted
  | float precision =>
      cases value with
      | float valuePrecision number =>
          obtain rfl : precision = valuePrecision := by simpa [Ty.accepts] using accepted
          refine narrow_ok_iff.mpr ?_
          cases precision with
          | single => rw [narrow?, toDouble?, Option.map_some, Binary.convert_convert]
          | double => rw [narrow?, toDouble?, Option.map_some]
      | _ => simp [Ty.accepts] at accepted
  | char =>
      cases value with
      | char character => rfl
      | _ => simp [Ty.accepts] at accepted
  | string =>
      cases value with
      | null => rfl
      | string text => rfl
      | _ => simp [Ty.accepts] at accepted
  | object className => cases value <;> rfl
  | array element ih =>
      cases value with
      | null => rfl
      | array items =>
          have kept := coerceAll_eq_self fun item member =>
            ih (Ty.accepts_array_iff.mp accepted item member)
          simp only [coerce, Coercion.visit, Coercion.map, kept]
          rfl
      | _ => simp [Ty.accepts] at accepted

/-- What is coerced is accepted, and the accepted values are just those that coercion
leaves as they are. -/
theorem coerce_retraction (target : Ty) (value : Value) :
    ((value.coerce target).outcome = .ok value ↔ target.accepts value = true) ∧
    ∀ result, (value.coerce target).outcome = .ok result →
      target.accepts result = true ∧ (result.coerce target).outcome = .ok result := by
  refine ⟨⟨coerce_accepted, coerce_eq_self⟩, fun result coerced => ?_⟩
  have accepted := coerce_accepted coerced
  exact ⟨accepted, coerce_eq_self accepted⟩

/-- Zeros keep their sign and nulls stay between arrays; at a type without values, nulls
take the place of the items, once and for all. -/
theorem coerce_retraction_sparse :
    let columns : Ty := .array (.array (.float .single))
    let sparse : Value :=
      .array [.null, .array [.float .single (.signed true 0 (Nat.zero_le _)), .float .single .nan]]
    let erased : Value := .array [.null, .null]
    columns.accepts sparse = true ∧ (sparse.coerce columns).outcome = .ok sparse ∧
      (sparse.coerce (.array .void)).outcome = .ok erased ∧
      (Ty.array .void).accepts erased = true ∧
      (erased.coerce (.array .void)).outcome = .ok erased := by
  intro columns sparse erased
  have accepted : columns.accepts sparse = true := rfl
  have erases : (sparse.coerce (.array .void)).outcome = .ok erased := rfl
  obtain ⟨reached, again⟩ := (coerce_retraction (.array .void) sparse).2 erased erases
  exact ⟨accepted, (coerce_retraction columns sparse).1.mpr accepted, erases, reached, again⟩

end Interception.Native.Value
