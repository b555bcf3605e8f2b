import Interception.Conversion.Coercion
import Interception.Native.Acceptance
import Interception.Proofs.Conversion.Steps
import Mathlib.Data.List.Forall2

/-!
# Results of coercion are accepted

What a value becomes when it is coerced to a declared type is a value of that type,
at every depth: an item of an array is coerced to the element type, and a null
becomes the zero of the type that it is met at.
-/

set_option autoImplicit false

namespace Interception.Native

namespace Value

theorem narrow?_accepted {value narrowed : Value} {target : Ty}
    (narrows : value.narrow? target = some narrowed) : target.accepts narrowed = true := by
  cases target with
  | void => cases narrows
  | array element => cases narrows
  | object className => simp [Ty.accepts]
  | boolean =>
      cases value with
      | boolean value =>
          cases narrows
          rfl
      | _ => cases narrows
  | integer width =>
      obtain ⟨integer, -, rfl⟩ := Option.map_eq_some_iff.mp narrows
      simp [Ty.accepts]
  | float precision =>
      cases precision with
      | single =>
          obtain ⟨number, -, rfl⟩ := Option.map_eq_some_iff.mp narrows
          simp [Ty.accepts]
      | double =>
          obtain ⟨number, -, rfl⟩ := Option.map_eq_some_iff.mp narrows
          simp [Ty.accepts]
  | char =>
      obtain ⟨character, -, rfl⟩ := Option.map_eq_some_iff.mp narrows
      rfl
  | string =>
      cases value with
      | string text =>
          cases narrows
          rfl
      | char character =>
          cases narrows
          rfl
      | _ => cases narrows

theorem narrow_ok_iff {value result : Value} {target : Ty} :
    (value.narrow target).outcome = .ok result ↔ value.narrow? target = some result := by
  rw [narrow]
  cases value.narrow? target <;> simp

/-- A list is coerced item by item, in order. -/
theorem coerceAll_ok {element : Ty} {items results : List Value}
    (coerced : (coerceAll element items).outcome = .ok results) :
    List.Forall₂ (fun item result => (coerce element item).outcome = .ok result) items results := by
  induction items generalizing results with
  | nil =>
      cases coerced
      exact .nil
  | cons item items ih =>
      rw [coerceAll, Coercion.outcome_andThen] at coerced
      obtain ⟨result, first, coerced⟩ := ok_of_bind coerced
      obtain ⟨others, rest, rfl⟩ := ok_of_map coerced
      exact .cons first (ih rest)

/-- The induction is on the target: below an array the element type is all that is
left of it. -/
theorem coerce_accepted {target : Ty} {value result : Value}
    (coerced : (value.coerce target).outcome = .ok result) : target.accepts result = true := by
  induction target generalizing value result with
  | array element ih =>
      cases value with
      | null =>
          cases coerced
          exact Ty.accepts_zero _
      | array items =>
          obtain ⟨results, listed, rfl⟩ := ok_of_map coerced
          have accepted := (coerceAll_ok listed).flip.imp fun _ _ first =>
            And.intro (ih first) first
          exact Ty.accepts_array_iff.mpr ((List.forall₂_and_left results items).mp accepted).1
      | _ => exact narrow?_accepted (narrow_ok_iff.mp coerced)
  | void => cases value <;> (cases coerced; rfl)
  | _ =>
      cases value with
      | null =>
          cases coerced
          exact Ty.accepts_zero _
      | _ => exact narrow?_accepted (narrow_ok_iff.mp coerced)

end Value

end Interception.Native
