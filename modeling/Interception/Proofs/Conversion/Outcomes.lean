import Interception.Conversion.Coercion
import Interception.Proofs.Conversion.Arguments
import Interception.Proofs.Conversion.Foreign
import Interception.Proofs.Conversion.Steps

/-!
# Outcomes of conversions

Arguments are marshaled as a whole or not at all. Each conversion fails for causes
of its own: marshaling by the number or by the type of arguments, and the way back,
to native values and on to a declared type, by a value without counterpart.
-/

set_option autoImplicit false

namespace Interception

namespace Native.Value

theorem marshalAll_error {parameters : List Ty} {arguments : List Value} {failure : Failure}
    (failed : marshalAll parameters arguments = .error failure) :
    failure = .arity parameters.length arguments.length ∨
      ∃ position declared found, failure = .marshal position declared found := by
  rcases marshalAll_cases parameters arguments with
    ⟨-, known⟩ | ⟨-, ⟨-, known⟩ | ⟨index, declared, value, -, known⟩⟩
  · rw [known] at failed
    cases failed
    exact .inl rfl
  · rw [known] at failed
    cases failed
  · rw [known] at failed
    cases failed
    exact .inr ⟨index, declared, value.kind, rfl⟩

theorem marshalAll_ok_at {parameters : List Ty} {arguments : List Value}
    {hosts : List Host.Value} (marshaled : marshalAll parameters arguments = .ok hosts)
    {index : Nat} {declared : Ty} {value : Value} (parameter : parameters[index]? = some declared)
    (argument : arguments[index]? = some value) :
    declared.accepts value = true ∧ hosts[index]? = some value.toHost := by
  rcases marshalAll_cases parameters arguments with
    ⟨-, known⟩ | ⟨-, ⟨accepted, known⟩ | ⟨_, _, _, -, known⟩⟩
  · rw [known] at marshaled
    cases marshaled
  · rw [known] at marshaled
    cases marshaled
    refine ⟨accepted index declared value parameter argument, ?_⟩
    rw [List.getElem?_map, argument]
    rfl
  · rw [known] at marshaled
    cases marshaled

end Native.Value

theorem Host.Value.toNative_error {failure : Failure} (value : Host.Value)
    (failed : value.toNative = .error failure) :
    ∃ found, failure = .unmarshal found nativeTarget := by
  obtain ⟨-, native, converted⟩ | ⟨position, kind, -, refused⟩ := value.toNative_cases
  · rw [converted] at failed
    cases failed
  · rw [refused] at failed
    cases failed
    exact ⟨kind, rfl⟩

namespace Native.Value

theorem narrow_error {value : Value} {target : Ty} {failure : Failure}
    (failed : (value.narrow target).outcome = .error failure) :
    failure = .unmarshal value.kind target.name := by
  simp only [narrow] at failed
  split at failed
  · cases failed
  · cases failed
    rfl

theorem coerceAll_error {element : Ty} {items : List Value} {failure : Failure}
    (failed : (coerceAll element items).outcome = .error failure) :
    ∃ item ∈ items, (coerce element item).outcome = .error failure := by
  induction items with
  | nil => cases failed
  | cons item items ih =>
      rw [coerceAll, Coercion.outcome_andThen] at failed
      obtain first | ⟨native, -, failed⟩ := error_of_bind failed
      · exact ⟨item, List.mem_cons_self, first⟩
      · obtain ⟨misfit, member, refused⟩ := ih (error_of_map failed)
        exact ⟨misfit, List.mem_cons_of_mem _ member, refused⟩

/-- The induction is on the target, which gets smaller wherever a value is taken
apart. -/
theorem coerce_error {target : Ty} {value : Value} {failure : Failure}
    (failed : (value.coerce target).outcome = .error failure) :
    ∃ found declared, failure = .unmarshal found declared := by
  induction target generalizing value with
  | array element ih =>
      cases value with
      | array items =>
          obtain ⟨item, -, refused⟩ := coerceAll_error (error_of_map failed)
          exact ih refused
      | null => cases failed
      | _ => exact ⟨_, _, narrow_error failed⟩
  | void => cases value <;> cases failed
  | _ =>
      cases value with
      | null => cases failed
      | _ => exact ⟨_, _, narrow_error failed⟩

end Native.Value

end Interception
