import Interception.Failure

/-!
# Steps that can fail

What is known of the steps of a conversion whose end is known.
-/

set_option autoImplicit false

namespace Interception

variable {α β : Type} {failure : Failure}

theorem ok_of_bind {first : Except Failure α} {next : α → Except Failure β} {result : β}
    (done : first.bind next = .ok result) :
    ∃ value, first = .ok value ∧ next value = .ok result := by
  cases first with
  | error cause => cases done
  | ok value => exact ⟨value, rfl, done⟩

theorem ok_of_map {first : Except Failure α} {change : α → β} {result : β}
    (done : first.map change = .ok result) :
    ∃ value, first = .ok value ∧ change value = result := by
  cases first with
  | error cause => cases done
  | ok value => exact ⟨value, rfl, Except.ok.inj done⟩

theorem error_of_bind {first : Except Failure α} {next : α → Except Failure β}
    (failed : first.bind next = .error failure) :
    first = .error failure ∨ ∃ value, first = .ok value ∧ next value = .error failure := by
  cases first with
  | error cause =>
      cases failed
      exact .inl rfl
  | ok value => exact .inr ⟨value, rfl, failed⟩

theorem error_of_map {first : Except Failure α} {change : α → β}
    (failed : first.map change = .error failure) : first = .error failure := by
  cases first with
  | error cause =>
      cases failed
      rfl
  | ok value => cases failed

end Interception
