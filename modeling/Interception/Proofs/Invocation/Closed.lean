import Interception.Invocation

/-!
# Closed properties of computations

A property of computations that holds where nothing happens, where something is
reported, and of what is put together from computations with the property. A call
has such a property if its collaborators do.
-/

set_option autoImplicit false

namespace Interception

variable {m : Type → Type} [Monad m] [Reporting m]

structure Closed (property : {α : Type} → m α → Prop) : Prop where
  pure {α : Type} (value : α) : property (Pure.pure value : m α)
  map {α β : Type} (change : α → β) {computation : m α} (holds : property computation) :
    property (change <$> computation)
  bind {α β : Type} {first : m α} {next : α → m β} (holds : property first)
    (goesOn : ∀ value, property (next value)) : property (first >>= next)
  report (event : Event) : property (Reporting.report event : m Unit)
  enter (method : String) : property (Reporting.enter method : m Unit)
  close : property (Reporting.close : m Unit)

namespace Closed

variable {property : {α : Type} → m α → Prop} (closed : Closed (m := m) @property)
  {marshaler : Marshaler m} {environment : CallbackEnvironment m}
  (wraps : ∀ parameters arguments, property (marshaler.wrapArguments parameters arguments))
  (unwraps : ∀ value, property (marshaler.unwrap value))
  (coerces : ∀ value target, property (marshaler.coerce value target))
  (answers : ∀ handle context arguments, property (environment.call handle context arguments))

include closed wraps unwraps coerces answers

theorem forward (settings : Settings) (handle : Host.Handle) (context : Host.ObjectId)
    (call : Native.Call) :
    property (Interception.forward marshaler environment settings handle context call).run := by
  refine closed.bind (wraps _ _) ?_
  rintro (failure | arguments)
  · exact closed.pure _
  refine closed.bind (closed.map Except.ok (closed.report _)) ?_
  rintro (failure | _)
  · exact closed.pure _
  refine closed.bind (answers _ _ _) ?_
  rintro (failure | answer)
  · exact closed.pure _
  refine closed.bind (unwraps _) ?_
  rintro (failure | value)
  · exact closed.pure _
  cases call.returns with
  | none => exact closed.pure _
  | some returns =>
      cases enabled : settings.coerceReturns with
      | false => exact closed.pure _
      | true => exact coerces _ _

theorem dispatch (settings : Settings) (handle : Host.Handle) (context : Host.ObjectId)
    (call : Native.Call) :
    property (Interception.dispatch marshaler environment settings handle context call) := by
  refine closed.bind (closed.forward wraps unwraps coerces answers settings handle context call) ?_
  rintro (failure | value)
  · refine closed.bind (closed.report _) fun _ => ?_
    exact closed.bind (closed.report _) fun _ => closed.pure _
  · exact closed.bind (closed.report _) fun _ => closed.pure _

theorem intercept (settings : Settings) (proxy : Option Proxy) (call : Native.Call) :
    property (Interception.intercept marshaler environment settings proxy call) := by
  refine closed.bind (closed.enter _) fun _ => ?_
  refine closed.bind ?_ fun _ => closed.bind closed.close fun _ => closed.pure _
  cases settings.route proxy call with
  | unintercepted reason => exact closed.bind (closed.report _) fun _ => closed.pure _
  | rejected => exact closed.bind (closed.report _) fun _ => closed.pure _
  | dispatched handle context =>
      exact closed.dispatch wraps unwraps coerces answers settings handle context call

end Closed

end Interception
