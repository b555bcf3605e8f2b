import Interception.Invocation

/-!
# Interception in another kind of computation

Interception asks nothing of the computations it runs in beyond sequence and
reports. A way from one kind of computation to another that keeps both therefore
carries an intercepted call to the same call with carried collaborators.
-/

set_option autoImplicit false

namespace Interception

/-- The environment whose calls are carried into another kind of computation. -/
def CallbackEnvironment.lift {m n : Type → Type} (carry : {α : Type} → m α → n α)
    (environment : CallbackEnvironment m) : CallbackEnvironment n where
  call handle context arguments := carry (environment.call handle context arguments)

/-- A way between two kinds of computation that keeps sequence, reports and spans. -/
structure Transport (m n : Type → Type) [Monad m] [Monad n] [Reporting m] [Reporting n] where
  carry : {α : Type} → m α → n α
  carry_pure : ∀ {α : Type} (value : α), carry (pure value) = pure value
  carry_map : ∀ {α β : Type} (change : α → β) (computation : m α),
    carry (change <$> computation) = change <$> carry computation
  carry_bind : ∀ {α β : Type} (first : m α) (next : α → m β),
    carry (first >>= next) = carry first >>= fun value => carry (next value)
  carry_report : ∀ event, carry (Reporting.report event) = Reporting.report event
  carry_enter : ∀ method, carry (Reporting.enter method) = Reporting.enter method
  carry_close : carry Reporting.close = Reporting.close

namespace Transport

variable {m n : Type → Type} [Monad m] [Monad n] [Reporting m] [Reporting n]
  (transport : Transport m n)

private theorem carry_forward (marshaler : Marshaler m) (environment : CallbackEnvironment m)
    (settings : Settings) (handle : Host.Handle) (context : Host.ObjectId) (call : Native.Call) :
    transport.carry (forward marshaler environment settings handle context call).run =
      (forward (marshaler.lift transport.carry) (environment.lift transport.carry)
        settings handle context call).run := by
  simp only [forward, ExceptT.run_bind, transport.carry_bind, ExceptT.run_mk, Marshaler.lift,
    CallbackEnvironment.lift]
  congr 1
  funext wrapped
  cases wrapped with
  | error failure => simp only [transport.carry_pure]
  | ok arguments =>
      simp only [transport.carry_bind, ExceptT.run_lift, transport.carry_map,
        transport.carry_report]
      congr 1
      funext reported
      cases reported with
      | error failure => simp only [transport.carry_pure]
      | ok =>
          simp only [transport.carry_bind]
          congr 1
          funext reply
          cases reply with
          | error failure => simp only [transport.carry_pure]
          | ok answer =>
              simp only [transport.carry_bind]
              congr 1
              funext unwrapped
              cases unwrapped with
              | error failure => simp only [transport.carry_pure]
              | ok value =>
                  cases call.returns with
                  | none => simp only [ExceptT.run_pure, transport.carry_pure]
                  | some returns =>
                      cases settings.coerceReturns <;>
                        simp only [reduceIte, Bool.false_eq_true, ExceptT.run_pure,
                          ExceptT.run_mk, transport.carry_pure]

private theorem carry_dispatch (marshaler : Marshaler m) (environment : CallbackEnvironment m)
    (settings : Settings) (handle : Host.Handle) (context : Host.ObjectId) (call : Native.Call) :
    transport.carry (dispatch marshaler environment settings handle context call) =
      dispatch (marshaler.lift transport.carry) (environment.lift transport.carry)
        settings handle context call := by
  simp only [dispatch, transport.carry_bind, transport.carry_report, carry_forward]
  congr 1
  funext outcome
  congr 1
  funext _
  cases outcome <;>
    simp only [transport.carry_bind, transport.carry_report, transport.carry_pure]

theorem carry_intercept (marshaler : Marshaler m) (environment : CallbackEnvironment m)
    (settings : Settings) (proxy : Option Proxy) (call : Native.Call) :
    transport.carry (intercept marshaler environment settings proxy call) =
      intercept (marshaler.lift transport.carry) (environment.lift transport.carry)
        settings proxy call := by
  simp only [intercept, transport.carry_bind, transport.carry_enter, transport.carry_close,
    transport.carry_pure]
  congr 1
  funext _
  congr 1
  cases settings.route proxy call with
  | unintercepted reason =>
      simp only [follow, transport.carry_bind, transport.carry_report, transport.carry_pure]
  | rejected =>
      simp only [follow, transport.carry_bind, transport.carry_report, transport.carry_pure]
  | dispatched handle context => exact transport.carry_dispatch ..

theorem carry_reportAll {α : Type} (items : List α) (event : α → Event) :
    transport.carry (forM items fun item => Reporting.report (event item)) =
      (forM items fun item => Reporting.report (event item) : n PUnit) := by
  induction items with
  | nil => exact transport.carry_pure _
  | cons item items ih =>
      simp only [List.forM_cons, transport.carry_bind, transport.carry_report, ih]

theorem carry_reportCoercion (value : Native.Value) (target : Native.Ty) :
    transport.carry (reportCoercion value target) = reportCoercion value target := by
  simp only [reportCoercion, List.forM_eq_forM, transport.carry_bind, transport.carry_pure,
    carry_reportAll]

/-- The standard marshaler is the standard marshaler of every kind of computation. -/
theorem lift_standard : (Marshaler.standard : Marshaler m).lift transport.carry =
    Marshaler.standard := by
  simp only [Marshaler.lift, Marshaler.standard, transport.carry_pure, carry_reportCoercion]

end Transport

end Interception
