import Interception.Proofs.Invocation.Protocol

/-!
# Calls that are dispatched

A call is dispatched to a callback when it has the outcome of forwarding it there,
whatever its collaborators do. That is so exactly for a call that is routed there: which
callback a call has reached can be told by the callback environment.
-/

set_option autoImplicit false

namespace Interception

/-- With any collaborators the call is forwarded to the callback, which is run against the
host object of the proxy. -/
def Dispatches (settings : Settings) (proxy : Proxy) (call : Native.Call)
    (handle : Host.Handle) : Prop :=
  ∀ {m : Type → Type} [Monad m] [Reporting m] (marshaler : Marshaler m)
    (environment : CallbackEnvironment m),
    intercept marshaler environment settings (some proxy) call = do
      Reporting.enter call.method
      let outcome ← dispatch marshaler environment settings handle proxy.hostObject call
      Reporting.close
      pure outcome

/-! ## Callbacks that are run -/

/-- Computations that list the callbacks they run. -/
abbrev Running := StateM (List Host.Handle)

instance : Reporting Running where
  report _ := pure ()
  enter _ := pure ()
  close := pure ()

/-- Every conversion has a result. -/
def Marshaler.ready : Marshaler Running where
  wrapArguments _ _ := pure (.ok [])
  unwrap _ := pure (.ok .null)
  coerce _ _ := pure (.ok .null)

def CallbackEnvironment.listing : CallbackEnvironment Running where
  call handle _ _ := do
    modify (· ++ [handle])
    pure (.ok .null)

theorem listed_dispatch (settings : Settings) (handle : Host.Handle) (context : Host.ObjectId)
    (call : Native.Call) :
    (dispatch .ready .listing settings handle context call []).2 = [handle] := by
  rw [dispatch, forward]
  cases call.returns with
  | none => rfl
  | some target => cases settings.coerceReturns <;> rfl

/-- The callbacks that a call runs are told by its route. -/
theorem listed_intercept (settings : Settings) (proxy : Option Proxy) (call : Native.Call) :
    (intercept .ready .listing settings proxy call []).2 =
      match settings.route proxy call with
      | .dispatched handle _ => [handle]
      | _ => [] := by
  show (follow .ready .listing settings call (settings.route proxy call) []).2 = _
  cases settings.route proxy call with
  | unintercepted reason => rfl
  | rejected => rfl
  | dispatched handle context => exact listed_dispatch settings handle context call

theorem dispatches_iff_routed {settings : Settings} {proxy : Proxy} {call : Native.Call}
    {handle : Host.Handle} :
    Dispatches settings proxy call handle ↔
      settings.route (some proxy) call = .dispatched handle proxy.hostObject := by
  constructor
  · intro dispatches
    have listed : (intercept .ready .listing settings (some proxy) call []).2 = [handle] := by
      rw [dispatches]
      exact listed_dispatch settings handle proxy.hostObject call
    rw [listed_intercept] at listed
    cases routed : settings.route (some proxy) call with
    | unintercepted reason => simp [routed] at listed
    | rejected => simp [routed] at listed
    | dispatched found context =>
        rw [routed] at listed
        obtain ⟨bound, overrides, same, -, -, rfl⟩ := (Settings.route_eq_dispatched_iff.mp routed).1
        cases same
        cases listed
        rfl
  · intro routed m _ _ marshaler environment
    rw [intercept, routed]
    rfl

/-- The callback of a call is the one under its name, unless the policy for final methods
holds the call back. -/
theorem dispatches_iff {settings : Settings} {proxy : Proxy} {overrides : OverrideMap}
    {call : Native.Call} {handle : Host.Handle} (assigned : proxy.overrides = some overrides) :
    Dispatches settings proxy call handle ↔
      overrides.callback? call.method = some handle ∧
        (call.isFinal = true → settings.finalMethods = .dispatch) := by
  rw [dispatches_iff_routed, Settings.route_eq_dispatched_iff, OverrideMap.callback?_eq_some_iff]
  refine and_congr_left' ?_
  constructor
  · intro overridden
    obtain ⟨bound, found, same, held, entry, -⟩ := overridden
    cases same
    cases assigned.symm.trans held
    exact entry
  · intro entry
    exact ⟨proxy, overrides, rfl, assigned, entry, rfl⟩

end Interception
