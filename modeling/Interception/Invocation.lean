import Interception.Marshaler
import Interception.Native.Call
import Interception.Proxy

/-!
# Invocation

An intercepted call is first routed by what the proxy overrides: to a callback, to
the default result, or to a refusal. Only a call routed to a callback reaches the
marshaler and the callback environment.
-/

set_option autoImplicit false

namespace Interception

inductive Route where
  | unintercepted (reason : Reason)
  | rejected
  | dispatched (handle : Host.Handle) (context : Host.ObjectId)
  deriving DecidableEq, Repr

/-- Routes a call by the proxy that is bound at this moment. Arguments and types
play no part. A call of a final method is blocked only where it would otherwise
be dispatched. -/
def Settings.route (settings : Settings) (proxy : Option Proxy) (call : Native.Call) : Route :=
  match proxy with
  | none => .unintercepted .unbound
  | some proxy =>
      match proxy.overrides with
      | none => .unintercepted .noOverrides
      | some overrides =>
          match overrides.get? call.method with
          | none => .unintercepted .noOverride
          | some (.other _) => .unintercepted .notCallback
          | some (.callback handle) =>
              match call.isFinal, settings.finalMethods with
              | true, .ignore => .unintercepted .finalMethod
              | true, .reject => .rejected
              | _, _ => .dispatched handle proxy.hostObject

/-- The result of a call that is not intercepted. -/
def Settings.defaultFor (settings : Settings) (call : Native.Call) : Native.Value :=
  match settings.defaultResult, call.returns with
  | .typeDefault, some returns => returns.zero
  | _, _ => .null

section

variable {m : Type → Type} [Monad m] [Reporting m]

/-- Forwards a call to a callback. A failure of one step is the failure of the
call, and no further step is taken. -/
def forward (marshaler : Marshaler m) (environment : CallbackEnvironment m)
    (settings : Settings) (handle : Host.Handle) (context : Host.ObjectId)
    (call : Native.Call) : ExceptT Failure m Native.Value := do
  let arguments ← ExceptT.mk (marshaler.wrapArguments call.parameters call.arguments)
  ExceptT.lift (Reporting.report (.dispatched call.method handle arguments.length))
  let answer ← ExceptT.mk (environment.call handle context arguments)
  let value ← ExceptT.mk (marshaler.unwrap answer)
  match call.returns with
  | some returns =>
      if settings.coerceReturns then ExceptT.mk (marshaler.coerce value returns)
      else pure value
  | none => pure value

def dispatch (marshaler : Marshaler m) (environment : CallbackEnvironment m)
    (settings : Settings) (handle : Host.Handle) (context : Host.ObjectId)
    (call : Native.Call) : m (Except Failure Native.Value) := do
  let outcome ← (forward marshaler environment settings handle context call).run
  Reporting.report (.completed call.method)
  if let .error failure := outcome then
    Reporting.report (.failed call.method failure)
  pure outcome

def follow (marshaler : Marshaler m) (environment : CallbackEnvironment m)
    (settings : Settings) (call : Native.Call) :
    Route → m (Except Failure Native.Value)
  | .unintercepted reason => do
      Reporting.report (.unintercepted call.method reason)
      pure (.ok (settings.defaultFor call))
  | .rejected => do
      let failure := Failure.finalMethod call.method
      Reporting.report (.failed call.method failure)
      pure (.error failure)
  | .dispatched handle context =>
      dispatch marshaler environment settings handle context call

/-- Intercepts a call below a span of its own. The proxy is the one bound when the
call arrives; what happens to the binding later does not matter to the call. -/
def intercept (marshaler : Marshaler m) (environment : CallbackEnvironment m)
    (settings : Settings) (proxy : Option Proxy) (call : Native.Call) :
    m (Except Failure Native.Value) := do
  Reporting.enter call.method
  let outcome ← follow marshaler environment settings call (settings.route proxy call)
  Reporting.close
  pure outcome

end

end Interception
