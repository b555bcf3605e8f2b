import Interception.Marshaler
import Interception.Native.Call
import Interception.Proxy

/-!
# Host programs

What host code can do: operate on callbacks, proxies and handlers in any order,
each step depending on the answers so far, and keep state of its own. The body
of a callback is such a program, so host code that runs inside a call can do all
that host code outside can, including further calls.

Proxies and handlers are shared: a program holds references to them. Override
mappings are values, so a mapping that was assigned to a proxy is out of reach of
later changes to the one it came from.
-/

set_option autoImplicit false

namespace Interception

structure ProxyRef where
  index : Nat
  deriving DecidableEq, Repr

structure HandlerRef where
  index : Nat
  deriving DecidableEq, Repr

/-- What a marshaler of a handler can touch: the state that the host keeps for
itself, and the trace. -/
structure Premises (σ : Type) where
  state : σ
  trace : Trace := {}

abbrev Conversion (σ : Type) := StateM (Premises σ)

instance {σ : Type} : Reporting (Conversion σ) where
  report event := modify fun premises => { premises with trace := premises.trace.report event }
  enter method := modify fun premises => { premises with trace := premises.trace.enter method }
  close := modify fun premises => { premises with trace := premises.trace.close }

/-- The target of the intercepted calls of one proxy object. It can exist before
its proxy is bound. -/
structure Handler (σ : Type) where
  proxy : Option ProxyRef := none
  settings : Settings := {}
  marshaler : Marshaler (Conversion σ) := Marshaler.standard

/-- One step that host code can take, besides registering a callback. -/
inductive Operation (σ : Type) where
  | unregister (handle : Host.Handle)
  | contains (handle : Host.Handle)
  | callbackCount
  | invocationCount
  /-- Calls a callback through the environment, without a proxy. -/
  | call (handle : Host.Handle) (context : Host.ObjectId) (arguments : List Host.Value)
  | newProxy (proxy : Proxy)
  | setOverrides (proxy : ProxyRef) (overrides : OverrideMap)
  | inspectProxy (proxy : ProxyRef)
  | newHandler (handler : Handler σ)
  | bind (handler : HandlerRef) (proxy : ProxyRef)
  | inspectHandler (handler : HandlerRef)
  | invoke (handler : HandlerRef) (call : Native.Call)
  | coerce (value : Native.Value) (target : Native.Ty)
  | validate (overrides : OverrideMap) (policy : FinalPolicy) (methods : List String)

def Operation.Answer {σ : Type} : Operation σ → Type
  | .unregister _ => Bool
  | .contains _ => Bool
  | .callbackCount => Nat
  | .invocationCount => UInt64
  | .call .. => Except Failure Host.Value
  | .newProxy _ => ProxyRef
  | .setOverrides .. => Except Failure Unit
  | .inspectProxy _ => Proxy
  | .newHandler _ => HandlerRef
  | .bind .. => Unit
  | .inspectHandler _ => Handler σ × Option Proxy
  | .invoke .. => Except Failure Native.Value
  | .coerce .. => Except Failure Native.Value
  | .validate .. => Except Failure Unit

/-- Host code with state of type `σ`. It ends with a value or with a failure text. -/
inductive Program (σ : Type) where
  | done (result : Except String Host.Value)
  | read (next : σ → Program σ)
  | write (state : σ) (next : Program σ)
  /-- Registers a callback. Its body is told its handle, the host object it runs
  against, and its arguments. -/
  | register (body : Host.Handle → Host.ObjectId → List Host.Value → Program σ)
      (next : Host.Handle → Program σ)
  | perform (operation : Operation σ) (next : operation.Answer → Program σ)

abbrev Callback (σ : Type) :=
  Host.Handle → Host.ObjectId → List Host.Value → Program σ

end Interception
