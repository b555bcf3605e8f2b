import Interception.World.Registry

/-!
# Worlds

Everything that host code and intercepted calls share: the callback registry, the
count of callbacks that were started, the proxies and handlers in existence, the
state of the host, and the trace. Proxies and handlers are never removed.
-/

set_option autoImplicit false

namespace Interception

structure World (σ : Type) where
  registry : Registry σ := {}
  /-- Callbacks started so far, modulo the size of the counter. -/
  invocations : UInt64 := 0
  proxies : List Proxy := []
  handlers : List (Handler σ) := []
  premises : Premises σ

/-- Computations on a world. There is no outcome where the depth of calls exceeds
what is allowed, or where a reference names nothing. -/
abbrev Run (σ : Type) := StateT (World σ) Option

namespace World

variable {σ : Type}

def onPremises {α : Type} (conversion : Conversion σ α) : Run σ α := fun world =>
  let (result, premises) := conversion world.premises
  some (result, { world with premises })

instance : Reporting (Run σ) where
  report event := onPremises (Reporting.report event)
  enter method := onPremises (Reporting.enter method)
  close := onPremises Reporting.close

def proxy? (world : World σ) (proxy : ProxyRef) : Option Proxy :=
  world.proxies[proxy.index]?

def handler? (world : World σ) (handler : HandlerRef) : Option (Handler σ) :=
  world.handlers[handler.index]?

def boundProxy? (world : World σ) (handler : Handler σ) : Option Proxy :=
  handler.proxy.bind world.proxy?

def register (body : Callback σ) : Run σ Host.Handle := do
  let handle := (← get).registry.nextHandle
  modify fun world => { world with registry := world.registry.register body }
  Reporting.report (.callbackRegistered handle)
  pure handle

def unregister (handle : Host.Handle) : Run σ Bool := fun world =>
  some (world.registry.contains handle,
    { world with registry := world.registry.unregister handle })

def newProxy (proxy : Proxy) : Run σ ProxyRef := fun world =>
  some (⟨world.proxies.length⟩, { world with proxies := world.proxies ++ [proxy] })

def newHandler (handler : Handler σ) : Run σ HandlerRef := fun world =>
  some (⟨world.handlers.length⟩, { world with handlers := world.handlers ++ [handler] })

/-- Assigns the override mapping of a proxy. A refusal changes nothing. -/
def setOverrides (reference : ProxyRef) (overrides : OverrideMap) :
    Run σ (Except Failure Unit) := fun world => do
  let proxy ← world.proxy? reference
  match proxy.assign overrides with
  | .ok assigned =>
      some (.ok (), { world with proxies := world.proxies.set reference.index assigned })
  | .error failure => some (.error failure, world)

def bind (reference : HandlerRef) (proxyRef : ProxyRef) : Run σ Unit := do
  let world ← get
  let handler ← world.handler? reference
  let proxy ← world.proxy? proxyRef
  set { world with
    handlers := world.handlers.set reference.index { handler with proxy := some proxyRef } }
  Reporting.report (.bound proxy.className handler.proxy.isSome)

def validate (overrides : OverrideMap) (policy : FinalPolicy) (methods : List String) :
    Run σ (Except Failure Unit) := do
  match overrides.validate policy methods with
  | .error failure => pure (.error failure)
  | .ok ignored =>
      ignored.forM fun method => Reporting.report (.overrideIgnored method)
      pure (.ok ())

end World

end Interception
