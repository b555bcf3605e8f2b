import Interception.Failure
import Interception.Overrides
import Interception.Settings.Basic

/-!
# Proxies

The part of a proxy that the host sees: its class, the host object that callbacks
run against, and the override mapping, which is assigned at most once. An
override mapping can also be checked beforehand against a list of final methods.
-/

set_option autoImplicit false

namespace Interception

structure Proxy where
  className : String
  hostObject : Host.ObjectId
  overrides : Option OverrideMap

/-- The proxy with its override mapping assigned. A second assignment is refused. -/
def Proxy.assign (proxy : Proxy) (overrides : OverrideMap) : Except Failure Proxy :=
  match proxy.overrides with
  | none => .ok { proxy with overrides := some overrides }
  | some _ => .error .overridesAlreadySet

/-- Checks a mapping against the final methods of a class. Rejection fails at the
first of them that has a callback; otherwise the result lists, once for each
occurrence, the methods whose callback is never going to be called. -/
def OverrideMap.validate (overrides : OverrideMap) (policy : FinalPolicy) :
    List String → Except Failure (List String)
  | [] => .ok []
  | method :: rest =>
      match policy, overrides.callback? method with
      | .dispatch, _ => .ok []
      | _, none => overrides.validate policy rest
      | .reject, some _ => .error (.finalMethod method)
      | .ignore, some _ => (overrides.validate policy rest).map (method :: ·)

end Interception
