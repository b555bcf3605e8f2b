import Interception.Host.Value
import Interception.Native.Value
import Interception.Settings.Problem

/-!
# Failures

What reaches the native caller instead of a value. A call that is not
intercepted is no failure: it has the default result.
-/

set_option autoImplicit false

namespace Interception

inductive Failure where
  /-- An argument is not accepted by its declared type. -/
  | marshal (index : Nat) (expected : Native.Ty) (found : Kind)
  /-- A value has no counterpart in the target. Of a declared type only its
  written form is kept. -/
  | unmarshal (found : Kind) (target : String)
  | arity (expected found : Nat)
  | callback (handle : Host.Handle) (text : String)
  | unknownCallback (handle : Host.Handle)
  | finalMethod (method : String)
  | overridesAlreadySet
  | configuration (problem : ConfigurationProblem)
  deriving Repr

namespace Failure

/-- Short name of the cause, the same for all failures of one constructor. -/
def kind : Failure → String
  | .marshal .. => "marshal"
  | .unmarshal .. => "unmarshal"
  | .arity .. => "arity"
  | .callback .. => "callback"
  | .unknownCallback _ => "unknown_callback"
  | .finalMethod _ => "final_method"
  | .overridesAlreadySet => "overrides_already_set"
  | .configuration _ => "config"

def message : Failure → String
  | .marshal index expected found =>
      "cannot marshal argument " ++ index.repr ++ ": expected " ++ expected.name ++
        ", found " ++ found.name
  | .unmarshal found target => "cannot unmarshal " ++ found.name ++ " into " ++ target
  | .arity expected found =>
      "expected " ++ expected.repr ++ " arguments, found " ++ found.repr
  | .callback handle text => "callback " ++ handle.name ++ " failed: " ++ text
  | .unknownCallback handle => "no callback registered for " ++ handle.name
  | .finalMethod method => "method '" ++ method ++ "' is final and cannot be overridden"
  | .overridesAlreadySet => "override mapping already set for this proxy"
  | .configuration problem => "configuration error: " ++ problem.message

end Failure

end Interception
