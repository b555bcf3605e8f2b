import Interception.Conversion.Coercion
import Interception.Conversion.ToHost
import Interception.Conversion.ToNative
import Interception.Log.Trace

/-!
# Collaborators of a call

A dispatched call relies on two parties that can be replaced: a marshaler, which
converts arguments and results, and a callback environment, which runs callbacks.
Nothing is assumed of either. The standard marshaler has the conversion rules of
this library and reports each visit of a coercion.
-/

set_option autoImplicit false

namespace Interception

structure Marshaler (m : Type → Type) where
  wrapArguments : List Native.Ty → List Native.Value → m (Except Failure (List Host.Value))
  unwrap : Host.Value → m (Except Failure Native.Value)
  coerce : Native.Value → Native.Ty → m (Except Failure Native.Value)

structure CallbackEnvironment (m : Type → Type) where
  call : Host.Handle → Host.ObjectId → List Host.Value → m (Except Failure Host.Value)

section

variable {m : Type → Type} [Monad m] [Reporting m]

/-- Coerces and reports the visits in order. -/
def reportCoercion (value : Native.Value) (target : Native.Ty) :
    m (Except Failure Native.Value) := do
  let walk := value.coerce target
  walk.visits.forM fun visit => Reporting.report (.converting visit)
  pure walk.outcome

def Marshaler.standard : Marshaler m where
  wrapArguments parameters arguments := pure (Native.Value.marshalAll parameters arguments)
  unwrap value := pure value.toNative
  coerce value target := reportCoercion value target

end

/-- A marshaler whose steps are carried into another kind of computation. -/
def Marshaler.lift {m n : Type → Type} (carry : {α : Type} → m α → n α)
    (marshaler : Marshaler m) : Marshaler n where
  wrapArguments parameters arguments := carry (marshaler.wrapArguments parameters arguments)
  unwrap value := carry (marshaler.unwrap value)
  coerce value target := carry (marshaler.coerce value target)

end Interception
