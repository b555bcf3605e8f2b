import Interception.Session.Script

/-!
# Desks

The state that a script keeps on the host side: declared instances, named slots,
and the journal of what was called while the current step ran.
-/

set_option autoImplicit false

namespace Interception.Session

inductive Record where
  | callback (handle : Host.Handle) (context : Host.ObjectId) (arguments : List Host.Value)
  | marshaler (step : String)

structure Desk (ρ : Type) where
  directory : Directory := {}
  maps : List (String × OverrideMap) := []
  proxies : List (String × ProxyRef) := []
  handlers : List (String × HandlerRef) := []
  /-- Records of the current step in order. -/
  journal : List Record := []
  /-- The answer of the current step, once there is one. -/
  answer : Option (Answer ρ) := none

namespace Desk

variable {ρ : Type}

def note (record : Record) (desk : Desk ρ) : Desk ρ :=
  { desk with journal := desk.journal ++ [record] }

end Desk

section

variable {ρ : Type}

def observing {α : Type} (step : String) (rest : Conversion (Desk ρ) α) :
    Conversion (Desk ρ) α := do
  modify fun premises => { premises with state := premises.state.note (.marshaler step) }
  rest

/-- The marshaler that leaves a record of each step before it takes it. -/
def journaled (marshaler : Marshaler (Conversion (Desk ρ))) :
    Marshaler (Conversion (Desk ρ)) where
  wrapArguments parameters arguments :=
    observing "wrap_arguments" (marshaler.wrapArguments parameters arguments)
  unwrap value := observing "unwrap" (marshaler.unwrap value)
  coerce value target := observing "coerce" (marshaler.coerce value target)

/-- A host value with the ASCII letters of a text in upper case. Texts inside of
arrays stay as they are. -/
def upperCased : Host.Value → Host.Value
  | .string value => .string (value.map Char.toUpper)
  | value => value

def MarshalerChoice.marshaler : MarshalerChoice → Marshaler (Conversion (Desk ρ))
  | .standard => .standard
  | .observed => journaled .standard
  | .uppercasing =>
      journaled { Marshaler.standard with
        unwrap := fun value => Marshaler.standard.unwrap (upperCased value) }
  | .lenient =>
      journaled { Marshaler.standard with
        wrapArguments := fun _ arguments => pure (.ok (arguments.map Native.Value.toHost)) }

end

end Interception.Session
