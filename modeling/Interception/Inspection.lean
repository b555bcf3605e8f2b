import Interception.Number.Shortest
import Interception.Proxy
import Interception.Text.Quoted

/-!
# Inspection texts

How a handler, its proxy and its settings show themselves to a developer: names
of fields and variants as they are declared, texts in quotes, numbers in their
shortest form. Wrapped instances show no address.
-/

set_option autoImplicit false

namespace Interception.Inspection

def applied (name content : String) : String :=
  name ++ "(" ++ content ++ ")"

def record (name : String) (fields : List String) : String :=
  name ++ " \x7b " ++ String.intercalate ", " fields ++ " \x7d"

def field (name content : String) : String :=
  name ++ ": " ++ content

def handle (handle : Host.Handle) : String :=
  applied "CallbackHandle" handle.raw.toNat.repr

def objectId (id : Host.ObjectId) : String :=
  applied "HostObjectId" id.raw.toNat.repr

def flag (value : Bool) : String :=
  if value then "true" else "false"

mutual

def value : Host.Value → String
  | .undefined => "Undefined"
  | .null => "Null"
  | .boolean truth => applied "Bool" (flag truth)
  | .number number => applied "Number" number.text
  | .bigint integer => applied "BigInt" integer.toInt.repr
  | .string text => applied "String" (Text.quoted text)
  | .array items => applied "Array" ("[" ++ String.intercalate ", " (values items) ++ "]")
  | .callback callback => applied "Callback" (handle callback)
  | .object id => applied "Object" (objectId id)
  | .wrapped reference => applied "Wrapped" (reference.label ++ ")")

def values : List Host.Value → List String
  | [] => []
  | item :: items => value item :: values items

end

def override : Override → String
  | .callback callback => applied "Callback" (handle callback)
  | .other other => applied "Other" (value other)

def overrides (overrides : OverrideMap) : String :=
  let entries := overrides.entries.map fun (method, entry) =>
    field (Text.quoted method) (override entry)
  record "OverrideMap"
    [field "entries" ("\x7b" ++ String.intercalate ", " entries ++ "\x7d")]

def proxy (proxy : Proxy) : String :=
  record "ProxyInstance"
    [field "class_name" (Text.quoted proxy.className),
     field "host_object" (objectId proxy.hostObject),
     field "overrides" (applied "OnceCell"
      (match proxy.overrides with
        | none => "Uninit"
        | some assigned => overrides assigned))]

def finalPolicy : FinalPolicy → String
  | .dispatch => "Dispatch"
  | .ignore => "Ignore"
  | .reject => "Reject"

def defaultResult : DefaultResult → String
  | .null => "Null"
  | .typeDefault => "TypeDefault"

def settings (settings : Settings) : String :=
  record "BridgeConfig"
    [field "final_methods" (finalPolicy settings.finalMethods),
     field "default_result" (defaultResult settings.defaultResult),
     field "coerce_returns" (flag settings.coerceReturns)]

/-- A handler. What it holds besides proxy and settings is not shown. -/
def handler (configured : Settings) (bound : Option Proxy) : String :=
  record "InvocationHandler"
    [field "proxy"
      (match bound with
        | none => "None"
        | some shown => applied "Some" (proxy shown)),
     field "config" (settings configured), ".."]

end Interception.Inspection
