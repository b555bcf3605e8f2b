import Interception.Conversion.Coercion
import Interception.Failure

/-!
# Events

What is reported while calls are intercepted. An event has a level, the area of
the library it belongs to, and named fields.
-/

set_option autoImplicit false

namespace Interception

inductive Level where
  | trace
  | debug
  | info
  | warn
  | error
  deriving DecidableEq, Repr

namespace Level

def name : Level → String
  | .trace => "TRACE"
  | .debug => "DEBUG"
  | .info => "INFO"
  | .warn => "WARN"
  | .error => "ERROR"

/-- Larger is more severe. -/
def severity : Level → Nat
  | .trace => 1
  | .debug => 2
  | .info => 3
  | .warn => 4
  | .error => 5

end Level

inductive Reason where
  | unbound
  | noOverrides
  | noOverride
  | notCallback
  | finalMethod
  deriving DecidableEq, Repr

def Reason.name : Reason → String
  | .unbound => "unbound"
  | .noOverrides => "no_overrides"
  | .noOverride => "no_override"
  | .notCallback => "not_callback"
  | .finalMethod => "final_method"

inductive Event where
  | callbackRegistered (handle : Host.Handle)
  | unintercepted (method : String) (reason : Reason)
  | bound (className : String) (replaced : Bool)
  | dispatched (method : String) (handle : Host.Handle) (arguments : Nat)
  | converting (visit : Visit)
  | completed (operation : String)
  | failed (method : String) (failure : Failure)
  | overrideIgnored (method : String)
  deriving Repr

inductive FieldValue where
  | text (value : String)
  | count (value : Nat)
  | flag (value : Bool)
  deriving DecidableEq, Repr

namespace Event

def level : Event → Level
  | .callbackRegistered _ => .trace
  | .unintercepted .. => .trace
  | .bound .. => .debug
  | .dispatched .. => .debug
  | .converting _ => .trace
  | .completed _ => .debug
  | .failed .. => .warn
  | .overrideIgnored _ => .warn

def area : Event → String
  | .callbackRegistered _ => "proxy_bridge::interop::environment"
  | .overrideIgnored _ => "proxy_bridge::interop::proxy"
  | .completed _ => "proxy_bridge::logging::perf"
  | .unintercepted .. | .bound .. | .dispatched .. | .converting _ | .failed .. =>
      "proxy_bridge::logging"

def name? : Event → Option String
  | .callbackRegistered _ => some "callback_registered"
  | .unintercepted .. => some "unintercepted"
  | .bound .. => some "bind"
  | .dispatched .. => some "dispatch"
  | .converting _ => some "type_conversion"
  | .failed .. => some "failure"
  | .completed _ | .overrideIgnored _ => none

def message? : Event → Option String
  | .callbackRegistered _ => none
  | .unintercepted .. => some "call not intercepted"
  | .bound .. => some "proxy bound to invocation handler"
  | .dispatched .. => some "forwarding call to host callback"
  | .converting _ => some "coercing return value"
  | .completed _ => some "operation completed"
  | .failed .. => some "intercepted call failed"
  | .overrideIgnored _ => some "override for final method will be ignored"

def details : Event → List (String × FieldValue)
  | .callbackRegistered handle => [("callback", .text handle.name)]
  | .unintercepted method reason => [("method", .text method), ("reason", .text reason.name)]
  | .bound className replaced => [("class", .text className), ("replaced", .flag replaced)]
  | .dispatched method handle arguments =>
      [("method", .text method), ("callback", .text handle.name), ("args", .count arguments)]
  | .converting visit =>
      [("from", .text visit.found.name), ("to", .text visit.target.name)]
  | .completed operation => [("operation", .text operation)]
  | .failed method failure =>
      [("method", .text method), ("kind", .text failure.kind), ("error", .text failure.message)]
  | .overrideIgnored method => [("method", .text method)]

def fields (event : Event) : List (String × FieldValue) :=
  (event.message?.map fun message => ("message", .text message)).toList ++
    (event.name?.map fun name => ("event", .text name)).toList ++ event.details

/-- Names of the fields of an event. The end of an operation has one more than it
shows: the time that it took. -/
def fieldNames (event : Event) : List String :=
  event.fields.map Prod.fst ++
    match event with
    | .completed _ => ["duration_us"]
    | _ => []

end Event

end Interception
