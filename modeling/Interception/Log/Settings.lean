import Interception.Event
import Interception.Settings.Environment

/-!
# Log settings

What is logged, where to, and in which form.
-/

set_option autoImplicit false

namespace Interception

structure LogSettings where
  level : Level := .info
  /-- The log file; the standard error stream where there is none. -/
  path : Option String := none
  json : Bool := false
  showSpans : Bool := false
  deriving DecidableEq, Repr

namespace LogSettings

/-- A level by its name in any case. Blanks around it are not removed, and any
other text stands for `info`. -/
def parseLevel (text : String) : Level :=
  match Text.lowerCased text with
  | "trace" => .trace
  | "debug" => .debug
  | "warn" => .warn
  | "error" => .error
  | _ => .info

def levelVariable : String := "PROXY_BRIDGE_LOG_LEVEL"

def fileVariable : String := "PROXY_BRIDGE_LOG_FILE"

def jsonVariable : String := "PROXY_BRIDGE_LOG_JSON"

def spansVariable : String := "PROXY_BRIDGE_LOG_SPANS"

def ofEnvironment (environment : Variables) : LogSettings where
  level := ((environment.text? levelVariable).map parseLevel).getD .info
  path := environment.text? fileVariable
  json := (environment.text? jsonVariable).isSome
  showSpans := (environment.text? spansVariable).isSome

def verbose : LogSettings where
  level := .trace
  showSpans := true

end LogSettings

end Interception
