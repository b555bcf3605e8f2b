import Interception.Settings.Spelling

/-!
# Settings from environment variables

Each setting has a variable of its own. A variable that is unset, is not text, or
does not spell a value leaves the default of its setting, and no other setting is
affected.
-/

set_option autoImplicit false

namespace Interception

abbrev Variables := List (String × ByteArray)

def Variables.text? (environment : Variables) (name : String) : Option String :=
  (environment.lookup name).bind String.fromUTF8?

namespace Settings

def finalMethodsVariable : String := "PROXY_BRIDGE_FINAL_METHODS"

def defaultResultVariable : String := "PROXY_BRIDGE_DEFAULT_RESULT"

def coerceReturnsVariable : String := "PROXY_BRIDGE_COERCE_RETURNS"

def ofEnvironment (environment : Variables) : Settings where
  finalMethods :=
    ((environment.text? finalMethodsVariable).bind fun text =>
      (FinalPolicy.parse text).toOption).getD .dispatch
  defaultResult :=
    ((environment.text? defaultResultVariable).bind fun text =>
      (DefaultResult.parse text).toOption).getD .null
  coerceReturns :=
    ((environment.text? coerceReturnsVariable).bind parseFlag?).getD true

end Settings

end Interception
