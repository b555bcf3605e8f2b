import Interception.Settings.Basic
import Interception.Settings.Problem
import Interception.Text.Blank
import Interception.Text.LowerCase

/-!
# Spellings of settings

How a setting is written outside of documents: with blanks around it and in any
case.
-/

set_option autoImplicit false

namespace Interception

/-- A text without surrounding blanks, in lower case. -/
def Text.normal (text : String) : String :=
  lowerCased (trimmed text)

def FinalPolicy.parse (text : String) : Except ConfigurationProblem FinalPolicy :=
  match Text.normal text with
  | "dispatch" => .ok .dispatch
  | "ignore" => .ok .ignore
  | "reject" => .ok .reject
  | other => .error (.unknownFinalPolicy other)

def DefaultResult.parse (text : String) : Except ConfigurationProblem DefaultResult :=
  match Text.normal text with
  | "null" => .ok .null
  | "type_default" => .ok .typeDefault
  | "type-default" => .ok .typeDefault
  | other => .error (.unknownDefaultResult other)

/-- A flag is one or zero, or true or false. -/
def parseFlag? (text : String) : Option Bool :=
  match Text.normal text with
  | "1" | "true" => some true
  | "0" | "false" => some false
  | _ => none

end Interception
