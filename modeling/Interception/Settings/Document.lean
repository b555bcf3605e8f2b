import Interception.Settings.Basic
import Interception.Toml.Library

/-!
# Settings from documents

Settings are read from the table `bridge` of a document. Each of them is optional
and has its default where it is missing; entries of other names, and other
tables, say nothing. One illegal setting makes the whole document illegal.
-/

set_option autoImplicit false

namespace Interception.Settings

section

variable (library : Toml.Library) {α : Type}

/-- The one of the named choices that a value stands for: a text that is exactly its
name, or another value that names it as a variant. -/
def choiceOf? (choices : List (String × α)) : Toml.Value → Option α
  | .string text => choices.lookup text
  | value => do choices.lookup (← library.variant? value)

def finalPolicyOf? : Toml.Value → Option FinalPolicy :=
  choiceOf? library ([.dispatch, .ignore, .reject].map fun policy => (policy.name, policy))

def defaultResultOf? : Toml.Value → Option DefaultResult :=
  choiceOf? library ([.null, .typeDefault].map fun result => (result.name, result))

def flagOf? : Toml.Value → Option Bool
  | .boolean value => some value
  | _ => none

/-- A field that need not be there. -/
def orDefault (read? : Toml.Value → Option α) (default : α) : Option Toml.Value → Option α
  | none => some default
  | some value => read? value

def fieldNames : List String :=
  ["final_methods", "default_result", "coerce_returns"]

def ofFields? (fields : Toml.Entries) : Option Settings := do
  some {
    finalMethods := ← orDefault (finalPolicyOf? library) .dispatch (fields.lookup "final_methods")
    defaultResult := ← orDefault (defaultResultOf? library) .null (fields.lookup "default_result")
    coerceReturns := ← orDefault flagOf? true (fields.lookup "coerce_returns") }

/-- What is under `bridge`. -/
def ofValue? (value : Toml.Value) : Option Settings := do
  ofFields? library (← library.record? fieldNames value)

def ofDocument? (document : Toml.Entries) : Option Settings := do
  let fields ← library.record? ["bridge"] (.table document)
  orDefault (ofValue? library) {} (fields.lookup "bridge")

def parse? (text : String) : Option Settings := do
  ofDocument? library (← library.content? text)

end

end Interception.Settings
