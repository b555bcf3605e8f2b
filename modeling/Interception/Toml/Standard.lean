import Interception.Toml.Document
import Interception.Toml.Library

/-!
# The standard library for documents

Documents are read by the grammar of this library. An array stands for a record too, with
its items in the order of the names, and so does a date, which has no fields. A variant is
written as a table of its name alone with an empty table or array under it.
-/

set_option autoImplicit false

namespace Interception.Toml

def Value.fields? (names : List String) : Value → Option Entries
  | .table entries => some entries
  | .array items => some (names.zip items)
  | .moment _ => some []
  | _ => none

def Value.variant? : Value → Option String
  | .table [(name, .table [])] => some name
  | .table [(name, .array [])] => some name
  | _ => none

def standard : Library where
  content? := parse?
  complaint _ := "the text is no document of the settings"
  record? := Value.fields?
  variant? := Value.variant?

theorem standard_documented : standard.Documented where
  record_table names entries := ⟨entries, rfl, fun _ _ => rfl⟩
  variant_key value name named := by
    change value.variant? = some name at named
    unfold Value.variant? at named
    split at named
    · cases named
      exact ⟨_, rfl⟩
    · cases named
      exact ⟨_, rfl⟩
    · cases named

end Interception.Toml
