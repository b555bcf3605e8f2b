import Interception.Number.Binary

/-!
# Documents of tables

The content of a configuration document: tables of named values. The order of
names is that of their first occurrence.
-/

set_option autoImplicit false

namespace Interception.Toml

inductive Value where
  | string (value : String)
  | integer (value : Int)
  | float (value : Binary64)
  | boolean (value : Bool)
  | moment (written : String)
  | array (items : List Value)
  | table (entries : List (String × Value))
  deriving Repr

instance : Inhabited Value := ⟨.table []⟩

abbrev Entries := List (String × Value)

end Interception.Toml
