import Interception.Toml.Value

/-!
# Libraries for documents

What the settings need of a library that reads documents: the content of a text, what
is found in a value under the names of a record, and the variant that a value names. A
library has its own words for a text that it refuses.
-/

set_option autoImplicit false

namespace Interception.Toml

structure Library where
  /-- The content of a text, if the text is a document. How a table is written, and
  what stands around it, is no part of the content. -/
  content? : String → Option Entries
  /-- What is said of a text that is no document, or that does not have the record that
  is asked for. -/
  complaint : String → String
  /-- What a value has under the names of the fields of a record, if it can stand for
  a record. -/
  record? : List String → Value → Option Entries
  /-- The name of the variant that a value other than a text stands for. -/
  variant? : Value → Option String

/-- What the settings rely on. -/
structure Library.Documented (library : Library) : Prop where
  /-- A table stands for a record of any names. Each field is what the table has under
  its name, and keys that are no names of fields are passed over. -/
  record_table : ∀ (names : List String) (entries : Entries), ∃ fields,
    library.record? names (.table entries) = some fields ∧
      ∀ name ∈ names, fields.lookup name = entries.lookup name
  /-- Besides texts, variants are written as tables whose one key is the name. -/
  variant_key : ∀ (value : Value) (name : String), library.variant? value = some name →
    ∃ content, value = .table [(name, content)]

end Interception.Toml
