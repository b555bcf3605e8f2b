import Interception.Settings.Document
import Interception.Settings.Problem

/-!
# Settings from files

The content of a file is a document in UTF-8. What is wrong with a document is told in
the words of the library that refuses it.
-/

set_option autoImplicit false

namespace Interception.Settings

def parse (library : Toml.Library) (text : String) : Except ConfigurationProblem Settings :=
  match parse? library text with
  | some settings => .ok settings
  | none => .error (.malformed (library.complaint text))

/-- Settings from a path, by what came of reading the file that is there. -/
def load (library : Toml.Library) (path : String) (read : Except ReadFailure ByteArray) :
    Except ConfigurationProblem Settings :=
  match read with
  | .error cause => .error (.unreadable path cause)
  | .ok content =>
      match String.fromUTF8? content with
      | some text => parse library text
      | none => .error (.unreadable path .notUtf8)

end Interception.Settings
