import Interception.Text.Parts

/-!
# Log files

There is a new log file every day: the date is appended to the configured name.
A path without a name at its end stands for a file with a name of this library.
-/

set_option autoImplicit false

namespace Interception

structure LogFile where
  /-- The directories on the way to it, outermost first. -/
  directory : List String
  /-- Its name without the date. -/
  name : String
  deriving DecidableEq, Repr

namespace LogFile

def standardName : String := "proxy_bridge.log"

/-- Directories with one more step: a step up leaves the innermost directory. -/
def descend (directory : List String) (step : String) : List String :=
  if step = ".." ∧ directory ≠ [] ∧ directory.getLast? ≠ some ".." then directory.dropLast
  else directory ++ [step]

/-- The names in a path. A single dot stands for the directory it is in. -/
def steps (path : String) : List String :=
  (Text.fullParts '/' path).filter (· != ".")

def ofPath (path : String) : LogFile :=
  let steps := steps path
  let directory := steps.dropLast.foldl descend []
  match steps.getLast? with
  | none => ⟨directory, standardName⟩
  | some ".." => ⟨directory, standardName⟩
  | some name => ⟨directory, name⟩

def path (file : LogFile) (date : String) : String :=
  String.intercalate "/" (file.directory ++ [file.name ++ "." ++ date])

end LogFile

end Interception
