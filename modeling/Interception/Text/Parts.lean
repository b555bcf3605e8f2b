/-!
# Parts of texts

A text cut at every occurrence of a separating character. There is one part more
than there are separators, so parts can be empty.
-/

set_option autoImplicit false

namespace Interception.Text

def partsOf (separator : Char) : List Char → List (List Char)
  | [] => [[]]
  | character :: rest =>
      if character = separator then [] :: partsOf separator rest
      else
        match partsOf separator rest with
        | [] => [[character]]
        | part :: parts => (character :: part) :: parts

def parts (separator : Char) (text : String) : List String :=
  (partsOf separator text.toList).map String.ofList

/-- The parts that are not empty. -/
def fullParts (separator : Char) (text : String) : List String :=
  (parts separator text).filter (· != "")

end Interception.Text
