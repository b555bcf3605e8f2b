import Interception.Text.CaseIgnorable
import Interception.Text.Cased
import Interception.Text.Lower

/-!
# Lower case

Full lower-casing of a text. Two letters need more than a table: the dotted
capital I becomes two characters, and a capital sigma at the end of a word its
final form.
-/

set_option autoImplicit false

namespace Interception.Text

/-- Whether the nearest character that is not case-ignorable is cased. -/
def meetsCased (characters : List Char) : Bool :=
  match characters.dropWhile isCaseIgnorable with
  | [] => false
  | nearest :: _ => isCased nearest

/-- Lower case of a character between others. `before` is reversed: its nearest
character comes first. A capital sigma ends a word when a cased character comes
before it and none after it. -/
def lowerBetween (before : List Char) (character : Char) (after : List Char) : List Char :=
  if character = '\u0130' then ['i', '\u0307']
  else if character = '\u03a3' then
    [if meetsCased before && !meetsCased after then '\u03c2' else '\u03c3']
  else [lowerLetter character]

/-- Lower case of the characters that come after the reversed `before`. -/
def lowerAfter (before : List Char) : List Char → List Char
  | [] => []
  | character :: rest =>
      lowerBetween before character rest ++ lowerAfter (character :: before) rest

def lowerCased (text : String) : String :=
  String.ofList (lowerAfter [] text.toList)

end Interception.Text
