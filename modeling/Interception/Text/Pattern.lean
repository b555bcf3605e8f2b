import Interception.Text.Pattern.Automaton
import Interception.Text.Pattern.Meaning
import Interception.Text.Pattern.Reading

/-!
# Text patterns

Patterns of characters, sets, choices and repetitions. A pattern looks for the part
of a text that it prefers, which is the first one that it fits. It matches a text if
this part goes up to the end of it.
-/

set_option autoImplicit false

namespace Interception.Text.Pattern

def parse? (text : String) : Option Pattern := do
  (← Expression.parse? text).pattern?

def isMatch (pattern : Pattern) (text : String) : Bool :=
  pattern.automaton.isMatch text

end Interception.Text.Pattern
