import Interception.Text.Pattern.Expression

/-!
# Patterns

What expressions mean, with no options left. Sequences and choices are flat, and a
choice between single characters is a set. Where all branches of a choice start with
the same parts, those stand in front of the choice. This is more than a matter of
form: such parts are gone through once for all branches, so that the way in which
they fit comes before the order of the branches.
-/

set_option autoImplicit false

namespace Interception.Text

inductive Place where
  | textStart
  | textEnd
  | lineStart
  | lineEnd
  /-- The start of a line that may end with a carriage return. -/
  | returnedLineStart
  /-- The end of a line that may end with a carriage return. -/
  | returnedLineEnd
  | wordEdge
  | noWordEdge
  | wordStart
  | wordEnd
  deriving DecidableEq, Repr

inductive Pattern where
  | empty
  | one (set : CharSet)
  | place (place : Place)
  | repeated (times : Times) (reluctant : Bool) (part : Pattern)
  | numbered (number : Nat) (part : Pattern)
  | sequence (parts : List Pattern)
  | choice (branches : List Pattern)

namespace Place

/-- ASCII letters, digits and the underscore. -/
def isWordChar (character : Char) : Bool :=
  CharSet.word.contains character

/-- Whether the characters around a place, if any, make it one of this kind. -/
def holds (before after : Option Char) : Place → Bool
  | .textStart => before.isNone
  | .textEnd => after.isNone
  | .lineStart => before.all (· == '\n')
  | .lineEnd => after.all (· == '\n')
  | .returnedLineStart =>
      before.all fun character =>
        character == '\n' || (character == '\r' && after != some '\n')
  | .returnedLineEnd =>
      after.all fun character =>
        character == '\r' || (character == '\n' && before != some '\r')
  | .wordEdge => before.any isWordChar != after.any isWordChar
  | .noWordEdge => before.any isWordChar == after.any isWordChar
  | .wordStart => !before.any isWordChar && after.any isWordChar
  | .wordEnd => before.any isWordChar && !after.any isWordChar

/-- Whether the character before a place, or the lack of one, is enough for it to be
one of this kind, whatever comes after it. -/
def holdsBehind (before : Option Char) : Place → Bool
  | .textStart => before.isNone
  | .lineStart | .returnedLineStart => before.all (· == '\n')
  | _ => false

end Place

namespace Pattern

mutual

protected def beq : Pattern → Pattern → Bool
  | .empty, .empty => true
  | .one first, .one second => first == second
  | .place first, .place second => first == second
  | .repeated times reluctant part, .repeated times' reluctant' part' =>
      times == times' && reluctant == reluctant' && Pattern.beq part part'
  | .numbered number part, .numbered number' part' =>
      number == number' && Pattern.beq part part'
  | .sequence parts, .sequence parts' => Pattern.beqAll parts parts'
  | .choice branches, .choice branches' => Pattern.beqAll branches branches'
  | _, _ => false

protected def beqAll : List Pattern → List Pattern → Bool
  | [], [] => true
  | first :: rest, first' :: rest' => Pattern.beq first first' && Pattern.beqAll rest rest'
  | _, _ => false

end

instance : BEq Pattern := ⟨Pattern.beq⟩

mutual

/-- Whether a pattern takes no character at all. -/
def takesNothing : Pattern → Bool
  | .empty | .place _ => true
  | .one _ => false
  | .repeated _ _ part => takesNothing part
  | .numbered _ part => takesNothing part
  | .sequence parts => allTakeNothing parts
  | .choice branches => allTakeNothing branches

def allTakeNothing : List Pattern → Bool
  | [] => true
  | part :: parts => takesNothing part && allTakeNothing parts

end

mutual

/-- The least number of characters that a pattern takes. There is none if a part of
it can take no text at all. -/
def leastLength? : Pattern → Option Nat
  | .empty | .place _ => some 0
  | .one set => if set.isEmpty then none else some 1
  | .repeated .atLeastOnce _ part => leastLength? part
  | .repeated _ _ part => (leastLength? part).map fun _ => 0
  | .numbered _ part => leastLength? part
  | .sequence parts => do return (← leastLengths? parts).sum
  | .choice branches => do (← leastLengths? branches).min?

def leastLengths? : List Pattern → Option (List Nat)
  | [] => some []
  | part :: parts => do return (← leastLength? part) :: (← leastLengths? parts)

end

def parts : Pattern → List Pattern
  | .empty => []
  | .sequence parts => parts
  | pattern => [pattern]

def branches : Pattern → List Pattern
  | .choice branches => branches
  | pattern => [pattern]

def ofParts (patterns : List Pattern) : Pattern :=
  match patterns.flatMap parts with
  | [] => .empty
  | [part] => part
  | parts => .sequence parts

def set? : Pattern → Option CharSet
  | .one set => some set
  | _ => none

/-- A choice between patterns, with their branches in place of choices. -/
def plainChoice (patterns : List Pattern) : Pattern :=
  let branches := patterns.flatMap branches
  match branches.mapM set? with
  | some sets => .one (.unionAll sets)
  | none =>
      match branches with
      | [branch] => branch
      | branches => .choice branches

def sharedFront : List Pattern → List Pattern → List Pattern
  | first :: rest, first' :: rest' =>
      if first == first' then first :: sharedFront rest rest' else []
  | _, _ => []

def sharedParts : List Pattern → List Pattern
  | [] => []
  | [.sequence parts] => parts
  | .sequence parts :: branches => sharedFront parts (sharedParts branches)
  | _ => []

def ofBranches (patterns : List Pattern) : Pattern :=
  let branches := patterns.flatMap branches
  match sharedParts branches with
  | [] => plainChoice branches
  | shared =>
      ofParts (shared ++ [plainChoice (branches.map (ofParts <| ·.parts.drop shared.length))])

/-- A repetition. More than one round of what takes nothing changes nothing. -/
def ofRounds (times : Times) (reluctant : Bool) (part : Pattern) : Pattern :=
  if part.takesNothing then
    match times with
    | .atLeastOnce => part
    | _ => .repeated .atMostOnce reluctant part
  else .repeated times reluctant part

end Pattern

end Interception.Text
