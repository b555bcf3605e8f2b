import Interception.Text.Pattern.CharSet

/-!
# Pattern expressions

Patterns as they are written, before it is settled what they mean: that depends on
the options in force at each place.
-/

set_option autoImplicit false

namespace Interception.Text

inductive PatternOption where
  | anyCase
  | lines
  | dotTakesAll
  /-- Repetitions are reluctant where they are not marked as that. -/
  | reluctant
  /-- Characters are all those of Unicode, and not of ASCII only. -/
  | unicode
  /-- A carriage return ends a line, too. -/
  | carriageReturns
  | spaced
  deriving DecidableEq, Repr

abbrev OptionChanges := List (PatternOption × Bool)

inductive PlaceMark where
  | caret
  | dollar
  | textStart
  | textEnd
  | wordEdge
  | noWordEdge
  | wordStart
  | wordEnd
  deriving DecidableEq, Repr

structure Literal where
  character : Char
  isByte : Bool := false
  deriving DecidableEq, Repr

inductive SetOperation where
  | intersection
  | difference
  | symmetricDifference
  deriving DecidableEq, Repr

inductive SetExpression where
  | one (literal : Literal)
  | range (first last : Literal)
  | named (set : CharSet) (negated : Bool)
  | short (set : CharSet) (negated : Bool)
  | listed (items : List SetExpression)
  | bracketed (negated : Bool) (inner : SetExpression)
  | combined (operation : SetOperation) (first second : SetExpression)

inductive Times where
  | atMostOnce
  | any
  | atLeastOnce
  deriving DecidableEq, Repr

inductive Expression where
  | empty
  | options (changes : OptionChanges)
  | literal (literal : Literal)
  | dot
  | place (mark : PlaceMark)
  | short (set : CharSet) (negated : Bool)
  | oneOf (set : SetExpression)
  | repeated (times : Times) (reluctant : Bool) (part : Expression)
  | group (number : Option Nat) (changes : OptionChanges) (inner : Expression)
  | sequence (parts : List Expression)
  | choice (branches : List Expression)

namespace SetExpression

def ofItems : List SetExpression → SetExpression
  | [item] => item
  | items => .listed items

mutual

/-- How deep the parts of a set are nested. -/
def depth : SetExpression → Nat
  | .one _ | .range .. | .named .. | .short .. => 0
  | .listed items => if items.isEmpty then 0 else deepest items + 1
  | .bracketed _ inner => depth inner + 1
  | .combined _ first second => max (depth first) (depth second) + 1

def deepest : List SetExpression → Nat
  | [] => 0
  | item :: items => max (depth item) (deepest items)

end

end SetExpression

namespace Expression

def ofParts : List Expression → Expression
  | [] => .empty
  | [part] => part
  | parts => .sequence parts

def ofBranches : List Expression → Expression
  | [branch] => branch
  | branches => .choice branches

mutual

/-- How deep the parts of an expression are nested. -/
def depth : Expression → Nat
  | .empty | .options _ | .literal _ | .dot | .place _ | .short .. => 0
  | .oneOf set => set.depth
  | .repeated _ _ part => depth part + 1
  | .group _ _ inner => depth inner + 1
  | .sequence parts => deepest parts + 1
  | .choice branches => deepest branches + 1

def deepest : List Expression → Nat
  | [] => 0
  | part :: parts => max (depth part) (deepest parts)

end

end Expression

end Interception.Text
