import Interception.Text.Pattern.Basic

/-!
# The meaning of pattern expressions

Letters have no other case among the characters of Unicode, and the sets that a
backslash and a letter stand for are known for ASCII only, so that an expression that
asks for these has no meaning. Nor has one that can take part of a character: outside
of Unicode nothing may be taken that is not ASCII, such as by the dot or by a negated
set. The edges of words are known for ASCII only, too.
-/

set_option autoImplicit false

namespace Interception.Text

structure PatternOptions where
  anyCase : Bool := false
  lines : Bool := false
  dotTakesAll : Bool := false
  reluctant : Bool := false
  unicode : Bool := true
  carriageReturns : Bool := false
  deriving DecidableEq, Repr

namespace PatternOptions

def switched (options : PatternOptions) : PatternOption × Bool → PatternOptions
  | (.anyCase, anyCase) => { options with anyCase }
  | (.lines, lines) => { options with lines }
  | (.dotTakesAll, dotTakesAll) => { options with dotTakesAll }
  | (.reluctant, reluctant) => { options with reluctant }
  | (.unicode, unicode) => { options with unicode }
  | (.carriageReturns, carriageReturns) => { options with carriageReturns }
  | (.spaced, _) => options

def changed (options : PatternOptions) (changes : OptionChanges) : PatternOptions :=
  changes.foldl switched options

/-- A set of characters as it is written, in both cases if that is asked for. -/
def cased? (options : PatternOptions) (set : CharSet) : Option CharSet :=
  if !options.anyCase then some set
  else if options.unicode then none
  else some set.withBothCases

def negated? (options : PatternOptions) (set : CharSet) : Option CharSet :=
  if options.unicode then some set.complement else none

def short? (options : PatternOptions) (set : CharSet) (negated : Bool) : Option CharSet :=
  if options.unicode || negated then none else some set

def allowsInSet (options : PatternOptions) (literal : Literal) : Bool :=
  options.unicode || literal.character.toNat < 128

def literal? (options : PatternOptions) (literal : Literal) : Option CharSet :=
  if options.unicode || literal.character.toNat < 128 then
    options.cased? (.single literal.character)
  else if literal.isByte then none
  else some (.single literal.character)

def dot? (options : PatternOptions) : Option CharSet :=
  if !options.unicode then none
  else if options.dotTakesAll then some .all
  else if options.carriageReturns then some (CharSet.ofRanges [(10, 10), (13, 13)]).complement
  else some (CharSet.single '\n').complement

def place? (options : PatternOptions) : PlaceMark → Option Place
  | .caret =>
      if !options.lines then some .textStart
      else if options.carriageReturns then some .returnedLineStart
      else some .lineStart
  | .dollar =>
      if !options.lines then some .textEnd
      else if options.carriageReturns then some .returnedLineEnd
      else some .lineEnd
  | .textStart => some .textStart
  | .textEnd => some .textEnd
  | .wordEdge => if options.unicode then none else some .wordEdge
  | .noWordEdge => if options.unicode then none else some .noWordEdge
  | .wordStart => if options.unicode then none else some .wordStart
  | .wordEnd => if options.unicode then none else some .wordEnd

end PatternOptions

def SetOperation.apply : SetOperation → CharSet → CharSet → CharSet
  | .intersection => .intersection
  | .difference => .difference
  | .symmetricDifference => .symmetricDifference

namespace SetExpression

mutual

def meaning? (options : PatternOptions) : SetExpression → Option CharSet
  | .one literal =>
      if options.allowsInSet literal then options.cased? (.single literal.character) else none
  | .range first last =>
      if options.allowsInSet first && options.allowsInSet last then
        options.cased? ⟨[(first.character.toNat, last.character.toNat)]⟩
      else none
  | .named set negated => do
      let set ← options.cased? set
      if negated then options.negated? set else some set
  | .short set negated => options.short? set negated
  | .listed items => do return .unionAll (← meanings? options items)
  | .bracketed negated inner => do
      let set ← meaning? options inner
      if negated then options.negated? set else some set
  | .combined operation first second => do
      return operation.apply (← meaning? options first) (← meaning? options second)

def meanings? (options : PatternOptions) : List SetExpression → Option (List CharSet)
  | [] => some []
  | item :: items => do return (← meaning? options item) :: (← meanings? options items)

end

end SetExpression

namespace Expression

abbrev Meaning := StateT PatternOptions Option

mutual

def meaning : Expression → Meaning Pattern
  | .empty => pure .empty
  | .options changes => do
      modify (·.changed changes)
      pure .empty
  | .literal written => do
      let set ← ((← get).literal? written : Option _)
      pure (.one set)
  | .dot => do
      let set ← ((← get).dot? : Option _)
      pure (.one set)
  | .place mark => do
      let place ← ((← get).place? mark : Option _)
      pure (.place place)
  | .short set negated => do
      let set ← ((← get).short? set negated : Option _)
      pure (.one set)
  | .oneOf set => do
      let set ← (set.meaning? (← get) : Option _)
      pure (.one set)
  | .repeated times reluctant part => do
      let pattern ← meaning part
      pure (.ofRounds times (reluctant != (← get).reluctant) pattern)
  | .group number changes inner => do
      let outside ← get
      set (outside.changed changes)
      let pattern ← meaning inner
      set outside
      match number with
      | none => pure pattern
      | some number => pure (.numbered number pattern)
  | .sequence parts => do return .ofParts (← meanings parts)
  | .choice branches => do return .ofBranches (← meanings branches)

def meanings : List Expression → Meaning (List Pattern)
  | [] => pure []
  | part :: parts => do
      let pattern ← meaning part
      let patterns ← meanings parts
      pure (pattern :: patterns)

end

def pattern? (expression : Expression) : Option Pattern := do
  let (pattern, _) ← expression.meaning.run {}
  some pattern

end Expression

end Interception.Text
