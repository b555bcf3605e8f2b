import Interception.Text.Alphanumeric
import Interception.Text.Blank
import Interception.Text.Pattern.Expression

/-!
# Reading patterns

There is no reading of counts in braces. Blanks and comments are skipped where the
option for that is on, which is until the end of the group that switches it on.
-/

set_option autoImplicit false

namespace Interception.Text

/-- What is left of a pattern, and what counts for the reading of it. -/
structure PatternCursor where
  rest : List Char
  spaced : Bool := false
  names : List (List Char) := []
  groups : Nat := 0

abbrev PatternReader := StateT PatternCursor Option

namespace PatternReader

/-- Sets and groups are nested at most this deep, as are all parts of a pattern. -/
def deepestNesting : Nat := 250

def peek? : PatternReader (Option Char) := do
  return (← get).rest.head?

def take : PatternReader Char := do
  match (← get).rest with
  | [] => failure
  | first :: rest =>
      modify ({ · with rest })
      pure first

def takeIf (expected : String) : PatternReader Bool := do
  let rest := (← get).rest
  if expected.toList.isPrefixOf rest then
    modify ({ · with rest := rest.drop expected.length })
    pure true
  else pure false

/-- A text without the blanks and comments at its front. A comment goes from a
number sign to the end of the line. -/
def withoutComments (inComment : Bool) : List Char → List Char
  | [] => []
  | first :: rest =>
      if inComment then withoutComments (first != '\n') rest
      else if isBlank first then withoutComments false rest
      else if first == '#' then withoutComments true rest
      else first :: rest

def skipBlanks : PatternReader Unit :=
  modify fun cursor =>
    if cursor.spaced then { cursor with rest := withoutComments false cursor.rest } else cursor

/-! ## Escapes -/

def hexDigit? (character : Char) : Option Nat :=
  if character.isDigit then some (character.toNat - 48)
  else if 'a' ≤ character && character ≤ 'f' then some (character.toNat - 87)
  else if 'A' ≤ character && character ≤ 'F' then some (character.toNat - 55)
  else none

/-- A number of so many hexadecimal digits, which continues `value`. -/
def hexNumber (value : Nat) : Nat → PatternReader Nat
  | 0 => pure value
  | count + 1 => do
      skipBlanks
      let digit ← (hexDigit? (← take) : Option Nat)
      hexNumber (16 * value + digit) count

def codePoint (digits : Nat) : PatternReader Literal := do
  let number ← hexNumber 0 digits
  if number.isValidChar then pure { character := Char.ofNat number, isByte := digits == 2 }
  else failure

/-- Whether a character stands for itself behind a backslash. Letters and digits do
not, even if they have no meaning there. -/
def isEscapable (character : Char) : Bool :=
  character.toNat < 128 && !character.isAlphanum

def escape : PatternReader Expression := do
  match ← take with
  | 'x' => .literal <$> codePoint 2
  | 'u' => .literal <$> codePoint 4
  | 'U' => .literal <$> codePoint 8
  | 'd' => pure (.short .digits false)
  | 'D' => pure (.short .digits true)
  | 's' => pure (.short .space false)
  | 'S' => pure (.short .space true)
  | 'w' => pure (.short .word false)
  | 'W' => pure (.short .word true)
  | 'a' => pure (.literal { character := '\x07' })
  | 'f' => pure (.literal { character := '\x0c' })
  | 'n' => pure (.literal { character := '\n' })
  | 'r' => pure (.literal { character := '\r' })
  | 't' => pure (.literal { character := '\t' })
  | 'v' => pure (.literal { character := '\x0b' })
  | 'A' => pure (.place .textStart)
  | 'z' => pure (.place .textEnd)
  | 'b' => pure (.place .wordEdge)
  | 'B' => pure (.place .noWordEdge)
  | '<' => pure (.place .wordStart)
  | '>' => pure (.place .wordEnd)
  | character => if isEscapable character then pure (.literal { character }) else failure

/-! ## Sets -/

def setPart : PatternReader SetExpression := do
  match ← take with
  | '\\' =>
      match ← escape with
      | .literal literal => pure (.one literal)
      | .short set negated => pure (.short set negated)
      | _ => failure
  | character => pure (.one { character })

/-- What comes behind a hyphen. Of a comment only the sign is skipped. -/
def behindHyphen? : PatternReader (Option Char) := do
  let cursor ← get
  let rest := cursor.rest.drop 1
  if cursor.spaced then
    match rest.dropWhile isBlank with
    | '#' :: comment => pure (comment.dropWhile isBlank).head?
    | rest => pure rest.head?
  else pure rest.head?

def setItem : PatternReader SetExpression := do
  let first ← setPart
  skipBlanks
  if (← peek?) != some '-' then pure first
  else
    let behind ← behindHyphen?
    if behind == some ']' || behind == some '-' then pure first
    else
      let _ ← take
      skipBlanks
      match first, ← setPart with
      | .one first, .one last =>
          if first.character ≤ last.character then pure (.range first last) else failure
      | _, _ => failure

def namedSet? : List Char → Option (SetExpression × List Char)
  | '[' :: ':' :: text =>
      let negated := text.head? == some '^'
      let text := if negated then text.drop 1 else text
      let name := text.takeWhile (· != ':')
      match text.drop name.length with
      | ':' :: ']' :: rest =>
          (CharSet.named? (String.ofList name)).map fun set => (.named set negated, rest)
      | _ => none
  | _ => none

def hyphens : Nat → PatternReader (List SetExpression)
  | 0 => pure []
  | rounds + 1 => do
      if ← takeIf "-" then
        skipBlanks
        let others ← hyphens rounds
        pure (.one { character := '-' } :: others)
      else pure []

/-- The front of a set behind its bracket: whether it is negated, and the characters
that stand for themselves only there. -/
def setFront (rounds : Nat) : PatternReader (Bool × List SetExpression) := do
  skipBlanks
  let negated ← takeIf "^"
  if negated then skipBlanks
  let leading ← hyphens rounds
  if leading.isEmpty then
    if ← takeIf "]" then
      skipBlanks
      return (negated, [.one { character := ']' }])
  return (negated, leading)

def setOperation? : PatternReader (Option SetOperation) := do
  if ← takeIf "&&" then pure (some .intersection)
  else if ← takeIf "--" then pure (some .difference)
  else if ← takeIf "~~" then pure (some .symmetricDifference)
  else pure none

/-- The rest of a set up to its closing bracket. `items` are those since the last
operation, from the last on, and `combine` puts the operand in front of it to
them. `rounds` is no less than the number of characters left, and `nesting` is how
much deeper sets may be nested. -/
def setItems : Nat → Nat → (SetExpression → SetExpression) → List SetExpression →
    PatternReader SetExpression
  | 0, _, _, _ => failure
  | rounds + 1, nesting, combine, items => do
      skipBlanks
      match ← peek? with
      | none => failure
      | some '[' =>
          match namedSet? (← get).rest with
          | some (set, rest) =>
              modify ({ · with rest })
              setItems rounds nesting combine (set :: items)
          | none =>
              match nesting with
              | 0 => failure
              | nesting + 1 =>
                  let _ ← take
                  let (negated, leading) ← setFront rounds
                  let inner ← setItems rounds nesting id leading.reverse
                  setItems rounds (nesting + 1) combine (.bracketed negated inner :: items)
      | some ']' =>
          let _ ← take
          pure (combine (.ofItems items.reverse))
      | some _ =>
          match ← setOperation? with
          | some operation =>
              let first := combine (.ofItems items.reverse)
              setItems rounds nesting (.combined operation first) []
          | none =>
              let item ← setItem
              setItems rounds nesting combine (item :: items)

def bracketed (rounds : Nat) : PatternReader SetExpression := do
  let (negated, leading) ← setFront rounds
  let inner ← setItems rounds deepestNesting id leading.reverse
  pure (.bracketed negated inner)

/-! ## Groups -/

def option? : Char → Option PatternOption
  | 'i' => some .anyCase
  | 'm' => some .lines
  | 's' => some .dotTakesAll
  | 'U' => some .reluctant
  | 'u' => some .unicode
  | 'R' => some .carriageReturns
  | 'x' => some .spaced
  | _ => none

/-- Options up to a closing parenthesis or a colon, which is left over. A hyphen
switches off what follows it, which must be something. -/
def optionChanges (changes : OptionChanges) (negated dangling : Bool) :
    List Char → Option (OptionChanges × List Char)
  | [] => none
  | first :: rest =>
      if first == ':' || first == ')' then
        if dangling then none else some (changes.reverse, first :: rest)
      else if first == '-' then
        if negated then none else optionChanges changes true true rest
      else do
        let option ← option? first
        if changes.any (·.1 == option) then none
        else optionChanges ((option, !negated) :: changes) negated false rest

def isNameStart (character : Char) : Bool :=
  isLetter character || character == '_'

def isNamePart (character : Char) : Bool :=
  isAlphanumeric character || "_.[]".toList.contains character

/-- The name of a group up to its closing angle bracket. No two groups have the same
name. -/
def groupName : PatternReader Unit := do
  let cursor ← get
  let name := cursor.rest.takeWhile (· != '>')
  if name.head?.any isNameStart && name.all isNamePart && !cursor.names.contains name then
    modify ({ · with rest := cursor.rest.drop name.length, names := name :: cursor.names })
    let _ ← take
  else failure

def nextNumber : PatternReader Nat := do
  let number := (← get).groups
  modify ({ · with groups := number + 1 })
  pure number

inductive Opening where
  | options (changes : OptionChanges)
  | group (number : Option Nat) (changes : OptionChanges)

/-- What comes behind an opening parenthesis. Nothing can be asked about the text
around. -/
def opening : PatternReader Opening := do
  skipBlanks
  let isNamed ← takeIf "?P<" <||> takeIf "?<"
  if isNamed then
    groupName
    pure (.group (some (← nextNumber)) [])
  else if ← takeIf "?" then
    let (changes, rest) ← (optionChanges [] false false (← get).rest : Option _)
    modify ({ · with rest })
    if (← take) == ':' then pure (.group none changes)
    else if changes.isEmpty then failure
    else pure (.options changes)
  else pure (.group (some (← nextNumber)) [])

/-- The mark of a repetition behind its sign, applied to the last part so far. -/
def repeated (times : Times) : List Expression → PatternReader (List Expression)
  | [] | .options _ :: _ => failure
  | part :: parts => do
      let reluctant ← takeIf "?"
      pure (.repeated times reluctant part :: parts)

def switchSpaced (changes : OptionChanges) : PatternReader Unit := do
  match changes.lookup .spaced with
  | some spaced => modify ({ · with spaced })
  | none => pure ()

/-- The rest of a group up to its closing parenthesis, which is left over, or the end
of the text. `parts` are those of the current branch and `branches` the ones before
it, both from the last on. `rounds` is more than the number of characters left, and
`nesting` is how much deeper groups may be nested. -/
def choices : Nat → Nat → List Expression → List Expression → PatternReader Expression
  | 0, _, _, _ => failure
  | rounds + 1, nesting, branches, parts => do
      skipBlanks
      match ← peek? with
      | none | some ')' => pure (.ofBranches (.ofParts parts.reverse :: branches).reverse)
      | some _ =>
          match ← take with
          | '|' => choices rounds nesting (.ofParts parts.reverse :: branches) []
          | '(' =>
              match ← opening, nesting with
              | .options changes, _ =>
                  switchSpaced changes
                  choices rounds nesting branches (.options changes :: parts)
              | .group _ _, 0 => failure
              | .group number changes, inside + 1 =>
                  let spaced := (← get).spaced
                  switchSpaced changes
                  let inner ← choices rounds inside [] []
                  if !(← takeIf ")") then failure
                  modify ({ · with spaced })
                  choices rounds nesting branches (.group number changes inner :: parts)
          | '?' => choices rounds nesting branches (← repeated .atMostOnce parts)
          | '*' => choices rounds nesting branches (← repeated .any parts)
          | '+' => choices rounds nesting branches (← repeated .atLeastOnce parts)
          | '\x7b' => failure
          | '[' => choices rounds nesting branches (.oneOf (← bracketed rounds) :: parts)
          | '\\' => choices rounds nesting branches ((← escape) :: parts)
          | '.' => choices rounds nesting branches (.dot :: parts)
          | '^' => choices rounds nesting branches (.place .caret :: parts)
          | '$' => choices rounds nesting branches (.place .dollar :: parts)
          | character =>
              choices rounds nesting branches (.literal { character } :: parts)

end PatternReader

def Expression.parse? (text : String) : Option Expression := do
  let characters := text.toList
  let (expression, cursor) ←
    (PatternReader.choices (characters.length + 1) PatternReader.deepestNesting [] []).run
      { rest := characters }
  if cursor.rest.isEmpty && expression.depth ≤ PatternReader.deepestNesting then some expression
  else none

end Interception.Text
