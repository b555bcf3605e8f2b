/-!
# Readers

A reader takes a value from the front of a text, or fails. A choice goes on with
the text that its first part was given. Repetition ends where its part fails, and
is bounded by the length of the text, because each round takes something from it.
-/

set_option autoImplicit false

namespace Interception.Text

abbrev Reader := StateT (List Char) Option

namespace Reader

variable {α : Type}

def peek? : Reader (Option Char) := do
  return (← get).head?

def satisfy (accepts : Char → Bool) : Reader Char := do
  match ← get with
  | [] => failure
  | first :: rest =>
      if accepts first then
        set rest
        pure first
      else failure

def char (expected : Char) : Reader Unit := do
  let _ ← satisfy (· == expected)

/-- Exactly these characters. -/
def word (expected : String) : Reader Unit :=
  expected.toList.forM char

def takeWhile (accepts : Char → Bool) : Reader (List Char) := do
  let (taken, rest) := (← get).span accepts
  set rest
  pure taken

def takeWhile1 (accepts : Char → Bool) : Reader (List Char) := do
  let taken ← takeWhile accepts
  if taken.isEmpty then failure else pure taken

/-- Exactly `count` characters. -/
def takeExactly (count : Nat) (accepts : Char → Bool) : Reader (List Char) := do
  let taken := (← get).take count
  if taken.length = count && taken.all accepts then
    modify (·.drop count)
    pure taken
  else failure

def atEnd : Reader Unit := do
  if (← get).isEmpty then pure () else failure

/-- At most `rounds` times. -/
def repeated (part : Reader α) : Nat → Reader (List α)
  | 0 => pure []
  | rounds + 1 =>
      (do
        let first ← part
        let others ← repeated part rounds
        pure (first :: others)) <|> pure []

def many (part : Reader α) : Reader (List α) := do
  repeated part (← get).length

/-- One or more, with a separator between each two. A separator that no part
follows is left over. -/
def separated1 (part : Reader α) (separator : Reader Unit) : Reader (List α) := do
  let first ← part
  let others ← many (separator *> part)
  pure (first :: others)

def written (part : Reader α) : Reader String := do
  let before ← get
  let _ ← part
  let after ← get
  pure (String.ofList (before.take (before.length - after.length)))

def readAll? (reader : Reader α) (text : List Char) : Option α := do
  let (value, rest) ← reader.run text
  if rest.isEmpty then some value else none

end Reader

end Interception.Text
