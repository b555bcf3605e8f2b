import Interception.Toml.Lexeme
import Interception.Toml.Table

/-!
# Documents

A document is a list of sections: the pairs before the first header, and the
pairs under each header. Values nest to a bounded depth.
-/

set_option autoImplicit false

namespace Interception.Toml

open Text (Reader)
open Text.Reader

/-- Values are nested less than this, and keys have fewer parts. -/
def nestingLimit : Nat :=
  80

/-! ## Keys -/

def isBare (character : Char) : Bool :=
  ('a' ≤ character && character ≤ 'z') || ('A' ≤ character && character ≤ 'Z') ||
    isDigit character || character == '-' || character == '_'

def simpleKey : Reader String :=
  basicText <|> literalText <|> (String.ofList <$> takeWhile1 isBare)

def key : Reader (List String × String) := do
  let parts ← separated1 (spaces *> simpleKey <* spaces) (char '.')
  match parts.getLast? with
  | some last =>
      if parts.length < nestingLimit then pure (parts.dropLast, last) else failure
  | none => failure

abbrev Pair := List String × String × Value

/-! ## Values -/

def scalar : Reader Value :=
  (.string <$> text) <|> (.moment <$> moment) <|> (.float <$> decimalFloat) <|>
    (.float <$> specialFloat) <|> (.integer <$> integer) <|>
    (word "true" *> pure (.boolean true)) <|> (word "false" *> pure (.boolean false))

/-- Items between brackets, with blank lines anywhere and a comma at the end or not. -/
def array (item : Reader Value) : Reader Value := do
  char '['
  let items ← optional (separated1 (blankLines *> item <* blankLines) (char ','))
  if items.isSome then
    let _ ← optional (char ',')
  blankLines
  char ']'
  pure (.array (items.getD []))

def pairOf (value : Reader Value) : Reader Pair := do
  let (path, last) ← key
  char '='
  spaces
  pure (path, last, ← value)

def inlineTable (value : Reader Value) : Reader Value := do
  char '\x7b'
  let pairs ← optional (separated1 (pairOf value <* spaces) (char ','))
  spaces
  char '\x7d'
  match Table.addAll {} (pairs.getD []) with
  | some table => pure table.node.toValue
  | none => failure

/-- A value in which at most `depth` arrays and tables are nested. -/
def valueWithin : Nat → Reader Value
  | 0, text => scalar text
  | depth + 1, text =>
      (array (valueWithin depth) <|> inlineTable (valueWithin depth) <|> scalar) text

def value : Reader Value :=
  valueWithin (nestingLimit - 1)

/-! ## Sections -/

inductive Header where
  | table (path : List String) (key : String)
  | tables (path : List String) (key : String)

structure Section where
  header : Header
  pairs : List Pair

def emptyLines : Reader Unit := do
  let _ ← many ((do let _ ← takeWhile1 isSpace) <|> newline <|> (comment *> (newline <|> atEnd)))

def pairLine : Reader Pair :=
  pairOf value <* lineRest

def header : Reader Header :=
  (do
    word "[["
    let (path, last) ← key
    word "]]"
    lineRest
    pure (.tables path last)) <|>
  (do
    char '['
    let (path, last) ← key
    char ']'
    lineRest
    pure (.table path last))

def pairs : Reader (List Pair) :=
  emptyLines *> many (pairLine <* emptyLines)

def «section» : Reader Section := do
  let header ← header
  pure ⟨header, ← pairs⟩

def sections : Reader (List Pair × List Section) := do
  let first ← pairs
  pure (first, ← many «section»)

def addSection (table : Table) (part : Section) : Option Table :=
  match part.header with
  | .table path key => table.addStated path key part.pairs
  | .tables path key => table.addRepeated path key part.pairs

/-- A text without the byte order mark that it may start with. -/
def withoutMark : List Char → List Char
  | '\ufeff' :: rest => rest
  | characters => characters

def parse? (text : String) : Option Entries := do
  let (first, parts) ← sections.readAll? (withoutMark text.toList)
  let top ← Table.addAll {} first
  let whole ← parts.foldlM addSection top
  some (entriesOf whole.entries)

end Interception.Toml
