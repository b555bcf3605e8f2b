import Interception.Number.Decimal
import Interception.Text.Reader
import Interception.Toml.Value

/-!
# Words of a document

Blanks, comments, texts, numbers, dates and times.
-/

set_option autoImplicit false

-- Powers are those of the core library, whatever is imported beside it.
attribute [local instance(high)] instPowNat

namespace Interception.Toml

open Text (Reader)
open Text.Reader

/-! ## Blanks and comments -/

/-- A line feed, alone or after a carriage return. -/
def newline : Reader Unit :=
  char '\n' <|> word "\r\n"

def isSpace (character : Char) : Bool :=
  character == ' ' || character == '\t'

def spaces : Reader Unit := do
  let _ ← takeWhile isSpace

/-- A tab or any character that is not an ASCII control. -/
def isPrinted (character : Char) : Bool :=
  character == '\t' || (' ' ≤ character && character != '\x7f')

def comment : Reader Unit := do
  char '#'
  let _ ← takeWhile isPrinted

def lineRest : Reader Unit := do
  spaces
  let _ ← optional comment
  newline <|> atEnd

def blankLines : Reader Unit := do
  let _ ← many ((do let _ ← takeWhile1 isSpace) <|> newline <|> (comment *> newline))

/-! ## Texts -/

def isHexDigit (character : Char) : Bool :=
  ('0' ≤ character && character ≤ '9') || ('a' ≤ character && character ≤ 'f') ||
    ('A' ≤ character && character ≤ 'F')

/-- Value of a digit in a base up to sixteen. -/
def digitValue (character : Char) : Nat :=
  if character ≤ '9' then character.toNat - '0'.toNat
  else if character ≤ 'F' then character.toNat - 'A'.toNat + 10
  else character.toNat - 'a'.toNat + 10

def inBase (base : Nat) (digits : List Char) : Nat :=
  digits.foldl (fun value digit => base * value + digitValue digit) 0

/-- A character by its number, which has to be that of a Unicode scalar value. -/
def numbered (digits : Nat) : Reader Char := do
  let code := inBase 16 (← takeExactly digits isHexDigit)
  if code.isValidChar then pure (Char.ofNat code) else failure

def escaped : Reader Char := do
  char '\\'
  match ← satisfy fun _ => true with
  | 'b' => pure '\x08'
  | 't' => pure '\t'
  | 'n' => pure '\n'
  | 'f' => pure '\x0c'
  | 'r' => pure '\r'
  | '"' => pure '"'
  | '\\' => pure '\\'
  | 'u' => numbered 4
  | 'U' => numbered 8
  | _ => failure

def isBasic (character : Char) : Bool :=
  isPrinted character && character != '"' && character != '\\'

def basicText : Reader String := do
  char '"'
  let characters ← many (satisfy isBasic <|> escaped)
  char '"'
  pure (String.ofList characters)

def isLiteral (character : Char) : Bool :=
  isPrinted character && character != '\''

def literalText : Reader String := do
  char '\''
  let characters ← takeWhile isLiteral
  char '\''
  pure (String.ofList characters)

/-- One or two quotes inside a text of many lines: something else has to follow. -/
def innerQuotes (quote : Char) : Reader (List Char) := do
  let quotes ← takeWhile1 (· == quote)
  if quotes.length ≤ 2 && (← peek?).isSome then pure quotes else failure

/-- The end of a text of many lines. Up to two quotes before the last three belong
to the text. -/
def closingQuotes (quote : Char) : Reader (List Char) := do
  let quotes ← takeWhile1 (· == quote)
  if 3 ≤ quotes.length && quotes.length ≤ 5 then pure (quotes.drop 3) else failure

/-- A backslash at the end of a line removes all blanks up to the next word. -/
def continued : Reader Unit := do
  char '\\'
  spaces
  newline
  let _ ← many ((do let _ ← takeWhile1 isSpace) <|> newline)

def lineEnd : Reader (List Char) :=
  newline *> pure ['\n']

def linesBetween (quote : Char) (piece : Reader (List Char)) : Reader String := do
  let _ ← takeExactly 3 (· == quote)
  let _ ← optional newline
  let pieces ← many (piece <|> lineEnd <|> innerQuotes quote)
  let quotes ← closingQuotes quote
  pure (String.ofList (pieces.flatten ++ quotes))

def basicLines : Reader String :=
  linesBetween '"'
    (takeWhile1 isBasic <|> (continued *> pure []) <|> ((fun one => [one]) <$> escaped))

def literalLines : Reader String :=
  linesBetween '\'' (takeWhile1 isLiteral)

def text : Reader String :=
  basicLines <|> basicText <|> literalLines <|> literalText

/-! ## Numbers -/

def isDigit (character : Char) : Bool :=
  '0' ≤ character && character ≤ '9'

def digits (accepts : Char → Bool) : Reader (List Char) := do
  let first ← satisfy accepts
  let others ← many (satisfy accepts <|> (char '_' *> satisfy accepts))
  pure (first :: others)

def sign : Reader Bool :=
  (char '-' *> pure true) <|> (char '+' *> pure false) <|> pure false

/-- Decimal digits without a leading zero. -/
def wholeDigits : Reader (List Char) := do
  match ← peek? with
  | some '0' => (fun one => [one]) <$> satisfy isDigit
  | _ => digits isDigit

/-- A number in a base of two, eight or sixteen. It has no sign. -/
def basedInteger (mark : String) (base : Nat) (accepts : Char → Bool) : Reader Int := do
  word mark
  pure (inBase base (← digits accepts) : Nat)

def decimalInteger : Reader Int := do
  let negative ← sign
  let magnitude : Int := (inBase 10 (← wholeDigits) : Nat)
  pure (if negative then -magnitude else magnitude)

def integer : Reader Int := do
  let value ← basedInteger "0x" 16 isHexDigit <|>
    basedInteger "0o" 8 (fun digit => '0' ≤ digit && digit ≤ '7') <|>
    basedInteger "0b" 2 (fun digit => digit == '0' || digit == '1') <|>
    decimalInteger
  if -2 ^ (63 : Nat) ≤ value && value < 2 ^ (63 : Nat) then pure value else failure

def exponent : Reader Int := do
  let _ ← satisfy fun mark => mark == 'e' || mark == 'E'
  let negative ← sign
  let magnitude : Int := (inBase 10 (← digits isDigit) : Nat)
  pure (if negative then -magnitude else magnitude)

/-- A float with a fraction, an exponent or both. One too large for the format is
refused; one too small for it is minus infinity. -/
def decimalFloat : Reader Binary64 := do
  let negative ← sign
  let whole ← wholeDigits
  let fraction ← optional (char '.' *> digits isDigit)
  let power ← optional exponent
  if fraction.isNone && power.isNone then failure
  let fraction := fraction.getD []
  let value : Binary64 :=
    .ofDecimal negative ((whole ++ fraction).map digitValue) (power.getD 0 - fraction.length)
  if value = .signed false Precision.double.top (Nat.le_refl _) then failure else pure value

def specialFloat : Reader Binary64 := do
  let negative ← sign
  (word "inf" *> pure (.infinity negative)) <|>
    (word "nan" *> pure .nan)

/-! ## Dates and times -/

/-- A number of exactly so many digits, between two bounds. -/
def bounded (count least greatest : Nat) : Reader Nat := do
  let value := inBase 10 (← takeExactly count isDigit)
  if least ≤ value && value ≤ greatest then pure value else failure

def daysOf (year month : Nat) : Nat :=
  if month = 2 then
    if year % 4 = 0 && (year % 100 != 0 || year % 400 = 0) then 29 else 28
  else if month = 4 || month = 6 || month = 9 || month = 11 then 30
  else 31

def date : Reader Unit := do
  let year ← bounded 4 0 9999
  char '-'
  let month ← bounded 2 1 12
  char '-'
  let _ ← bounded 2 1 (daysOf year month)

/-- Seconds go up to sixty, for the sake of leap seconds. -/
def time : Reader Unit := do
  let _ ← bounded 2 0 23
  char ':'
  let _ ← bounded 2 0 59
  char ':'
  let _ ← bounded 2 0 60
  let _ ← optional (char '.' *> takeWhile1 isDigit)

def timeOffset : Reader Unit :=
  (do let _ ← satisfy fun mark => mark == 'Z' || mark == 'z') <|>
  (do
    let _ ← satisfy fun mark => mark == '+' || mark == '-'
    let _ ← bounded 2 0 23
    char ':'
    let _ ← bounded 2 0 59)

/-- A date, a time, or a date with a time, which can say how far it is from
universal time. -/
def moment : Reader String :=
  written <|
    (do
      date
      let _ ← optional do
        let _ ← satisfy fun mark => mark == 'T' || mark == 't' || mark == ' '
        time
        optional timeOffset) <|> time

end Interception.Toml
