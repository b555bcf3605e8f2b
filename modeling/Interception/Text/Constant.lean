import Interception.Text.Reader

/-!
# Constants

Texts that are read as a boolean or a number, and not as text.
-/

set_option autoImplicit false

namespace Interception.Text

namespace Constant

open Reader

def sign : Reader Unit :=
  char '+' <|> char '-' <|> pure ()

def exponent : Reader Unit := do
  let _ ← satisfy fun mark => mark == 'e' || mark == 'E'
  sign
  let _ ← takeWhile1 Char.isDigit

/-- Decimal digits, with some on at least one side of a point, and an exponent. -/
def decimal : Reader Unit := do
  let whole ← takeWhile Char.isDigit
  let fraction ← (char '.' *> takeWhile Char.isDigit) <|> pure []
  if whole.isEmpty && fraction.isEmpty then failure
  exponent <|> pure ()

/-- A name of what is no finite number, with letters in any case. -/
def named : Reader Unit := do
  let name ← takeWhile Char.isAlpha
  if ["inf", "infinity", "nan"].contains (String.ofList (name.map Char.toLower)) then pure ()
  else failure

def number : Reader Unit :=
  sign *> (decimal <|> named)

end Constant

def isConstant (text : String) : Bool :=
  text == "true" || text == "false" || (Constant.number.readAll? text.toList).isSome

end Interception.Text
