import Interception.Number.Binary

/-!
# Decimal numbers

The number nearest to a decimal, and the shortest decimal that a number is
nearest to. Both are found in exact natural-number arithmetic.
-/

set_option autoImplicit false

-- Powers are those of the core library, whatever is imported beside it.
attribute [local instance(high)] instPowNat

namespace Interception

/-- Value of decimal digits, the leading one first. -/
def ofDigits (digits : List Nat) : Nat :=
  digits.foldl (fun value digit => 10 * value + digit) 0

namespace Binary

/-- Decimal exponents beyond which every number of the format is infinity, and
below whose negative, for one digit, every number is zero. -/
def decimalReach : Precision → Nat
  | .single => 50
  | .double => 400

/-- The number nearest to `± digits · 10 ^ exponent`, ties to even. -/
def ofDecimal {precision : Precision} (negative : Bool) (digits : List Nat) (exponent : Int) :
    Binary precision :=
  let significand := ofDigits digits
  let reach : Int := decimalReach precision
  if significand = 0 then signedZero negative
  else if reach < exponent then infinity negative
  else if exponent < -(reach + digits.length) then signedZero negative
  else if 0 ≤ exponent then
    ofQuotient negative (significand * 10 ^ exponent.toNat * 2 ^ precision.scale) 1
  else ofQuotient negative (significand * 2 ^ precision.scale) (10 ^ (-exponent).toNat)

end Binary

end Interception
