import Interception.Number.Binary

/-!
# Shortest decimals

The shortest decimal that a finite number is nearest to, and how it is written.
A grid of decimals with a fixed count of digits is tried after the other, from the
coarsest on. If any decimal of a grid rounds to the number, so does one of the two
next to the number, and of these the nearer one is taken, the larger one where both
are equally near.
-/

set_option autoImplicit false

-- Powers are those of the core library, whatever is imported beside it.
attribute [local instance(high)] instPowNat

namespace Interception

/-- `digits · 10 ^ exponent`. -/
structure Decimal where
  digits : Nat
  exponent : Int
  deriving DecidableEq, Repr

namespace Decimal

/-- Numerator and denominator of a quotient divided by `10 ^ exponent`. -/
def shifted (numerator denominator : Nat) (exponent : Int) : Nat × Nat :=
  if 0 ≤ exponent then (numerator, denominator * 10 ^ exponent.toNat)
  else (numerator * 10 ^ (-exponent).toNat, denominator)

/-- The decimal exponent of the leading digit of a quotient below one, at most
`rounds` places behind the point. -/
def leadingBelowOne (numerator denominator : Nat) : Nat → Int
  | 0 => 0
  | rounds + 1 =>
      if denominator ≤ numerator then 0
      else leadingBelowOne (10 * numerator) denominator rounds - 1

/-- The decimal exponent of the leading digit of a positive quotient. -/
def leading (numerator denominator : Nat) : Int :=
  if denominator ≤ numerator then
    (Nat.toDigits 10 (numerator / denominator)).length - 1
  else leadingBelowOne numerator denominator denominator.log2

/-- The same decimal without zeros at the end of its digits. -/
def stripped (decimal : Decimal) : Decimal :=
  go decimal decimal.digits.log2
where
  go (decimal : Decimal) : Nat → Decimal
    | 0 => decimal
    | rounds + 1 =>
        if decimal.digits % 10 = 0 ∧ decimal.digits ≠ 0 then
          go ⟨decimal.digits / 10, decimal.exponent + 1⟩ rounds
        else decimal

/-- Whether a decimal rounds to a rank: it lies between the midpoints to the
neighbours, which belong to even ranks. -/
def roundsTo (precision : Precision) (rank : Nat) (decimal : Decimal) : Bool :=
  let below := precision.size (rank - 1) + precision.size rank
  let above := precision.size rank + precision.size (rank + 1)
  let (unit, grid) := shifted (2 * 2 ^ precision.scale) 1 (-decimal.exponent)
  let point := decimal.digits * unit
  if rank % 2 = 0 then below * grid ≤ point && point ≤ above * grid
  else below * grid < point && point < above * grid

/-- The decimal of `count` digits that is nearest to a rank, if it rounds to it. -/
def nearest? (precision : Precision) (rank count : Nat) (first : Int) : Option Decimal :=
  let exponent := first + 1 - count
  let (numerator, denominator) := shifted (precision.size rank) (2 ^ precision.scale) exponent
  let lower := numerator / denominator
  let nearer := (2 * numerator + denominator) / (2 * denominator)
  let other := if nearer = lower then lower + 1 else lower
  if roundsTo precision rank ⟨nearer, exponent⟩ then some ⟨nearer, exponent⟩
  else if roundsTo precision rank ⟨other, exponent⟩ then some ⟨other, exponent⟩
  else none

/-- The shortest decimal of a positive finite rank. Seventeen digits are enough to
tell any two doubles apart. -/
def shortest (precision : Precision) (rank : Nat) : Decimal :=
  let first := leading (precision.size rank) (2 ^ precision.scale)
  match (List.range 17).findSome? fun count => nearest? precision rank (count + 1) first with
  | some decimal => decimal.stripped
  | none => ⟨0, 0⟩

end Decimal

namespace Binary

/-- A decimal with at least one digit on each side of the point, or with one digit
before the point and an exponent where it is far from one. -/
def decimalText (decimal : Decimal) : String :=
  let digits := Nat.toDigits 10 decimal.digits
  let count : Int := digits.length
  let point := decimal.exponent + count
  let zeros (count : Int) : List Char := List.replicate count.toNat '0'
  if -4 < point ∧ point ≤ 16 then
    if point ≤ 0 then String.ofList (['0', '.'] ++ zeros (-point) ++ digits)
    else if count ≤ point then String.ofList (digits ++ zeros (point - count) ++ ['.', '0'])
    else
      String.ofList (digits.take point.toNat ++ ['.'] ++ digits.drop point.toNat)
  else
    let fraction := if digits.length ≤ 1 then [] else '.' :: digits.drop 1
    String.ofList (digits.take 1 ++ fraction ++ ['e']) ++ (point - 1).repr

def text {precision : Precision} : Binary precision → String
  | .nan => "NaN"
  | .signed negative rank _ =>
      let magnitude :=
        if rank = precision.top then "inf"
        else if rank = 0 then "0.0"
        else decimalText (Decimal.shortest precision rank)
      if negative then "-" ++ magnitude else magnitude

end Binary

end Interception
