/-!
# Binary floating-point numbers

The numbers of a binary format are held by sign and rank: zero has rank 0, each
larger magnitude the next rank, and the rank after the last finite one is
infinity. In an interchange word this is the word without its sign bit, so
reading and writing words costs nothing, and a rank orders magnitudes.

A finite magnitude is a whole number of least units of its format. All exact
statements are made on these units, in natural-number arithmetic: conversion
into a format rounds a quotient of naturals to the nearest rank, ties to even.
-/

set_option autoImplicit false

-- Powers are those of the core library, whatever is imported beside it.
attribute [local instance(high)] instPowNat

namespace Interception

inductive Precision where
  | single
  | double
  deriving DecidableEq, Repr

namespace Precision

/-- Stored bits of the significand, the leading one not counted. -/
def fractionBits : Precision → Nat
  | .single => 23
  | .double => 52

def exponentBits : Precision → Nat
  | .single => 8
  | .double => 11

/-- The rank of infinity: the largest exponent field with an empty fraction. -/
def top (precision : Precision) : Nat :=
  (2 ^ precision.exponentBits - 1) * 2 ^ precision.fractionBits

/-- One is `2 ^ scale` least units. -/
def scale : Precision → Nat
  | .single => 149
  | .double => 1074

/-- Magnitude of a rank in least units. Ranks below twice `2 ^ fractionBits` are
their own magnitude; above, each further binade doubles the step. -/
def size (precision : Precision) (rank : Nat) : Nat :=
  let binade := rank / 2 ^ precision.fractionBits - 1
  (rank - binade * 2 ^ precision.fractionBits) * 2 ^ binade

end Precision

/-- The integer nearest to a quotient. A half goes to the even neighbour. -/
def roundHalfEven (numerator denominator : Nat) : Nat :=
  let quotient := numerator / denominator
  let twice := 2 * (numerator % denominator)
  if twice < denominator then quotient
  else if denominator < twice then quotient + 1
  else quotient + quotient % 2

/-- The rank nearest to a quotient of least units, ties to the even rank. What
reaches half a step beyond the last finite rank is infinity. -/
def Precision.nearest (precision : Precision) (numerator denominator : Nat) : Nat :=
  let binade := Nat.log2 (numerator / denominator) - precision.fractionBits
  min precision.top
    (binade * 2 ^ precision.fractionBits + roundHalfEven numerator (denominator * 2 ^ binade))

theorem Precision.nearest_le_top (precision : Precision) (numerator denominator : Nat) :
    precision.nearest numerator denominator ≤ precision.top :=
  Nat.min_le_left _ _

/-- A number of a format. There is one value that is not a number; zero and
infinity have both signs. -/
inductive Binary (precision : Precision) where
  | nan
  | signed (negative : Bool) (rank : Nat) (bounded : rank ≤ precision.top)
  deriving DecidableEq, Repr

abbrev Binary32 := Binary .single

abbrev Binary64 := Binary .double

namespace Binary

def zero {precision : Precision} : Binary precision :=
  .signed false 0 (Nat.zero_le _)

instance {precision : Precision} : Inhabited (Binary precision) := ⟨zero⟩

def signedZero {precision : Precision} (negative : Bool) : Binary precision :=
  .signed negative 0 (Nat.zero_le _)

def infinity {precision : Precision} (negative : Bool) : Binary precision :=
  .signed negative precision.top (Nat.le_refl _)

/-- The number nearest to a signed quotient of least units. -/
def ofQuotient {precision : Precision} (negative : Bool) (numerator denominator : Nat) :
    Binary precision :=
  .signed negative (precision.nearest numerator denominator)
    (precision.nearest_le_top numerator denominator)

def units? {precision : Precision} : Binary precision → Option Int
  | .nan => none
  | .signed negative rank _ =>
      if rank = precision.top then none
      else
        let magnitude : Int := precision.size rank
        some (if negative then -magnitude else magnitude)

/-- The exact value of a finite number. -/
def toRat? {precision : Precision} (number : Binary precision) : Option Rat :=
  number.units?.map fun units => mkRat units (2 ^ precision.scale)

/-- The integer part of a finite number, toward zero. -/
def truncate? {precision : Precision} (number : Binary precision) : Option Int :=
  number.units?.map fun units => units.tdiv (2 ^ precision.scale)

/-- The integer that a number is, if it is one. Both zeros are the integer zero. -/
def toInt? {precision : Precision} (number : Binary precision) : Option Int :=
  number.units?.bind fun units =>
    if units % (2 ^ precision.scale : Int) = 0 then some (units / 2 ^ precision.scale) else none

/-- The number nearest to an integer, ties to even. -/
def ofInt {precision : Precision} (integer : Int) : Binary precision :=
  ofQuotient (decide (integer < 0)) (integer.natAbs * 2 ^ precision.scale) 1

/-- The number of another format nearest to this one, ties to even. Sign and
infinity are kept. -/
def convert {source target : Precision} : Binary source → Binary target
  | .nan => .nan
  | .signed negative rank _ =>
      if rank = source.top then .signed negative target.top (Nat.le_refl _)
      else ofQuotient negative (source.size rank * 2 ^ target.scale) (2 ^ source.scale)

/-- Numerical equality: the two zeros are equal, and nothing equals what is not
a number. -/
def equals {precision : Precision} : Binary precision → Binary precision → Bool
  | .signed negative rank _, .signed negative' rank' _ =>
      rank == rank' && (negative == negative' || rank == 0)
  | _, _ => false

instance {precision : Precision} : BEq (Binary precision) := ⟨equals⟩

/-- Number of an interchange word: the sign above exponent and fraction. All
words past infinity are `nan`; bits above the word are ignored. -/
def ofWord {precision : Precision} (word : Nat) : Binary precision :=
  let bits := precision.exponentBits + precision.fractionBits
  let rank := word % 2 ^ bits
  if bounded : rank ≤ precision.top then
    .signed (word / 2 ^ bits % 2 == 1) rank bounded
  else .nan

/-- Interchange word of a number. `nan` has many words and so none here. -/
def toWord? {precision : Precision} : Binary precision → Option Nat
  | .nan => none
  | .signed negative rank _ =>
      let bits := precision.exponentBits + precision.fractionBits
      some (if negative then 2 ^ bits + rank else rank)

end Binary

end Interception
