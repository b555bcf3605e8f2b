/-!
# Sized integers

Signed integers of the four declared widths. A value carries the proof that it
lies in its range, so nothing wraps and a narrowing either keeps the integer or
has no result.
-/

set_option autoImplicit false

-- Powers are those of the core library, whatever is imported beside it.
attribute [local instance(high)] instPowNat

namespace Interception

inductive Width where
  | byte
  | short
  | int
  | long
  deriving DecidableEq, Repr

namespace Width

def bits : Width → Nat
  | .byte => 8
  | .short => 16
  | .int => 32
  | .long => 64

def least (width : Width) : Int :=
  -2 ^ (width.bits - 1)

def greatest (width : Width) : Int :=
  2 ^ (width.bits - 1) - 1

def Holds (width : Width) (integer : Int) : Prop :=
  width.least ≤ integer ∧ integer ≤ width.greatest

instance (width : Width) (integer : Int) : Decidable (width.Holds integer) :=
  inferInstanceAs (Decidable (_ ∧ _))

theorem holds_zero (width : Width) : width.Holds 0 := by
  cases width <;> decide

end Width

structure SizedInt (width : Width) where
  toInt : Int
  inRange : width.Holds toInt
  deriving DecidableEq, Repr

namespace SizedInt

def zero {width : Width} : SizedInt width :=
  ⟨0, width.holds_zero⟩

instance {width : Width} : Inhabited (SizedInt width) := ⟨zero⟩

theorem toInt_inj {width : Width} {left right : SizedInt width} :
    left.toInt = right.toInt ↔ left = right := by
  cases left
  cases right
  simp

def ofInt? {width : Width} (integer : Int) : Option (SizedInt width) :=
  if inRange : width.Holds integer then some ⟨integer, inRange⟩ else none

theorem ofInt?_eq_some_iff {width : Width} {integer : Int} {sized : SizedInt width} :
    ofInt? integer = some sized ↔ sized.toInt = integer := by
  unfold ofInt?
  split
  · rename_i inRange
    rw [Option.some.injEq]
    constructor
    · rintro rfl; rfl
    · rintro rfl; rfl
  · rename_i outOfRange
    constructor
    · intro impossible; cases impossible
    · rintro rfl; exact absurd sized.inRange outOfRange

theorem ofInt?_eq_none_iff {width : Width} {integer : Int} :
    (ofInt? integer : Option (SizedInt width)) = none ↔ ¬ width.Holds integer := by
  unfold ofInt?
  split <;> simp_all

end SizedInt

theorem Width.Holds.long {width : Width} {integer : Int} (inRange : width.Holds integer) :
    Width.long.Holds integer := by
  cases width <;>
    simp only [Width.Holds, Width.least, Width.greatest, Width.bits] at inRange ⊢ <;> omega

/-- Every integer is a long. -/
def SizedInt.toLong {width : Width} (sized : SizedInt width) : SizedInt .long :=
  ⟨sized.toInt, sized.inRange.long⟩

/-- Largest magnitude up to which a double holds every integer exactly. -/
def largestSafeInteger : Int :=
  2 ^ (53 : Nat) - 1

theorem Width.long_holds_of_safe {integer : Int}
    (safe : (integer.natAbs : Int) ≤ largestSafeInteger) : Width.long.Holds integer := by
  simp only [largestSafeInteger] at safe
  simp only [Width.Holds, Width.least, Width.greatest, Width.bits]
  omega

end Interception
