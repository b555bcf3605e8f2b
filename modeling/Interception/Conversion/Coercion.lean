import Interception.Failure

/-!
# Coercion to a declared type

Narrows a native value to a declared type, or refuses it. Coercion walks value
and type together, left to right, and goes below an array only where the type is
an array too. The walk is part of the result, because each visited pair is
reported; void targets and null values are settled without a visit.
-/

set_option autoImplicit false

namespace Interception

structure Visit where
  found : Kind
  target : Native.Ty
  deriving DecidableEq, Repr

/-- The visited pairs in order, up to and including the first misfit, and what
became of the value. -/
structure Coercion (α : Type) where
  visits : List Visit
  outcome : Except Failure α

namespace Coercion

variable {α β : Type}

/-- A result without a visit. -/
def settled (value : α) : Coercion α :=
  ⟨[], .ok value⟩

def joined (first rest : List Visit) : List Visit :=
  if rest.isEmpty then first else first ++ rest

@[simp] theorem joined_eq_append (first rest : List Visit) :
    joined first rest = first ++ rest := by
  cases rest <;> simp [joined]

def andThen (first : Coercion α) (next : α → Coercion β) : Coercion β :=
  match first.outcome with
  | .error failure => ⟨first.visits, .error failure⟩
  | .ok value =>
      let rest := next value
      ⟨joined first.visits rest.visits, rest.outcome⟩

theorem outcome_andThen (first : Coercion α) (next : α → Coercion β) :
    (first.andThen next).outcome = first.outcome.bind fun value => (next value).outcome := by
  rw [andThen]
  cases first.outcome <;> rfl

def map (change : α → β) (walk : Coercion α) : Coercion β :=
  ⟨walk.visits, walk.outcome.map change⟩

def visit (step : Visit) (walk : Coercion α) : Coercion α :=
  ⟨step :: walk.visits, walk.outcome⟩

end Coercion

/-! ## Whole numbers -/

/-- The least long. -/
def lowestLong : Int :=
  -9223372036854775808

/-- The first integer above the longs. -/
def pastLongs : Int :=
  9223372036854775808

theorem long_holds_iff {whole : Int} :
    Width.long.Holds whole ↔ lowestLong ≤ whole ∧ whole < pastLongs := by
  simp only [Width.Holds, Width.least, Width.greatest, Width.bits, lowestLong, pastLongs]
  omega

/-- The integer part of a number, toward zero, where it is a long. -/
def Binary.wholeLong? (number : Binary64) : Option (SizedInt .long) :=
  match number.truncate? with
  | some whole =>
      if bounded : lowestLong ≤ whole ∧ whole < pastLongs then
        some ⟨whole, long_holds_iff.mpr bounded⟩
      else none
  | none => none

namespace Native.Value

/-- The integer part of a number, as a long. A single is widened first. -/
def whole? : Value → Option (SizedInt .long)
  | .integer _ value => some value.toLong
  | .float .single value => Binary.wholeLong? value.convert
  | .float .double value => value.wholeLong?
  | _ => none

/-- The integer part of a number in the range of a width. A long is in its range. -/
def wholeOf? (value : Value) : (width : Width) → Option (SizedInt width)
  | .long => value.whole?
  | _ => do SizedInt.ofInt? (← value.whole?).toInt

/-! ## Values at a type -/

/-- The character of a char, of a text of one character, or of an integer that is
a Unicode scalar value. -/
def toChar? : Value → Option Char
  | .char value => some value
  | .string value =>
      match value.toList with
      | [only] => some only
      | _ => none
  | .integer _ value =>
      if 0 ≤ value.toInt ∧ value.toInt.toNat.isValidChar then
        some (Char.ofNat value.toInt.toNat)
      else none
  | _ => none

/-- The value at a type that is neither void nor an array. Integral types take the
integer part of any number in their range; a single is rounded from the nearest
double. -/
def narrow? (value : Value) : Ty → Option Value
  | .object _ => some value
  | .boolean =>
      match value with
      | .boolean _ => some value
      | _ => none
  | .integer width => (value.wholeOf? width).map (.integer width)
  | .float .single => value.toDouble?.map fun number => .float .single number.convert
  | .float .double => value.toDouble?.map (.float .double)
  | .char => value.toChar?.map .char
  | .string =>
      match value with
      | .string _ => some value
      | .char character => some (.string character.toString)
      | _ => none
  | .void => none
  | .array _ => none

/-- The visit of a value that is not taken apart. -/
def narrow (value : Value) (target : Ty) : Coercion Value where
  visits := [⟨value.kind, target⟩]
  outcome :=
    match value.narrow? target with
    | some narrowed => .ok narrowed
    | none => .error (.unmarshal value.kind target.name)

mutual

def coerce (target : Ty) (value : Value) : Coercion Value :=
  match value, target with
  | _, .void => .settled .null
  | .null, target => .settled target.zero
  | .array items, .array element =>
      (coerceAll element items).map .array |>.visit ⟨.array, .array element⟩
  | value, target => value.narrow target

def coerceAll (element : Ty) : List Value → Coercion (List Value)
  | [] => .settled []
  | item :: items =>
      (coerce element item).andThen fun first =>
        (coerceAll element items).map (first :: ·)

end

end Native.Value

end Interception
