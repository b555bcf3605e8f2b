import Interception.Proofs.Conversion.Acceptance
import Interception.Proofs.Conversion.Whole
import Interception.Proofs.Number.IntegerPart
import Interception.Proofs.Number.Interchange

/-!
# Coercion to integral types

A numeric value becomes an integer of a declared width by its exact value and nothing
else: the integer part where that lies in the range, and a failure where it does not.
Nothing wraps and nothing saturates, whatever format the number was held in.
-/

set_option autoImplicit false

namespace Interception.Native.Value

/-- The exact value of a number: of an integer, or of a float that is finite. -/
def toRat? : Value → Option Rat
  | .integer _ value => some value.toInt
  | .float _ value => value.toRat?
  | _ => none

theorem truncate?_eq_toRat? (value : Value) : value.truncate? = value.toRat?.map towardZero := by
  cases value with
  | integer width value => simp [truncate?, toRat?]
  | float precision value => exact value.truncate?_eq_towardZero
  | _ => rfl

theorem coerce_integer {value : Value} (width : Width) (present : value ≠ .null) :
    value.coerce (.integer width) = value.narrow (.integer width) := by
  cases value with
  | null => exact absurd rfl present
  | _ => rfl

theorem narrow?_integer_eq_some_iff {value result : Value} {width : Width} :
    value.narrow? (.integer width) = some result ↔
      ∃ exact, value.toRat? = some exact ∧ ∃ inRange : width.Holds (towardZero exact),
        result = .integer width ⟨towardZero exact, inRange⟩ := by
  rw [narrow?_integer, truncate?_eq_toRat?]
  cases value.toRat? with
  | none => simp
  | some exact =>
      by_cases inRange : width.Holds (towardZero exact)
      · have kept : SizedInt.ofInt? (towardZero exact) =
            some (⟨towardZero exact, inRange⟩ : SizedInt width) :=
          SizedInt.ofInt?_eq_some_iff.mpr rfl
        simp [kept, inRange, eq_comm]
      · have refused : (SizedInt.ofInt? (towardZero exact) : Option (SizedInt width)) = none :=
          SizedInt.ofInt?_eq_none_iff.mpr inRange
        simp [refused, inRange]

/-- A value is coerced to an integral type by its exact value: to the integer part,
where the value lies strictly between the integers next to the range, and not at all
elsewhere. The exact value of a float is that of its interchange word. -/
theorem coerce_integer_exact (width : Width) (value : Value) (present : value ≠ .null) :
    (∀ result, (value.coerce (.integer width)).outcome = .ok result ↔
      ∃ exact, value.toRat? = some exact ∧ ∃ inRange : width.Holds (towardZero exact),
        result = .integer width ⟨towardZero exact, inRange⟩) ∧
    ((∀ exact, value.toRat? = some exact → ¬ width.Holds (towardZero exact)) →
      (value.coerce (.integer width)).outcome =
        .error (.unmarshal value.kind (Ty.integer width).name)) ∧
    (∀ exact, width.Holds (towardZero exact) ↔
      (width.least : Rat) - 1 < exact ∧ exact < width.greatest + 1) ∧
    (∀ precision word, value = .float precision (.ofWord word) →
      value.toRat? = precision.wordValue? word) ∧
    ∀ precision number, value = .float precision number →
      (value.toRat? = none ↔ number = .nan ∨ ∃ negative, number = .infinity negative) := by
  rw [coerce_integer width present]
  refine ⟨fun result => ?_, fun outside => ?_, width.holds_towardZero_iff, ?_, ?_⟩
  · rw [narrow_ok_iff, narrow?_integer_eq_some_iff]
  · have refused : value.narrow? (.integer width) = none := by
      rw [Option.eq_none_iff_forall_ne_some]
      intro result narrowed
      obtain ⟨exact, known, inRange, -⟩ := narrow?_integer_eq_some_iff.mp narrowed
      exact outside exact known inRange
    rw [narrow, refused]
  · rintro precision word rfl
    exact Binary.toRat?_ofWord word
  · rintro precision number rfl
    exact Binary.toRat?_eq_none_iff

/-- The double of an interchange word. -/
def ofDoubleWord (word : Nat) : Value :=
  .float .double (.ofWord word)

/-- The double next to -128.9, the doubles on both sides of the end of the longs, the
least long, an infinity and a word that is no number. -/
theorem coerce_integer_exact_edges :
    ofDoubleWord 0xC0601CCCCCCCCCCD ≠ .null ∧
    ((ofDoubleWord 0xC0601CCCCCCCCCCD).coerce (.integer .byte)).outcome =
      .ok (.integer .byte ⟨-128, by decide⟩) ∧
    ((ofDoubleWord 0x43DFFFFFFFFFFFFF).coerce (.integer .long)).outcome =
      .ok (.integer .long ⟨2 ^ 63 - 1024, by decide⟩) ∧
    ((ofDoubleWord 0x43E0000000000000).coerce (.integer .long)).outcome =
      .error (.unmarshal .double "long") ∧
    ((ofDoubleWord 0xC3E0000000000000).coerce (.integer .long)).outcome =
      .ok (.integer .long ⟨-2 ^ 63, by decide⟩) ∧
    ((ofDoubleWord 0xFFF0000000000000).coerce (.integer .short)).outcome =
      .error (.unmarshal .double "short") ∧
    ((ofDoubleWord 0x7FF8000000000000).coerce (.integer .int)).outcome =
      .error (.unmarshal .double "int") := by
  have present (word : Nat) : ofDoubleWord word ≠ .null := by
    intro same
    cases same
  have taken {width : Width} {word : Nat} (exact : Rat) (integer : SizedInt width)
      (known : (ofDoubleWord word).toRat? = some exact)
      (part : towardZero exact = integer.toInt) :
      ((ofDoubleWord word).coerce (.integer width)).outcome = .ok (.integer width integer) := by
    refine ((coerce_integer_exact width _ (present word)).1 _).mpr ⟨exact, known, ?_⟩
    exact ⟨part ▸ integer.inRange, by simp only [part]⟩
  have refused {width : Width} {word : Nat} (value? : Option Rat)
      (known : (ofDoubleWord word).toRat? = value?)
      (outside : ∀ exact ∈ value?, ¬ width.Holds (towardZero exact)) :
      ((ofDoubleWord word).coerce (.integer width)).outcome =
        .error (.unmarshal (ofDoubleWord word).kind (Ty.integer width).name) :=
    (coerce_integer_exact width _ (present word)).2.1 fun exact here =>
      outside exact (known ▸ here)
  refine ⟨present _, ?fraction, ?below, ?beyond, ?least, ?infinite, ?notNumber⟩
  case fraction =>
    exact taken (mkRat (-0x101CCCCCCCCCCD) (2 ^ 45)) _ (by decide +kernel)
      (by decide +kernel)
  case below => exact taken (2 ^ 63 - 1024) _ (by decide +kernel) (by decide +kernel)
  case beyond =>
    refine refused (some (2 ^ 63)) (by decide +kernel) ?_
    intro exact here
    rw [← Option.mem_some_iff.mp here]
    decide +kernel
  case least => exact taken (-2 ^ 63) _ (by decide +kernel) (by decide +kernel)
  case infinite =>
    refine refused none (by decide +kernel) ?_
    intro exact here
    exact absurd here (Option.not_mem_none exact)
  case notNumber =>
    refine refused none (by decide +kernel) ?_
    intro exact here
    exact absurd here (Option.not_mem_none exact)

end Interception.Native.Value
