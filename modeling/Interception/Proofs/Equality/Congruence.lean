import Interception.Proofs.Conversion.NormalForm
import Interception.Proofs.Equality.Values

/-!
# Conversions of equal values

No conversion tells equal values apart. A value that equals itself equals its essence, so it
is enough that a conversion agrees on each value with its essence, and this needs no
look at two values at once.
-/

set_option autoImplicit false

namespace Interception

/-! ## Outcomes that agree -/

/-- Equal failures, or results that are the same in some sense. -/
inductive Agree {α : Type} (same : α → α → Prop) : Except Failure α → Except Failure α → Prop where
  | failed (failure : Failure) : Agree same (.error failure) (.error failure)
  | given {left right : α} (alike : same left right) : Agree same (.ok left) (.ok right)

namespace Agree

variable {α β : Type} {same : α → α → Prop} {after : β → β → Prop}

theorem bind {left right : Except Failure α} {leftNext rightNext : α → Except Failure β}
    (agree : Agree same left right)
    (next : ∀ leftValue rightValue, same leftValue rightValue →
      Agree after (leftNext leftValue) (rightNext rightValue)) :
    Agree after (left.bind leftNext) (right.bind rightNext) := by
  cases agree with
  | failed failure => exact .failed failure
  | given alike => exact next _ _ alike

theorem map {left right : Except Failure α} {leftChange rightChange : α → β}
    (agree : Agree same left right)
    (kept : ∀ leftValue rightValue, same leftValue rightValue →
      after (leftChange leftValue) (rightChange rightValue)) :
    Agree after (left.map leftChange) (right.map rightChange) := by
  cases agree with
  | failed failure => exact .failed failure
  | given alike => exact .given (kept _ _ alike)

variable [BEq α] [PartialEquivBEq α]

theorem symm {left right : Except Failure α} (agree : Agree (· == ·) left right) :
    Agree (· == ·) right left := by
  cases agree with
  | failed failure => exact .failed failure
  | given equal => exact .given (PartialEquivBEq.symm equal)

theorem trans {first second third : Except Failure α} (left : Agree (· == ·) first second)
    (right : Agree (· == ·) second third) : Agree (· == ·) first third := by
  cases left with
  | failed failure => exact right
  | given leftEqual =>
      cases right with
      | given rightEqual => exact .given (PartialEquivBEq.trans leftEqual rightEqual)

end Agree

theorem rel_map {α β : Type} {same : α → α → Prop} {after : β → β → Prop} {change : α → β}
    {left right : Option α} (related : Option.Rel same left right)
    (kept : ∀ leftValue rightValue, same leftValue rightValue →
      after (change leftValue) (change rightValue)) :
    Option.Rel after (left.map change) (right.map change) := by
  cases related with
  | none => exact .none
  | some alike => exact .some (kept _ _ alike)

/-- What agrees on each proper value with its essence agrees on equal values. -/
theorem ByEssence.agree {α β : Type} [BEq α] [BEq β] [PartialEquivBEq β] {Proper : α → Prop}
    {essence : α → α} (compared : ByEssence Proper essence) {conversion : α → Except Failure β}
    (reduced : ∀ value, Proper value →
      Agree (· == ·) (conversion value) (conversion (essence value)))
    {left right : α} (equal : (left == right) = true) :
    Agree (· == ·) (conversion left) (conversion right) := by
  obtain ⟨proper, same⟩ := (compared.equal left right).mp equal
  have leftReduced := reduced left proper
  rw [same] at leftReduced
  exact leftReduced.trans (reduced right (compared.proper_of_eq same proper)).symm

/-! ## Numbers -/

namespace Binary

variable {source target : Precision}

theorem convert_ne_nan {number : Binary source} (proper : number ≠ .nan) :
    (number.convert : Binary target) ≠ .nan := by
  cases number with
  | nan => exact absurd rfl proper
  | signed negative rank bounded =>
      rw [convert]
      split <;> simp [ofQuotient]

theorem convert_zero (negative : Bool) (bounded : 0 ≤ source.top) :
    (signed negative 0 bounded : Binary source).convert =
      (signed negative 0 (Nat.zero_le _) : Binary target) := by
  have finite : 0 ≠ source.top := by cases source <;> decide
  rw [convert, if_neg finite]
  refine ofQuotient_eq_signed (Nat.two_pow_pos _) (Nat.zero_le _) ?_
  rw [source.size_zero, target.size_zero, Nat.zero_mul, Nat.zero_mul]

/-- Zeros are converted to zeros. -/
theorem convert_essence (number : Binary source) :
    (number.convert : Binary target).withPositiveZero =
      number.withPositiveZero.convert.withPositiveZero := by
  cases number with
  | nan => rfl
  | signed negative rank bounded =>
      by_cases zero : rank = 0
      · subst zero
        rw [withPositiveZero, convert_zero, convert_zero]
        simp [withPositiveZero]
      · have kept : (negative && rank != 0) = negative := by simp [zero]
        rw [withPositiveZero, kept]

theorem beq_convert {left right : Binary source} (equal : (left == right) = true) :
    (left.convert == (right.convert : Binary target)) = true := by
  obtain ⟨proper, same⟩ := beq_iff.mp equal
  refine beq_iff.mpr ⟨convert_ne_nan proper, ?_⟩
  rw [left.convert_essence, same, ← right.convert_essence]

end Binary

/-! ## Native values to the host -/

namespace Native.Value

theorem kind_essence (value : Value) : value.essence.kind = value.kind := by
  cases value with
  | float precision number => cases precision <;> rfl
  | integer width integer => cases width <;> rfl
  | _ => rfl

theorem accepts_essence (declared : Ty) (value : Value) :
    declared.accepts value.essence = declared.accepts value := by
  induction declared generalizing value with
  | array element ih =>
      cases value with
      | array items =>
          rw [essence_array, Ty.accepts, Ty.accepts, Ty.acceptsAll_eq_all, Ty.acceptsAll_eq_all,
            List.all_map]
          exact congrArg items.all (funext ih)
      | _ => rfl
  | _ => cases value <;> rfl

mutual

theorem beq_toHost : (value : Value) → value.NanFree →
    (value.toHost == value.essence.toHost) = true
  | .array items, free => by
      rw [essence, toHost, toHost, Host.Value.beq_array_iff]
      exact beqAll_toHost items (nanFree_array_iff.mp free)
  | .float .single number, free => by
      rw [essence, toHost, toHost]
      exact Binary.beq_convert (Binary.byEssence.beq_essence (nanFree_float_iff.mp free))
  | .float .double number, free => by
      rw [essence, toHost, toHost]
      exact Binary.byEssence.beq_essence (nanFree_float_iff.mp free)
  | .object reference, _ => by
      rw [essence, toHost, toHost]
      exact Object.beq_iff.mpr rfl
  | .integer .long whole, _ => by
      rw [essence, toHost]
      split
      · exact Host.Value.beq_self_of_leaf (.ofInt whole.toInt) nofun nofun
      · exact Host.Value.beq_self_of_leaf (.bigint whole) nofun nofun
  | .integer .byte whole, _ | .integer .short whole, _ | .integer .int whole, _ =>
      Host.Value.beq_self_of_leaf (.ofInt whole.toInt) nofun nofun
  | .null, _ => rfl
  | .boolean value, _ => Host.Value.beq_self_of_leaf (.boolean value) nofun nofun
  | .char value, _ => Host.Value.beq_self_of_leaf (.string value.toString) nofun nofun
  | .string value, _ => Host.Value.beq_self_of_leaf (.string value) nofun nofun

theorem beqAll_toHost : (items : List Value) → (∀ item ∈ items, item.NanFree) →
    List.Forall₂ (· == ·) (toHostAll items) (toHostAll (essenceAll items))
  | [], _ => .nil
  | item :: items, free => by
      obtain ⟨first, rest⟩ := List.forall_mem_cons.mp free
      exact .cons (beq_toHost item first) (beqAll_toHost items rest)

end

theorem marshal_agrees (declared : Ty) (index : Nat) (value : Value) (free : value.NanFree) :
    Agree (· == ·) (value.marshal declared index) (value.essence.marshal declared index) := by
  rw [marshal, marshal, accepts_essence, kind_essence]
  split
  · exact .given (value.beq_toHost free)
  · exact .failed _

/-! ## Coercion to a declared type -/

theorem truncate?_essence (value : Value) : value.essence.truncate? = value.truncate? := by
  cases value with
  | float precision number =>
      rw [essence, truncate?, truncate?, Binary.truncate?, Binary.truncate?,
        Binary.units?_withPositiveZero]
  | _ => rfl

theorem toChar?_essence (value : Value) : value.essence.toChar? = value.toChar? := by
  cases value <;> rfl

theorem toDouble?_essence {value : Value} (free : value.NanFree) :
    Option.Rel (· == ·) value.toDouble? value.essence.toDouble? := by
  cases value with
  | float precision number =>
      have equal := Binary.byEssence.beq_essence (nanFree_float_iff.mp free)
      cases precision with
      | single => exact .some (Binary.beq_convert equal)
      | double => exact .some equal
  | integer width integer => exact .some (Binary.beq_iff.mpr ⟨nofun, rfl⟩)
  | _ => exact .none

theorem narrow?_essence (target : Ty) {value : Value} (free : value.NanFree) :
    Option.Rel (· == ·) (value.narrow? target) (value.essence.narrow? target) := by
  cases target with
  | void => exact .none
  | array element => exact .none
  | object className => exact .some (byEssence.beq_essence free)
  | boolean =>
      cases value with
      | boolean value => exact .some (beq_self_of_leaf (.boolean value) (by simp) (by simp))
      | _ => exact .none
  | integer width =>
      rw [narrow?_integer, narrow?_integer, truncate?_essence]
      cases (value.truncate?.bind SizedInt.ofInt? : Option (SizedInt width)) with
      | none => exact .none
      | some integer => exact .some (beq_self_of_leaf (.integer width integer) (by simp) (by simp))
  | float precision =>
      have doubles := toDouble?_essence free
      cases precision with
      | single => exact rel_map doubles fun _ _ equal => Binary.beq_convert equal
      | double => exact rel_map doubles fun _ _ equal => equal
  | char =>
      rw [narrow?, narrow?, toChar?_essence]
      cases value.toChar? with
      | none => exact .none
      | some character => exact .some (beq_self_of_leaf (.char character) (by simp) (by simp))
  | string =>
      cases value with
      | string text => exact .some (beq_self_of_leaf (.string text) (by simp) (by simp))
      | char character =>
          exact .some (beq_self_of_leaf (.string character.toString) (by simp) (by simp))
      | _ => exact .none

theorem narrow_agrees (target : Ty) {value : Value} (free : value.NanFree) :
    Agree (· == ·) (value.narrow target).outcome (value.essence.narrow target).outcome := by
  have narrowed := narrow?_essence target free
  rw [narrow, narrow, kind_essence]
  generalize value.narrow? target = left, value.essence.narrow? target = right at narrowed
  cases narrowed with
  | none => exact .failed _
  | some equal => exact .given equal

theorem coerceAll_agrees {element : Ty} {items : List Value}
    (each : ∀ item ∈ items, Agree (· == ·) (item.coerce element).outcome
      (item.essence.coerce element).outcome) :
    Agree (List.Forall₂ (· == ·)) (coerceAll element items).outcome
      (coerceAll element (essenceAll items)).outcome := by
  induction items with
  | nil => exact .given .nil
  | cons item items ih =>
      obtain ⟨first, rest⟩ := List.forall_mem_cons.mp each
      rw [essenceAll, coerceAll, coerceAll, Coercion.outcome_andThen, Coercion.outcome_andThen]
      refine first.bind fun left right equal => ?_
      exact (ih rest).map fun lefts rights others => .cons equal others

theorem coerce_agrees (target : Ty) (value : Value) (free : value.NanFree) :
    Agree (· == ·) (value.coerce target).outcome (value.essence.coerce target).outcome := by
  -- Below an array the element type is all that is left of the target.
  induction target generalizing value with
  | void => cases value <;> exact .given rfl
  | array element ih =>
      cases value with
      | array items =>
          rw [essence, coerce, coerce]
          have each := coerceAll_agrees fun item member =>
            ih item (nanFree_array_iff.mp free item member)
          exact each.map fun lefts rights equal => beq_array_iff.mpr equal
      | null => exact .given rfl
      | _ => exact narrow_agrees _ free
  | _ =>
      cases value with
      | null => exact .given (beq_self_of_leaf _ nofun nofun)
      | _ => exact narrow_agrees _ free

end Native.Value

/-! ## Host values to native values -/

theorem Native.Value.beq_ofNumber {number : Binary64} (proper : number ≠ .nan) :
    (ofNumber number == ofNumber number) = true := by
  rcases ofNumber_cases number with ⟨width, whole, same, -⟩ | ⟨same, -⟩
  · rw [same]
    exact beq_self_of_leaf (.integer width whole) (by simp) (by simp)
  · rw [same]
    exact (byEssence.refl_iff _).mpr (nanFree_float_iff.mpr proper)

namespace Host.Value

mutual

theorem toNative_agrees : (value : Value) → value.NanFree →
    Agree (· == ·) value.toNative value.essence.toNative
  | .array items, free => by
      rw [essence, toNative, toNative]
      have all := toNativeAll_agrees items (nanFree_array_iff.mp free)
      exact all.map fun lefts rights equal => Native.Value.beq_array_iff.mpr equal
  | .number value, free => by
      rw [essence, toNative, toNative, Native.Value.ofNumber_withPositiveZero]
      exact .given (Native.Value.beq_ofNumber fun lost => free [] _ rfl (by rw [lost]))
  | .wrapped reference, _ => .given (Native.Object.beq_iff.mpr rfl)
  | .undefined, _ | .null, _ => .given rfl
  | .boolean value, _ => .given (Native.Value.beq_self_of_leaf (.boolean value) nofun nofun)
  | .bigint value, _ =>
      .given (Native.Value.beq_self_of_leaf (.integer .long value) nofun nofun)
  | .string value, _ => .given (Native.Value.beq_self_of_leaf (.string value) nofun nofun)
  | .callback _, _ | .object _, _ => .failed _

theorem toNativeAll_agrees : (items : List Value) → (∀ item ∈ items, item.NanFree) →
    Agree (List.Forall₂ (· == ·)) (toNativeAll items) (toNativeAll (essenceAll items))
  | [], _ => .given .nil
  | item :: items, free => by
      obtain ⟨first, rest⟩ := List.forall_mem_cons.mp free
      rw [essenceAll, toNativeAll, toNativeAll]
      refine (toNative_agrees item first).bind fun left right equal => ?_
      refine (toNativeAll_agrees items rest).bind fun lefts rights others => ?_
      exact .given (.cons equal others)

end

end Host.Value

/-! ## Values that are not told apart -/

/-- Whatever a type is asked to do with one of the values it does alike with the other. -/
structure Interchangeable (left right : Native.Value) : Prop where
  accepted : ∀ declared : Native.Ty, declared.accepts left = declared.accepts right
  marshaled : ∀ declared index,
    Agree (· == ·) (left.marshal declared index) (right.marshal declared index)
  coerced : ∀ target, Agree (· == ·) (left.coerce target).outcome (right.coerce target).outcome

theorem Native.Value.interchangeable {left right : Value} (equal : (left == right) = true) :
    Interchangeable left right where
  accepted := by
    intro declared
    obtain ⟨-, same⟩ := (byEssence.equal left right).mp equal
    rw [← accepts_essence declared left, same, accepts_essence]
  marshaled declared index := byEssence.agree (marshal_agrees declared index) equal
  coerced target := byEssence.agree (coerce_agrees target) equal

/-- Equality of values on either side is a partial equivalence, under which exactly the
values without a `nan` stand for themselves. It looks at instances for their identity and
at zeros without their sign, and no conversion takes equal values to different ones. -/
theorem value_equality_respected :
    (PartialEquivBEq Native.Value ∧
      ∀ value : Native.Value, (value == value) = true ↔ value.NanFree) ∧
    (PartialEquivBEq Host.Value ∧
      ∀ value : Host.Value, (value == value) = true ↔ value.NanFree) ∧
    (∀ left right : Native.Object,
      ((Native.Value.object left == .object right) = true ↔
        left.instanceId = right.instanceId) ∧
      ((Host.Value.wrapped left == .wrapped right) = true ↔
        left.instanceId = right.instanceId)) ∧
    (∀ left right,
      (∀ precision, (Native.Value.float precision (.signedZero left) ==
        .float precision (.signedZero right)) = true) ∧
      (Host.Value.number (.signedZero left) == .number (.signedZero right)) = true) ∧
    (∀ left right : Native.Value, (left == right) = true → Interchangeable left right) ∧
    (∀ left right : Host.Value, (left == right) = true →
      Agree (· == ·) left.toNative right.toNative) := by
  refine ⟨⟨inferInstance, Native.Value.byEssence.refl_iff⟩,
    ⟨inferInstance, Host.Value.byEssence.refl_iff⟩, ?instances, ?zeros,
    fun left right equal => Native.Value.interchangeable equal,
    fun left right equal => Host.Value.byEssence.agree Host.Value.toNative_agrees equal⟩
  case instances =>
    intro left right
    exact ⟨Native.Object.beq_iff, Native.Object.beq_iff⟩
  case zeros =>
    intro left right
    have equal : ∀ precision : Precision,
        ((.signedZero left : Binary precision) == .signedZero right) = true := by
      intro precision
      cases left <;> cases right <;> rfl
    refine ⟨fun precision => ?_, equal .double⟩
    cases precision
    · exact equal .single
    · exact equal .double

/-- A zero and an instance beside each other, two arrays deep. -/
def Native.Value.twin (negative : Bool) (className : String) : Native.Value :=
  .array [.array [.float .double (.signedZero negative), .object ⟨1, className, .text className⟩]]

theorem value_equality_respected_twins :
    (Native.Value.twin true "Row" == .twin false "Column") = true ∧
    Interchangeable (.twin true "Row") (.twin false "Column") ∧
    (Host.Value.number (.signedZero true) == .number .zero) = true ∧
    Agree (· == ·) (Host.Value.number (.signedZero true)).toNative
      (Host.Value.number .zero).toNative ∧
    ¬ (Native.Value.array [.float .double .nan] == .array [.float .double .nan]) = true := by
  obtain ⟨⟨-, natives⟩, -, -, zeros, interchangeable, agree⟩ := value_equality_respected
  have equal : (Native.Value.twin true "Row" == .twin false "Column") = true := rfl
  have zero := (zeros true false).2
  refine ⟨equal, interchangeable _ _ equal, zero, agree _ _ zero, ?_⟩
  rw [natives]
  intro free
  exact free [0] _ rfl .double rfl

end Interception
