import Interception.Conversion.ToHost
import Interception.Proofs.Conversion.Numbers
import Interception.Proofs.Conversion.Steps

/-!
# Values that come back to the host

A host value that the native side can hold comes back in a normal form: one null, one
zero, and no integer where a number would do. A native value comes back settled after
one way to the host and back; a second one changes nothing. Arrays and the instances
in them stay where they are.
-/

set_option autoImplicit false

namespace Interception

/-- The arrays of a value, with the native instances in their places. -/
inductive Skeleton where
  | leaf
  | reference (object : Native.Object)
  | array (items : List Skeleton)

namespace Host.Value

mutual

/-- The kinds of the callbacks and host objects inside, depth first and left to right. -/
def hostOnly : Value → List Kind
  | .callback _ => [.function]
  | .object _ => [.object]
  | .array items => hostOnlyAll items
  | .undefined | .null | .boolean _ | .number _ | .bigint _ | .string _ | .wrapped _ => []

def hostOnlyAll : List Value → List Kind
  | [] => []
  | item :: items => item.hostOnly ++ hostOnlyAll items

end

mutual

def normalized : Value → Value
  | .undefined => .null
  | .number value => .number value.withPositiveZero
  | .bigint value =>
      if (value.toInt.natAbs : Int) ≤ largestSafeInteger then .ofInt value.toInt
      else .bigint value
  | .array items => .array (normalizedAll items)
  | .null => .null
  | .boolean value => .boolean value
  | .string value => .string value
  | .callback handle => .callback handle
  | .object id => .object id
  | .wrapped reference => .wrapped reference

def normalizedAll : List Value → List Value
  | [] => []
  | item :: items => item.normalized :: normalizedAll items

end

mutual

def skeleton : Value → Skeleton
  | .wrapped reference => .reference reference
  | .array items => .array (skeletonAll items)
  | .undefined | .null | .boolean _ | .number _ | .bigint _ | .string _ | .callback _
  | .object _ => .leaf

def skeletonAll : List Value → List Skeleton
  | [] => []
  | item :: items => item.skeleton :: skeletonAll items

end

end Host.Value

namespace Native.Value

mutual

def skeleton : Value → Skeleton
  | .object reference => .reference reference
  | .array items => .array (skeletonAll items)
  | .null | .boolean _ | .integer .. | .float .. | .char _ | .string _ => .leaf

def skeletonAll : List Value → List Skeleton
  | [] => []
  | item :: items => item.skeleton :: skeletonAll items

end

/-- The value after the way to the host and back, as an argument of a class. -/
def throughHost (className : String) (index : Nat) (value : Value) : Except Failure Value :=
  (value.marshal (.object className) index).bind Host.Value.toNative

@[simp] theorem marshal_object (className : String) (index : Nat) (value : Value) :
    value.marshal (.object className) index = .ok value.toHost := by
  simp [marshal, Ty.accepts]

/-! ## Numbers -/

theorem toHost_integer_of_safe {width : Width} {integer : SizedInt width}
    (safe : (integer.toInt.natAbs : Int) ≤ largestSafeInteger) :
    (Value.integer width integer).toHost = .ofInt integer.toInt := by
  cases width <;> simp only [toHost, safe, reduceIte]

theorem toHost_ofNumber (number : Binary64) :
    (ofNumber number).toHost = .number number.withPositiveZero := by
  rcases ofNumber_cases number with ⟨width, integer, same, -, safe⟩ | ⟨same, nonzero⟩
  · have nearest := toDouble?_ofNumber number
    rw [same] at nearest ⊢
    rw [toHost_integer_of_safe safe, Host.Value.ofInt, Option.some.inj nearest]
  · rw [same, toHost, Binary.withPositiveZero_eq_self nonzero]

theorem ofNumber_withPositiveZero (number : Binary64) :
    ofNumber number.withPositiveZero = ofNumber number := by
  by_cases zero : number.toInt? = some 0
  · have kept : number.withPositiveZero.toInt? = some 0 := by
      rw [Binary.toInt?, Binary.units?_withPositiveZero, ← Binary.toInt?, zero]
    unfold ofNumber
    rw [kept, zero]
    simp [Width.holds_zero]
  · rw [Binary.withPositiveZero_eq_self zero]

/-! ## What the host sees of a native value -/

mutual

theorem hostOnly_toHost : (value : Value) → value.toHost.hostOnly = []
  | .array items => by
      rw [toHost, Host.Value.hostOnly, hostOnlyAll_toHostAll items]
  | .integer .long value => by
      rw [toHost]
      split <;> rfl
  | .null | .boolean _ | .integer .byte _ | .integer .short _ | .integer .int _
  | .float .single _ | .float .double _ | .char _ | .string _ | .object _ => by
      simp only [toHost, Host.Value.ofInt, Host.Value.hostOnly]

theorem hostOnlyAll_toHostAll :
    (items : List Value) → Host.Value.hostOnlyAll (toHostAll items) = []
  | [] => rfl
  | item :: items => by
      rw [toHostAll, Host.Value.hostOnlyAll, hostOnly_toHost item, hostOnlyAll_toHostAll items]
      rfl

end

mutual

theorem skeleton_toHost : (value : Value) → value.toHost.skeleton = value.skeleton
  | .array items => by
      rw [toHost, Host.Value.skeleton, skeletonAll_toHostAll items, skeleton]
  | .integer .long value => by
      rw [toHost]
      split <;> rfl
  | .null | .boolean _ | .integer .byte _ | .integer .short _ | .integer .int _
  | .float .single _ | .float .double _ | .char _ | .string _ | .object _ => by
      simp only [toHost, Host.Value.ofInt, Host.Value.skeleton, skeleton]

theorem skeletonAll_toHostAll :
    (items : List Value) → Host.Value.skeletonAll (toHostAll items) = skeletonAll items
  | [] => rfl
  | item :: items => by
      rw [toHostAll, Host.Value.skeletonAll, skeleton_toHost item, skeletonAll_toHostAll items,
        skeletonAll]

end

mutual

/-- A host value that stands for a native one has no integer in place of a number, so
its normal form is read in the same way. -/
theorem toNative_normalized_toHost :
    (value : Value) → value.toHost.normalized.toNative = value.toHost.toNative
  | .array items => by
      rw [toHost, Host.Value.normalized, Host.Value.toNative, Host.Value.toNative,
        toNativeAll_normalizedAll_toHostAll items]
  | .integer .long value => by
      rw [toHost]
      split
      · rw [Host.Value.ofInt, Host.Value.normalized, Host.Value.toNative, Host.Value.toNative,
          ofNumber_withPositiveZero]
      · rename_i large
        rw [Host.Value.normalized, if_neg large]
  | .integer .byte _ | .integer .short _ | .integer .int _ | .float .single _
  | .float .double _ => by
      simp only [toHost, Host.Value.ofInt, Host.Value.normalized, Host.Value.toNative,
        ofNumber_withPositiveZero]
  | .null | .boolean _ | .char _ | .string _ | .object _ => by
      simp only [toHost, Host.Value.normalized]

theorem toNativeAll_normalizedAll_toHostAll :
    (items : List Value) → Host.Value.toNativeAll (Host.Value.normalizedAll (toHostAll items)) =
      Host.Value.toNativeAll (toHostAll items)
  | [] => rfl
  | item :: items => by
      rw [toHostAll, Host.Value.normalizedAll, Host.Value.toNativeAll, Host.Value.toNativeAll,
        toNative_normalized_toHost item, toNativeAll_normalizedAll_toHostAll items]

end

end Native.Value

/-! ## What the native side keeps of a host value -/

namespace Host.Value

mutual

/-- A host value without callbacks and host objects has a native counterpart, which
stands for the normal form of the value. -/
theorem comes_back : (value : Value) → value.hostOnly = [] →
    ∃ native, value.toNative = .ok native ∧ native.toHost = value.normalized
  | .undefined, _ | .null, _ | .boolean _, _ | .string _, _ | .wrapped _, _ => by
      refine ⟨_, rfl, ?_⟩
      simp only [Native.Value.toHost, normalized]
  | .number value, _ => ⟨_, rfl, Native.Value.toHost_ofNumber value⟩
  | .bigint value, _ => ⟨_, rfl, by rw [Native.Value.toHost, normalized]⟩
  | .callback _, foreign | .object _, foreign => by cases foreign
  | .array items, free => by
      obtain ⟨natives, converted, back⟩ := comes_back_all items free
      refine ⟨.array natives, ?_, ?_⟩
      · rw [toNative, converted]
        rfl
      · rw [Native.Value.toHost, back, normalized]

theorem comes_back_all : (items : List Value) → hostOnlyAll items = [] →
    ∃ natives, toNativeAll items = .ok natives ∧
      Native.Value.toHostAll natives = normalizedAll items
  | [], _ => ⟨[], rfl, rfl⟩
  | item :: items, free => by
      obtain ⟨first, rest⟩ := List.append_eq_nil_iff.mp free
      obtain ⟨native, converted, back⟩ := comes_back item first
      obtain ⟨natives, others, backAll⟩ := comes_back_all items rest
      refine ⟨native :: natives, ?_, ?_⟩
      · rw [toNativeAll, converted, others]
        rfl
      · rw [Native.Value.toHostAll, back, backAll, normalizedAll]

end

mutual

theorem skeleton_toNative : (value : Value) → {native : Native.Value} →
    value.toNative = .ok native → native.skeleton = value.skeleton
  | .array items, native, converted => by
      rw [toNative] at converted
      obtain ⟨natives, listed, rfl⟩ := ok_of_map converted
      rw [Native.Value.skeleton, skeletonAll_toNativeAll items listed, skeleton]
  | .number value, native, converted => by
      rw [toNative] at converted
      cases converted
      rcases Native.Value.ofNumber_cases value with ⟨width, integer, same, -⟩ | ⟨same, -⟩
      · rw [same, Native.Value.skeleton, skeleton]
      · rw [same, Native.Value.skeleton, skeleton]
  | .undefined, _, converted | .null, _, converted | .boolean _, _, converted
  | .bigint _, _, converted | .string _, _, converted | .wrapped _, _, converted => by
      rw [toNative] at converted
      cases converted
      rw [Native.Value.skeleton, skeleton]
  | .callback _, _, converted | .object _, _, converted => by
      rw [toNative] at converted
      cases converted

theorem skeletonAll_toNativeAll : (items : List Value) → {natives : List Native.Value} →
    toNativeAll items = .ok natives → Native.Value.skeletonAll natives = skeletonAll items
  | [], _, converted => by
      rw [toNativeAll] at converted
      cases converted
      rfl
  | item :: items, natives, converted => by
      rw [toNativeAll] at converted
      obtain ⟨native, first, converted⟩ := ok_of_bind converted
      obtain ⟨others, rest, converted⟩ := ok_of_bind converted
      cases converted
      rw [Native.Value.skeletonAll, skeleton_toNative item first,
        skeletonAll_toNativeAll items rest, skeletonAll]

end

end Host.Value

/-- A host value without callbacks and host objects comes back in its normal form, and
a native value settles on the first way to the host and back, with its arrays and
instances in their places. -/
theorem values_come_back_normal :
    (∀ value : Host.Value, value.hostOnly = [] →
      ∃ native, value.toNative = .ok native ∧
        ∀ className index,
          native.marshal (.object className) index = .ok value.normalized) ∧
    (∀ integer : SizedInt .long, (integer.toInt.natAbs : Int) ≤ largestSafeInteger →
      (Binary.ofInt integer.toInt : Binary64).toInt? = some integer.toInt) ∧
    ∀ value : Native.Value, ∃ settled : Native.Value,
      (∀ className index, value.throughHost className index = .ok settled ∧
        settled.throughHost className index = .ok settled) ∧
      settled.skeleton = value.skeleton := by
  refine ⟨?hosts, ?integers, ?natives⟩
  case hosts =>
    intro value free
    obtain ⟨native, converted, back⟩ := value.comes_back free
    refine ⟨native, converted, fun className index => ?_⟩
    rw [Native.Value.marshal_object, back]
  case integers =>
    intro integer safe
    exact (Binary.ofInt_exact (Native.Value.natAbs_lt_of_safe safe)).1
  case natives =>
    intro value
    obtain ⟨settled, converted, back⟩ := value.toHost.comes_back value.hostOnly_toHost
    refine ⟨settled, fun className index => ⟨?_, ?_⟩, ?_⟩
    · rw [Native.Value.throughHost, Native.Value.marshal_object]
      exact converted
    · rw [Native.Value.throughHost, Native.Value.marshal_object, back]
      exact value.toNative_normalized_toHost.trans converted
    · exact (Host.Value.skeleton_toNative _ converted).trans value.skeleton_toHost

/-- A missing value, two integers on both sides of the largest safe one, a negative zero,
no number, and an instance. -/
def Host.Value.mixed (row : Native.Object) : Host.Value :=
  .array [.undefined, .array [.bigint ⟨5, by decide⟩, .number (.signedZero true), .number .nan],
    .wrapped row, .bigint ⟨2 ^ 53, by decide⟩]

theorem values_come_back_normal_mixed :
    let row : Native.Object := ⟨1, "Row", .text ""⟩
    (Host.Value.mixed row).hostOnly = [] ∧
    (∃ native, (Host.Value.mixed row).toNative = .ok native ∧
      native.marshal (.object "Row") 0 =
        .ok (.array [.null, .array [.number (.ofInt 5), .number .zero, .number .nan],
          .wrapped row, .bigint ⟨2 ^ 53, by decide⟩])) ∧
    (Binary.ofInt 5 : Binary64).toInt? = some 5 ∧
    ∃ settled,
      Native.Value.throughHost "Row" 0 (.array [.float .double (.signedZero true), .object row]) =
        .ok settled ∧
      settled.throughHost "Row" 0 = .ok settled ∧
      settled.skeleton = .array [.leaf, .reference row] := by
  intro row
  obtain ⟨hosts, integers, natives⟩ := values_come_back_normal
  have free : (Host.Value.mixed row).hostOnly = [] := rfl
  obtain ⟨native, converted, back⟩ := hosts _ free
  obtain ⟨settled, stable, kept⟩ :=
    natives (.array [.float .double (.signedZero true), .object row])
  obtain ⟨once, twice⟩ := stable "Row" 0
  exact ⟨free, ⟨native, converted, back "Row" 0⟩, integers ⟨5, by decide⟩ (by decide), settled,
    once, twice, kept⟩

end Interception
