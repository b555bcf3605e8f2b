import Interception.Proofs.Conversion.Positions
import Interception.Proofs.Number.Exact

/-!
# Equality of values

What equality looks at is the essence of a value: zeros without their sign, and of
instances only which ones they are. Two values are equal when they have the same essence
and nothing in them is no number, so equality falls short of an equivalence only in that
a value with a `nan` in it does not equal itself.
-/

set_option autoImplicit false

namespace Interception

/-! ## Equality by essence -/

/-- Equality compares essences, and no value is equal to anything that is not proper. -/
structure ByEssence {α : Type} [BEq α] (Proper : α → Prop) (essence : α → α) : Prop where
  equal : ∀ left right, (left == right) = true ↔ Proper left ∧ essence left = essence right
  kept : ∀ value, Proper (essence value) ↔ Proper value
  idem : ∀ value, essence (essence value) = essence value

namespace ByEssence

variable {α : Type} [BEq α] {Proper : α → Prop} {essence : α → α}

theorem proper_of_eq (compared : ByEssence Proper essence) {left right : α}
    (same : essence left = essence right) (proper : Proper left) : Proper right := by
  apply (compared.kept right).mp
  rw [← same]
  exact (compared.kept left).mpr proper

theorem beq_essence (compared : ByEssence Proper essence) {value : α} (proper : Proper value) :
    (value == essence value) = true :=
  (compared.equal value (essence value)).mpr ⟨proper, (compared.idem value).symm⟩

theorem partialEquivBEq (compared : ByEssence Proper essence) : PartialEquivBEq α where
  symm := by
    intro left right equal
    obtain ⟨proper, same⟩ := (compared.equal left right).mp equal
    exact (compared.equal right left).mpr ⟨compared.proper_of_eq same proper, same.symm⟩
  trans := by
    intro first second third firstEqual secondEqual
    obtain ⟨proper, firstSame⟩ := (compared.equal first second).mp firstEqual
    obtain ⟨-, secondSame⟩ := (compared.equal second third).mp secondEqual
    exact (compared.equal first third).mpr ⟨proper, firstSame.trans secondSame⟩

theorem refl_iff (compared : ByEssence Proper essence) (value : α) :
    (value == value) = true ↔ Proper value := by
  rw [compared.equal]
  exact and_iff_left rfl

end ByEssence

/-! ## Equality of arrays -/

/-- Lists that are gone through together are compared item by item. -/
theorem forall₂_beq_of_steps {α : Type} [BEq α] {equalsAll : List α → List α → Bool}
    (nil : equalsAll [] [] = true) (longer : ∀ left lefts, equalsAll (left :: lefts) [] = false)
    (shorter : ∀ right rights, equalsAll [] (right :: rights) = false)
    (cons : ∀ left lefts right rights,
      equalsAll (left :: lefts) (right :: rights) = (left == right && equalsAll lefts rights))
    {lefts rights : List α} :
    equalsAll lefts rights = true ↔ List.Forall₂ (· == ·) lefts rights := by
  induction lefts generalizing rights with
  | nil =>
      cases rights with
      | nil => exact iff_of_true nil .nil
      | cons right rights => exact iff_of_false (by simp [shorter]) nofun
  | cons left lefts ih =>
      cases rights with
      | nil => exact iff_of_false (by simp [longer]) nofun
      | cons right rights => simp [cons, ih]

namespace Arrayed

variable {α : Type} [Arrayed α] [BEq α] {Proper : α → Prop} {essence : α → α}

/-- Equality compares arrays item by item, and anything else by essence. -/
structure Compared (Proper : α → Prop) (essence : α → α) : Prop where
  itemwise : Itemwise essence
  kept : ∀ part, Proper (essence part) ↔ Proper part
  leaf : ∀ left : α, (∀ items, left ≠ Arrayed.array items) → ∀ right,
    (left == right) = true ↔ Proper left ∧ essence left = essence right
  idem : ∀ value : α, (∀ items, value ≠ Arrayed.array items) →
    essence (essence value) = essence value
  proper : ∀ items, Proper (Arrayed.array items)
  array : ∀ lefts rights : List α,
    (Arrayed.array lefts == Arrayed.array rights) = true ↔ List.Forall₂ (· == ·) lefts rights
  apart : ∀ (items : List α) right, (∀ others, right ≠ Arrayed.array others) →
    (Arrayed.array items == right) = false

namespace Compared

omit [Arrayed α] in
theorem equalAll {items others : List α}
    (each : ∀ item ∈ items, ∀ other,
      (item == other) = true ↔ Proper item ∧ essence item = essence other) :
    List.Forall₂ (· == ·) items others ↔
      (∀ item ∈ items, Proper item) ∧ items.map essence = others.map essence := by
  induction items generalizing others with
  | nil =>
      cases others with
      | nil => exact iff_of_true .nil ⟨nofun, rfl⟩
      | cons other others => exact iff_of_false nofun nofun
  | cons item items ih =>
      obtain ⟨first, rest⟩ := List.forall_mem_cons.mp each
      cases others with
      | nil => exact iff_of_false nofun nofun
      | cons other others =>
          rw [List.forall₂_cons, first, ih rest, List.forall_mem_cons, List.map_cons, List.map_cons,
            List.cons.injEq]
          exact and_and_and_comm

theorem equal (compared : Compared Proper essence) (left : α) :
    ∀ right, (left == right) = true ↔ Everywhere Proper left ∧ essence left = essence right := by
  -- On the left value alone: an array equals arrays only, and has the essence of arrays only.
  induction left using induct with
  | leaf left leaf =>
      intro right
      rw [everywhere_leaf_iff leaf]
      exact compared.leaf left leaf right
  | array items each =>
      intro right
      rw [everywhere_array_iff, and_iff_right (compared.proper items), compared.itemwise.array]
      obtain leaf | ⟨others, rfl⟩ := leaf_or_array right
      · rw [compared.apart items right leaf]
        refine iff_of_false nofun fun equal => ?_
        exact compared.itemwise.leaf right leaf _ equal.2.symm
      · rw [compared.array, compared.itemwise.array, array_inj]
        exact equalAll each

/-- Equal are values of the same essence that are proper everywhere. -/
theorem byEssence (compared : Compared Proper essence) :
    ByEssence (Everywhere Proper) essence where
  equal := compared.equal
  kept _ := compared.itemwise.everywhere_iff compared.kept
  idem := compared.itemwise.idem compared.idem

end Compared

end Arrayed

/-! ## Numbers and instances -/

namespace Binary

variable {precision : Precision}

theorem beq_iff {left right : Binary precision} :
    (left == right) = true ↔
      left ≠ .nan ∧ left.withPositiveZero = right.withPositiveZero := by
  show left.equals right = true ↔ _
  cases left with
  | nan => simp [equals]
  | signed leftNegative leftRank leftBounded =>
      cases right with
      | nan => simp [equals, withPositiveZero]
      | signed rightNegative rightRank rightBounded =>
          rw [and_iff_right (by simp), equals, Bool.and_eq_true, Bool.or_eq_true, beq_iff_eq,
            beq_iff_eq, beq_iff_eq, withPositiveZero, withPositiveZero]
          constructor
          · intro same
            obtain ⟨rfl, rfl | zero⟩ := same
            · rfl
            · simp [zero]
          · intro same
            obtain ⟨sign, rfl⟩ := signed.inj same
            refine ⟨rfl, ?_⟩
            by_cases zero : leftRank = 0
            · exact .inr zero
            · rw [bne_iff_ne.mpr zero, Bool.and_true, Bool.and_true] at sign
              exact .inl sign

theorem withPositiveZero_idem (number : Binary precision) :
    number.withPositiveZero.withPositiveZero = number.withPositiveZero := by
  cases number with
  | nan => rfl
  | signed negative rank bounded => simp [withPositiveZero]

theorem byEssence : ByEssence (· ≠ (.nan : Binary precision)) withPositiveZero where
  equal _ _ := beq_iff
  kept number := by cases number <;> simp [withPositiveZero]
  idem := withPositiveZero_idem

instance : PartialEquivBEq (Binary precision) := byEssence.partialEquivBEq

end Binary

namespace Native.Object

/-- The instance without what its owner knows of it. -/
def essence (object : Object) : Object :=
  ⟨object.instanceId, "", .text ""⟩

theorem essence_inj {left right : Object} :
    left.essence = right.essence ↔ left.instanceId = right.instanceId := by
  simp [essence]

end Native.Object

/-! ## Native values -/

namespace Native.Value

mutual

def essence : Value → Value
  | .float precision value => .float precision value.withPositiveZero
  | .array items => .array (essenceAll items)
  | .object reference => .object reference.essence
  | .null => .null
  | .boolean value => .boolean value
  | .integer width value => .integer width value
  | .char value => .char value
  | .string value => .string value

def essenceAll : List Value → List Value
  | [] => []
  | item :: items => item.essence :: essenceAll items

end

theorem essence_array (items : List Value) :
    (array items).essence = .array (items.map essence) :=
  congrArg array (Arrayed.eq_map_of_cons rfl (fun _ _ => rfl) items)

theorem essence_itemwise : Arrayed.Itemwise essence where
  array := essence_array
  leaf value leaf items := by
    cases value with
    | array inner => exact absurd rfl (leaf inner)
    | _ => nofun

/-- Nothing in the value is no number. -/
def NanFree (value : Value) : Prop :=
  value.Everywhere fun part => ∀ precision, part ≠ .float precision .nan

theorem nanFree_array_iff {items : List Value} :
    (array items).NanFree ↔ ∀ item ∈ items, item.NanFree :=
  Arrayed.everywhere_array_iff.trans (and_iff_right nofun)

theorem nanFree_leaf_iff (value : Value) (leaf : ∀ items, value ≠ .array items) :
    value.NanFree ↔ ∀ precision, value ≠ .float precision .nan :=
  Arrayed.everywhere_leaf_iff leaf

theorem float_ne_nan_iff {precision : Precision} {number : Binary precision} :
    (∀ other, float precision number ≠ .float other .nan) ↔ number ≠ .nan := by
  constructor
  · intro proper same
    exact proper precision (congrArg (float precision) same)
  · intro proper other same
    cases same
    exact proper rfl

theorem nanFree_float_iff {precision : Precision} {number : Binary precision} :
    (float precision number).NanFree ↔ number ≠ .nan := by
  rw [nanFree_leaf_iff (float precision number) (by simp), float_ne_nan_iff]

theorem essence_eq_nan_iff {value : Value} {precision : Precision} :
    value.essence = .float precision .nan ↔ value = .float precision .nan := by
  cases value with
  | float own number =>
      constructor
      · intro same
        cases number with
        | nan => exact same
        | signed => cases same
      · intro same
        rw [same]
        rfl
  | _ => simp [essence]

theorem integer_eq_iff {leftWidth rightWidth : Width} {left : SizedInt leftWidth}
    {right : SizedInt rightWidth} :
    integer leftWidth left = integer rightWidth right ↔
      leftWidth = rightWidth ∧ left.toInt = right.toInt := by
  constructor
  · intro same
    cases same
    exact ⟨rfl, rfl⟩
  · intro same
    obtain ⟨rfl, same⟩ := same
    cases left
    cases same
    rfl

-- Values of different constructors are not equal, nor are their essences. What remains
-- are pairs of one constructor.
theorem beq_leaf_iff (left : Value) (leaf : ∀ items, left ≠ .array items) (right : Value) :
    (left == right) = true ↔
      (∀ precision, left ≠ .float precision .nan) ∧ left.essence = right.essence := by
  show left.equals right = true ↔ _
  cases left with
  | array items => exact absurd rfl (leaf items)
  | float precision left =>
      rw [float_ne_nan_iff]
      cases right with
      | float other right =>
          cases precision <;> cases other <;> simp [equals, essence, Binary.beq_iff]
      | _ => cases precision <;> simp [equals, essence]
  | integer width left =>
      cases right with
      | integer other right =>
          rw [and_iff_right nofun, equals, essence, essence, Bool.and_eq_true, beq_iff_eq,
            beq_iff_eq, integer_eq_iff]
      | _ => simp [equals, essence]
  | object left =>
      cases right <;> simp [equals, essence, Object.beq_iff, Object.essence_inj]
  | _ => cases right <;> simp [equals, essence]

theorem beq_array_iff {lefts rights : List Value} :
    (array lefts == array rights) = true ↔ List.Forall₂ (· == ·) lefts rights :=
  forall₂_beq_of_steps rfl (fun _ _ => rfl) (fun _ _ => rfl) (fun _ _ _ _ => rfl)

theorem compared :
    Arrayed.Compared (fun part : Value => ∀ precision, part ≠ .float precision .nan) essence where
  itemwise := essence_itemwise
  kept _ := forall_congr' fun _ => not_congr essence_eq_nan_iff
  leaf := beq_leaf_iff
  idem value leaf := by
    cases value with
    | array items => exact absurd rfl (leaf items)
    | float precision number => simp [essence, Binary.withPositiveZero_idem]
    | _ => rfl
  proper _ := nofun
  array _ _ := beq_array_iff
  apart items right leaf := by
    cases right with
    | array others => exact absurd rfl (leaf others)
    | _ => rfl

theorem byEssence : ByEssence NanFree essence :=
  compared.byEssence

instance : PartialEquivBEq Value := byEssence.partialEquivBEq

theorem beq_self_of_leaf (value : Value) (leaf : ∀ items, value ≠ .array items)
    (proper : ∀ precision, value ≠ .float precision .nan) : (value == value) = true :=
  (byEssence.refl_iff value).mpr ((nanFree_leaf_iff value leaf).mpr proper)

end Native.Value

/-! ## Host values -/

namespace Host.Value

mutual

def essence : Value → Value
  | .number value => .number value.withPositiveZero
  | .array items => .array (essenceAll items)
  | .wrapped reference => .wrapped reference.essence
  | .undefined => .undefined
  | .null => .null
  | .boolean value => .boolean value
  | .bigint value => .bigint value
  | .string value => .string value
  | .callback handle => .callback handle
  | .object id => .object id

def essenceAll : List Value → List Value
  | [] => []
  | item :: items => item.essence :: essenceAll items

end

theorem essence_array (items : List Value) :
    (array items).essence = .array (items.map essence) :=
  congrArg array (Arrayed.eq_map_of_cons rfl (fun _ _ => rfl) items)

theorem essence_itemwise : Arrayed.Itemwise essence where
  array := essence_array
  leaf value leaf items := by
    cases value with
    | array inner => exact absurd rfl (leaf inner)
    | _ => nofun

/-- Nothing in the value is no number. -/
def NanFree (value : Value) : Prop :=
  value.Everywhere fun part => part ≠ .number .nan

theorem nanFree_array_iff {items : List Value} :
    (array items).NanFree ↔ ∀ item ∈ items, item.NanFree :=
  Arrayed.everywhere_array_iff.trans (and_iff_right nofun)

theorem nanFree_leaf_iff (value : Value) (leaf : ∀ items, value ≠ .array items) :
    value.NanFree ↔ value ≠ .number .nan :=
  Arrayed.everywhere_leaf_iff leaf

theorem essence_eq_nan_iff {value : Value} :
    value.essence = .number .nan ↔ value = .number .nan := by
  cases value with
  | number number => cases number <;> simp [essence, Binary.withPositiveZero]
  | _ => simp [essence]

theorem beq_leaf_iff (left : Value) (leaf : ∀ items, left ≠ .array items) (right : Value) :
    (left == right) = true ↔ left ≠ .number .nan ∧ left.essence = right.essence := by
  show left.equals right = true ↔ _
  cases left with
  | array items => exact absurd rfl (leaf items)
  | number left => cases right <;> simp [equals, essence, Binary.beq_iff]
  | bigint left => cases right <;> simp [equals, essence, SizedInt.toInt_inj]
  | wrapped left =>
      cases right <;> simp [equals, essence, Native.Object.beq_iff, Native.Object.essence_inj]
  | _ => cases right <;> simp [equals, essence]

theorem beq_array_iff {lefts rights : List Value} :
    (array lefts == array rights) = true ↔ List.Forall₂ (· == ·) lefts rights :=
  forall₂_beq_of_steps rfl (fun _ _ => rfl) (fun _ _ => rfl) (fun _ _ _ _ => rfl)

theorem compared : Arrayed.Compared (· ≠ (.number .nan : Value)) essence where
  itemwise := essence_itemwise
  kept _ := not_congr essence_eq_nan_iff
  leaf := beq_leaf_iff
  idem value leaf := by
    cases value with
    | array items => exact absurd rfl (leaf items)
    | number number => simp [essence, Binary.withPositiveZero_idem]
    | _ => rfl
  proper _ := nofun
  array _ _ := beq_array_iff
  apart items right leaf := by
    cases right with
    | array others => exact absurd rfl (leaf others)
    | _ => rfl

theorem byEssence : ByEssence NanFree essence :=
  compared.byEssence

instance : PartialEquivBEq Value := byEssence.partialEquivBEq

theorem beq_self_of_leaf (value : Value) (leaf : ∀ items, value ≠ .array items)
    (proper : value ≠ .number .nan) : (value == value) = true :=
  (byEssence.refl_iff value).mpr ((nanFree_leaf_iff value leaf).mpr proper)

end Host.Value

end Interception
