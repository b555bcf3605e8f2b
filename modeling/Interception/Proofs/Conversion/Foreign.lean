import Interception.Proofs.Conversion.NormalForm
import Interception.Proofs.Conversion.Positions

/-!
# Host values without native counterpart

A callback or a host object, at whatever position, keeps a host value from becoming a
native one, and nothing else does. Of several the first is reported, as the value is read
from left to right and inward. What becomes native has its arrays as before, and the
same instances in them.
-/

set_option autoImplicit false

namespace Interception.Host.Value

/-- The values that the native side has no counterpart of, by their kinds. -/
inductive Foreign : Value → Kind → Prop where
  | callback {handle : Handle} : Foreign (.callback handle) .function
  | object {id : ObjectId} : Foreign (.object id) .object

/-- Nothing foreign is at any position. -/
def Portable (value : Value) : Prop :=
  value.Everywhere fun part => ∀ kind, ¬ Foreign part kind

/-- The value at the position is foreign, and none that is read before it. -/
structure FirstForeign (value : Value) (position : Position) (kind : Kind) : Prop where
  here : ∃ part, value.at? position = some part ∧ Foreign part kind
  first : ∀ earlier < position, ∀ part other, value.at? earlier = some part →
    ¬ Foreign part other

theorem FirstForeign.not_portable {value : Value} {position : Position} {kind : Kind}
    (foreign : FirstForeign value position kind) : ¬ value.Portable := by
  obtain ⟨part, found, alone⟩ := foreign.here
  intro portable
  exact portable position part found kind alone

theorem FirstForeign.unique {value : Value} {position other : Position} {kind otherKind : Kind}
    (left : FirstForeign value position kind) (right : FirstForeign value other otherKind) :
    position = other ∧ kind = otherKind := by
  obtain ⟨part, found, foreign⟩ := left.here
  obtain ⟨otherPart, otherFound, otherForeign⟩ := right.here
  have notBefore : ¬ position < other := fun before =>
    right.first position before part kind found foreign
  have notAfter : ¬ other < position := fun after =>
    left.first other after otherPart otherKind otherFound otherForeign
  have same : position = other :=
    List.le_antisymm (List.not_lt.mp notAfter) (List.not_lt.mp notBefore)
  subst same
  cases Option.some.inj (found.symm.trans otherFound)
  cases foreign <;> cases otherForeign <;> exact ⟨rfl, rfl⟩

/-! ## Reading a value -/

theorem portable_of_leaf {value : Value} (leaf : ∀ items, value ≠ .array items)
    (native : ∀ kind, ¬ Foreign value kind) : value.Portable :=
  (Arrayed.everywhere_leaf_iff leaf).mpr native

theorem portable_array {items : List Value} (all : ∀ item ∈ items, item.Portable) :
    (array items).Portable :=
  Arrayed.everywhere_array_iff.mpr ⟨nofun, all⟩

/-- The first foreign value of an array is the first of its first item with any. -/
theorem firstForeign_array (before : List Value) {after : List Value} {found : Value}
    {position : Position} {kind : Kind} (portable : ∀ item ∈ before, item.Portable)
    (first : FirstForeign found position kind) :
    FirstForeign (array (before ++ found :: after)) (before.length :: position) kind where
  here := by
    obtain ⟨part, there, foreign⟩ := first.here
    refine ⟨part, ?_, foreign⟩
    refine (Arrayed.at?_array _ _ _).trans ?_
    rw [List.getElem?_append_right (Nat.le_refl _), Nat.sub_self]
    exact there
  first := by
    intro earlier sooner part other there
    cases earlier with
    | nil =>
        cases there
        nofun
    | cons index rest =>
        obtain ⟨item, listed, there⟩ := Option.bind_eq_some_iff.mp there
        obtain left | ⟨rfl, inside⟩ := List.cons_lt_cons_iff.mp sooner
        · rw [List.getElem?_append_left left] at listed
          exact portable item (List.mem_of_getElem? listed) rest part there other
        · rw [List.getElem?_append_right (Nat.le_refl _), Nat.sub_self] at listed
          cases listed
          exact first.first rest inside part other there

/-! ## Conversion -/

mutual

/-- A value is converted as a whole or refused for the first foreign value in it. -/
theorem toNative_cases : (value : Value) →
    (value.Portable ∧ ∃ native, value.toNative = .ok native) ∨
      ∃ position kind, value.FirstForeign position kind ∧
        value.toNative = .error (.unmarshal kind nativeTarget)
  | .array items => by
      rw [toNative]
      obtain ⟨portable, natives, converted⟩ |
        ⟨before, found, after, position, kind, split, portable, first, failed⟩ :=
          toNativeAll_cases items
      · rw [converted]
        exact .inl ⟨portable_array portable, .array natives, rfl⟩
      · rw [failed, split]
        exact .inr ⟨before.length :: position, kind, firstForeign_array before portable first, rfl⟩
  | .callback handle =>
      .inr ⟨[], .function, ⟨⟨_, rfl, .callback⟩, nofun⟩, by rw [toNative]⟩
  | .object id => .inr ⟨[], .object, ⟨⟨_, rfl, .object⟩, nofun⟩, by rw [toNative]⟩
  | .undefined | .null | .boolean _ | .number _ | .bigint _ | .string _ | .wrapped _ =>
      .inl ⟨portable_of_leaf nofun nofun, _, by rw [toNative]⟩

theorem toNativeAll_cases : (items : List Value) →
    ((∀ item ∈ items, item.Portable) ∧ ∃ natives, toNativeAll items = .ok natives) ∨
      ∃ before found after position kind, items = before ++ found :: after ∧
        (∀ item ∈ before, item.Portable) ∧ found.FirstForeign position kind ∧
        toNativeAll items = .error (.unmarshal kind nativeTarget)
  | [] => .inl ⟨nofun, [], rfl⟩
  | item :: items => by
      rw [toNativeAll]
      obtain ⟨itemPortable, native, converted⟩ | ⟨position, kind, first, failed⟩ :=
        toNative_cases item
      · obtain ⟨portable, natives, others⟩ |
          ⟨before, found, after, position, kind, split, portable, first, failed⟩ :=
            toNativeAll_cases items
        · rw [converted, others]
          exact .inl ⟨List.forall_mem_cons.mpr ⟨itemPortable, portable⟩, native :: natives, rfl⟩
        · rw [converted, failed]
          exact .inr ⟨item :: before, found, after, position, kind, by rw [split]; rfl,
            List.forall_mem_cons.mpr ⟨itemPortable, portable⟩, first, rfl⟩
      · rw [failed]
        exact .inr ⟨[], item, items, position, kind, rfl, nofun, first, rfl⟩

end

/-- A host value becomes native unless a callback or a host object is somewhere in it, and
then the failure has the kind of the first one. What becomes native keeps its arrays and,
in their places, its instances. -/
theorem foreign_value_refused (value : Value) :
    ((∃ failure, value.toNative = .error failure) ↔
      ∃ position part kind, value.at? position = some part ∧ Foreign part kind) ∧
    (∀ failure, value.toNative = .error failure ↔
      ∃ position kind, value.FirstForeign position kind ∧
        failure = .unmarshal kind "native value") ∧
    (value.Portable →
      ∃ native, value.toNative = .ok native ∧ native.skeleton = value.skeleton) := by
  obtain ⟨portable, native, converted⟩ | ⟨position, kind, first, failed⟩ :=
    value.toNative_cases
  · refine ⟨?nowhere, ?unrefused, fun _ => ⟨native, converted, skeleton_toNative _ converted⟩⟩
    case nowhere =>
      refine iff_of_false (by simp [converted]) fun occurs => ?_
      obtain ⟨position, part, kind, found, foreign⟩ := occurs
      exact portable position part found kind foreign
    case unrefused =>
      intro failure
      refine iff_of_false (by simp [converted]) fun reported => ?_
      obtain ⟨position, kind, first, -⟩ := reported
      exact first.not_portable portable
  · refine ⟨?somewhere, ?refused, fun portable => absurd portable first.not_portable⟩
    case somewhere =>
      obtain ⟨part, found, foreign⟩ := first.here
      exact iff_of_true ⟨_, failed⟩ ⟨position, part, kind, found, foreign⟩
    case refused =>
      intro failure
      rw [failed]
      constructor
      · intro same
        cases same
        exact ⟨position, kind, first, rfl⟩
      · intro reported
        obtain ⟨other, otherKind, second, same⟩ := reported
        obtain ⟨-, rfl⟩ := first.unique second
        rw [same]
        rfl

/-- An instance and a missing value, then a host object two arrays deep, in front of a
callback. -/
def crowded (row : Native.Object) : Value :=
  .array [.wrapped row, .array [.undefined, .array [.object ⟨4⟩]], .callback ⟨1⟩]

theorem foreign_value_refused_crowded :
    let row : Native.Object := ⟨1, "Row", .text ""⟩
    (crowded row).FirstForeign [1, 1, 0] .object ∧
    (crowded row).toNative = .error (.unmarshal .object "native value") ∧
    (array [.wrapped row, .undefined]).Portable ∧
    ∃ native, (array [.wrapped row, .undefined]).toNative = .ok native ∧
      native.skeleton = .array [.reference row, .leaf] := by
  intro row
  have wrapped : (wrapped row).Portable := portable_of_leaf nofun nofun
  have missing : undefined.Portable := portable_of_leaf nofun nofun
  have alone : FirstForeign (object ⟨4⟩) [] .object := ⟨⟨_, rfl, .object⟩, nofun⟩
  have inner : FirstForeign (array [.object ⟨4⟩]) [0] .object :=
    firstForeign_array [] nofun alone
  have middle : FirstForeign (array [.undefined, .array [.object ⟨4⟩]]) [1, 0] .object :=
    firstForeign_array [_] (List.forall_mem_singleton.mpr missing) inner
  have first : (crowded row).FirstForeign [1, 1, 0] .object :=
    firstForeign_array [_] (List.forall_mem_singleton.mpr wrapped) middle
  have portable : (array [.wrapped row, .undefined]).Portable :=
    portable_array (List.forall_mem_cons.mpr ⟨wrapped, List.forall_mem_singleton.mpr missing⟩)
  refine ⟨first, ?_, portable, (foreign_value_refused _).2.2 portable⟩
  exact ((foreign_value_refused (crowded row)).2.1 _).mpr ⟨[1, 1, 0], .object, first, rfl⟩

end Interception.Host.Value
