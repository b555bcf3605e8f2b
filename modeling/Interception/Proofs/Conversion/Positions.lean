import Interception.Conversion.ToHost

/-!
# Positions inside values

A value inside another one is found by its position: which item to go to in each array on
the way down. Positions stand in the order in which a value is read, an array before its
items and these from left to right, and what is done to a value item by item, such as taking
it to the host, leaves everything in its position.

Native values and host values differ in their leaves only, so what can be said of positions
is said of any values some of which are arrays of values.
-/

set_option autoImplicit false

namespace Interception

/-- The item to go to in each array on the way down. Ordered by the first array in which
two ways part, a position stands after those of the arrays around it. -/
abbrev Position := List Nat

/-- Values that are leaves or arrays of values. -/
class Arrayed (α : Type) where
  array : List α → α
  items? : α → Option (List α)
  items?_eq_some_iff : ∀ value items, items? value = some items ↔ value = array items
  /-- What holds of leaves, and of an array with its items, holds of every value. -/
  induct {motive : α → Prop} (leaf : ∀ value, (∀ items, value ≠ array items) → motive value)
    (array : ∀ items, (∀ item ∈ items, motive item) → motive (array items)) (value : α) :
    motive value

namespace Arrayed

variable {α β : Type} [Arrayed α] [Arrayed β]

/-- The value at a position, if there is one. -/
def at? (value : α) : Position → Option α
  | [] => some value
  | index :: rest => do at? (← (← items? value)[index]?) rest

theorem items?_array (items : List α) : items? (array items) = some items :=
  (items?_eq_some_iff _ items).mpr rfl

theorem leaf_or_array (value : α) :
    (∀ items, value ≠ array items) ∨ ∃ items, value = array items := by
  cases found : items? value with
  | none =>
      left
      intro items same
      rw [same, items?_array] at found
      cases found
  | some items => exact .inr ⟨items, (items?_eq_some_iff value items).mp found⟩

theorem items?_leaf {value : α} (leaf : ∀ items, value ≠ array items) : items? value = none := by
  rw [Option.eq_none_iff_forall_ne_some]
  intro items found
  exact leaf items ((items?_eq_some_iff value items).mp found)

theorem at?_array (items : List α) (index : Nat) (rest : Position) :
    at? (array items) (index :: rest) = items[index]?.bind (at? · rest) := by
  simp [at?, items?_array]

theorem at?_leaf {value : α} (leaf : ∀ items, value ≠ array items) (index : Nat)
    (rest : Position) : at? value (index :: rest) = none := by
  simp [at?, items?_leaf leaf]

/-! ## Everything inside a value -/

/-- The property holds of the value and of everything inside it. -/
def Everywhere (property : α → Prop) (value : α) : Prop :=
  ∀ position part, at? value position = some part → property part

theorem everywhere_leaf_iff {property : α → Prop} {value : α}
    (leaf : ∀ items, value ≠ array items) : Everywhere property value ↔ property value := by
  constructor
  · intro everywhere
    exact everywhere [] value rfl
  · intro holds position part found
    cases position with
    | nil =>
        cases found
        exact holds
    | cons index rest =>
        rw [at?_leaf leaf] at found
        cases found

theorem everywhere_array_iff {property : α → Prop} {items : List α} :
    Everywhere property (array items) ↔
      property (array items) ∧ ∀ item ∈ items, Everywhere property item := by
  constructor
  · intro everywhere
    refine ⟨everywhere [] _ rfl, ?_⟩
    intro item member position part found
    obtain ⟨index, listed⟩ := List.getElem?_of_mem member
    apply everywhere (index :: position) part
    rw [at?_array, listed]
    exact found
  · intro all position part found
    cases position with
    | nil =>
        cases found
        exact all.1
    | cons index rest =>
        rw [at?_array] at found
        obtain ⟨item, listed, found⟩ := Option.bind_eq_some_iff.mp found
        exact all.2 item (List.mem_of_getElem? listed) rest part found

theorem array_inj {lefts rights : List α} : array lefts = array rights ↔ lefts = rights := by
  rw [← items?_eq_some_iff, items?_array, Option.some.injEq]

/-! ## Changes item by item -/

omit [Arrayed α] [Arrayed β] in
/-- A function on lists that changes the first item and goes on is `map`. -/
theorem eq_map_of_cons {change : α → β} {changeAll : List α → List β} (nil : changeAll [] = [])
    (cons : ∀ item items, changeAll (item :: items) = change item :: changeAll items)
    (items : List α) : changeAll items = items.map change := by
  induction items with
  | nil => exact nil
  | cons item items ih => rw [cons, ih, List.map_cons]

/-- The change goes through arrays, and makes none of a leaf. -/
structure Itemwise (change : α → β) : Prop where
  array : ∀ items, change (array items) = Arrayed.array (items.map change)
  leaf : ∀ value, (∀ items, value ≠ Arrayed.array items) →
    ∀ items, change value ≠ Arrayed.array items

theorem Itemwise.at? {change : α → β} (itemwise : Itemwise change) (value : α)
    (position : Position) :
    Arrayed.at? (change value) position = (Arrayed.at? value position).map change := by
  induction position generalizing value with
  | nil => rfl
  | cons index rest ih =>
      obtain leaf | ⟨items, rfl⟩ := leaf_or_array value
      · rw [at?_leaf leaf, at?_leaf (itemwise.leaf value leaf)]
        rfl
      · rw [itemwise.array, at?_array, at?_array, List.getElem?_map]
        cases items[index]? with
        | none => rfl
        | some item => exact ih item

theorem Itemwise.idem {change : α → α} (itemwise : Itemwise change)
    (leaves : ∀ value, (∀ items, value ≠ Arrayed.array items) →
      change (change value) = change value) (value : α) :
    change (change value) = change value := by
  induction value using induct with
  | leaf value leaf => exact leaves value leaf
  | array items each =>
      rw [itemwise.array, itemwise.array, List.map_map, array_inj]
      exact List.map_congr_left each

/-- What is kept by a change of one value is kept everywhere. -/
theorem Itemwise.everywhere_iff {change : α → β} (itemwise : Itemwise change)
    {property : α → Prop} {after : β → Prop} (kept : ∀ part, after (change part) ↔ property part)
    {value : α} : Everywhere after (change value) ↔ Everywhere property value := by
  simp only [Everywhere, itemwise.at?, Option.map_eq_some_iff]
  constructor
  · intro everywhere position part found
    exact (kept part).mp (everywhere position _ ⟨part, found, rfl⟩)
  · intro everywhere position part found
    obtain ⟨original, found, rfl⟩ := found
    exact (kept original).mpr (everywhere position original found)

end Arrayed

/-! ## Native values and host values -/

namespace Native.Value

mutual

theorem byItems {motive : Value → Prop}
    (leaf : ∀ value, (∀ items, value ≠ .array items) → motive value)
    (array : ∀ items, (∀ item ∈ items, motive item) → motive (.array items)) :
    (value : Value) → motive value
  | .array items => array items (byItemsAll leaf array items)
  | .null | .boolean _ | .integer .. | .float .. | .char _ | .string _ | .object _ =>
      leaf _ nofun

theorem byItemsAll {motive : Value → Prop}
    (leaf : ∀ value, (∀ items, value ≠ .array items) → motive value)
    (array : ∀ items, (∀ item ∈ items, motive item) → motive (.array items)) :
    (items : List Value) → ∀ item ∈ items, motive item
  | [] => nofun
  | first :: rest =>
      List.forall_mem_cons.mpr ⟨byItems leaf array first, byItemsAll leaf array rest⟩

end

instance : Arrayed Value where
  array := .array
  items?
    | .array items => some items
    | _ => none
  items?_eq_some_iff value items := by cases value <;> simp
  induct := byItems

/-- The value at a position, if there is one. -/
abbrev at? (value : Value) (position : Position) : Option Value :=
  Arrayed.at? value position

/-- The property holds of the value and of everything inside it. -/
abbrev Everywhere (property : Value → Prop) (value : Value) : Prop :=
  Arrayed.Everywhere property value

end Native.Value

namespace Host.Value

mutual

theorem byItems {motive : Value → Prop}
    (leaf : ∀ value, (∀ items, value ≠ .array items) → motive value)
    (array : ∀ items, (∀ item ∈ items, motive item) → motive (.array items)) :
    (value : Value) → motive value
  | .array items => array items (byItemsAll leaf array items)
  | .undefined | .null | .boolean _ | .number _ | .bigint _ | .string _ | .callback _
  | .object _ | .wrapped _ => leaf _ nofun

theorem byItemsAll {motive : Value → Prop}
    (leaf : ∀ value, (∀ items, value ≠ .array items) → motive value)
    (array : ∀ items, (∀ item ∈ items, motive item) → motive (.array items)) :
    (items : List Value) → ∀ item ∈ items, motive item
  | [] => nofun
  | first :: rest =>
      List.forall_mem_cons.mpr ⟨byItems leaf array first, byItemsAll leaf array rest⟩

end

instance : Arrayed Value where
  array := .array
  items?
    | .array items => some items
    | _ => none
  items?_eq_some_iff value items := by cases value <;> simp
  induct := byItems

/-- The value at a position, if there is one. -/
abbrev at? (value : Value) (position : Position) : Option Value :=
  Arrayed.at? value position

/-- The property holds of the value and of everything inside it. -/
abbrev Everywhere (property : Value → Prop) (value : Value) : Prop :=
  Arrayed.Everywhere property value

end Host.Value

namespace Native.Value

theorem toHost_itemwise : Arrayed.Itemwise toHost where
  array items := congrArg Host.Value.array (Arrayed.eq_map_of_cons rfl (fun _ _ => rfl) items)
  leaf value leaf items := by
    cases value with
    | array inner => exact absurd rfl (leaf inner)
    | integer width integer =>
        cases width with
        | long =>
            rw [toHost]
            split <;> nofun
        | byte | short | int => nofun
    | float precision number => cases precision <;> nofun
    | _ => nofun

end Native.Value

end Interception
