import Mathlib.Data.List.Nodup

/-!
# Lists of named values

What is found under a name in a list of pairs, and what of it depends on their order.
-/

set_option autoImplicit false

namespace Interception.Pairs

variable {κ α : Type} [DecidableEq κ]

theorem lookup_cons (first : κ × α) (rest : List (κ × α)) (name : κ) :
    (first :: rest).lookup name =
      if name = first.1 then some first.2 else rest.lookup name := by
  rw [List.lookup_cons]
  by_cases same : name = first.1
  · rw [if_pos same, beq_iff_eq.mpr same]
  · rw [if_neg same, beq_false_of_ne same]

/-- The last entry of a name is behind a first one. -/
theorem lookup_reverse_cons (first : κ × α) (rest : List (κ × α)) (name : κ) :
    (first :: rest).reverse.lookup name =
      (rest.reverse.lookup name).or (if name = first.1 then some first.2 else none) := by
  rw [List.reverse_cons, List.lookup_append, lookup_cons, List.lookup_nil]

theorem lookup_isSome_iff {entries : List (κ × α)} {name : κ} :
    (entries.lookup name).isSome ↔ name ∈ entries.map Prod.fst := by
  induction entries with
  | nil => simp
  | cons first rest ih =>
      rw [lookup_cons, List.map_cons, List.mem_cons]
      by_cases same : name = first.1
      · rw [if_pos same]
        exact iff_of_true rfl (.inl same)
      · rw [if_neg same, ih, or_iff_right same]

/-- Where no name occurs twice every entry is found. -/
theorem lookup_eq_some_iff_mem {entries : List (κ × α)}
    (distinct : (entries.map Prod.fst).Nodup) (entry : κ × α) :
    entries.lookup entry.1 = some entry.2 ↔ entry ∈ entries := by
  induction entries with
  | nil => simp
  | cons first rest ih =>
      obtain ⟨absent, distinct⟩ := List.nodup_cons.mp distinct
      rw [lookup_cons, List.mem_cons]
      by_cases same : entry.1 = first.1
      · have elsewhere : entry ∉ rest := fun member =>
          absent (same ▸ List.mem_map_of_mem member)
        rw [if_pos same, or_iff_left elsewhere, Prod.ext_iff, Option.some_inj]
        exact ⟨fun held => ⟨same, held.symm⟩, fun equal => equal.2.symm⟩
      · have other : entry ≠ first := fun equal => same (congrArg Prod.fst equal)
        rw [if_neg same, ih distinct, or_iff_right other]

theorem lookup_eq_of_perm {left right : List (κ × α)} (listed : left.Perm right)
    (distinct : (left.map Prod.fst).Nodup) (name : κ) :
    left.lookup name = right.lookup name := by
  have otherDistinct : (right.map Prod.fst).Nodup := (listed.map Prod.fst).nodup distinct
  refine Option.ext fun value => ?_
  exact (lookup_eq_some_iff_mem distinct (name, value)).trans
    (listed.mem_iff.trans (lookup_eq_some_iff_mem otherDistinct (name, value)).symm)

theorem lookup_map {β : Type} (change : α → β) (entries : List (κ × α)) (name : κ) :
    (entries.map fun entry => (entry.1, change entry.2)).lookup name =
      (entries.lookup name).map change := by
  induction entries with
  | nil => rfl
  | cons first rest ih =>
      rw [List.map_cons, lookup_cons, lookup_cons, ih]
      by_cases same : name = first.1
      · rw [if_pos same, if_pos same, Option.map_some]
      · rw [if_neg same, if_neg same]

theorem lookup_filter_name (entries : List (κ × α)) (name : κ) :
    (entries.filter fun entry => name == entry.1).lookup name = entries.lookup name := by
  induction entries with
  | nil => rfl
  | cons first rest ih =>
      rw [List.filter_cons, List.lookup_cons]
      cases here : name == first.1 with
      | true => rw [if_pos rfl, List.lookup_cons, here]
      | false => exact ih

end Interception.Pairs
