import Interception.Overrides
import Interception.Proofs.Pairs

/-!
# What override mappings hold

A mapping is determined by what is found in it. After an insertion the new entry is found
under its name and everything else as before; after many, or after all of them at once,
the last entry of each name.
-/

set_option autoImplicit false

namespace Interception.OverrideMap

open Pairs

/-! ## One insertion -/

theorem lookup_place (method : String) (override : Override)
    (entries : List (String × Override)) (name : String) :
    (place method override entries).lookup name =
      if name = method then some override else entries.lookup name := by
  induction entries with
  | nil => rw [place, lookup_cons]
  | cons first rest ih =>
      rw [place]
      split
      · rw [lookup_cons]
      · split
        · rename_i ahead
          -- The first entry stays where it is, and it has another name.
          rw [lookup_cons, lookup_cons, ih]
          by_cases here : name = first.1
          · have other : name ≠ method := here ▸ ahead.ne
            rw [if_pos here, if_neg other, if_pos here]
          · rw [if_neg here, if_neg here]
        · rename_i notBefore notAfter
          have taken : method = first.1 := Text.Before.eq_of_not notBefore notAfter
          rw [lookup_cons, lookup_cons, taken]
          by_cases same : name = first.1
          · rw [if_pos same, if_pos same]
          · rw [if_neg same, if_neg same, if_neg same]

theorem get?_insert (overrides : OverrideMap) (method : String) (override : Override)
    (name : String) :
    (overrides.insert method override).get? name =
      if name = method then some override else overrides.get? name :=
  lookup_place method override overrides.entries name

theorem displaced?_eq_lookup (method : String) {entries : List (String × Override)}
    (ordered : entries.Pairwise fun left right => Text.Before left.1 right.1) :
    displaced? method entries = entries.lookup method := by
  induction entries with
  | nil => rfl
  | cons first rest ih =>
      obtain ⟨firstBefore, restOrdered⟩ := List.pairwise_cons.mp ordered
      rw [displaced?]
      split
      · rename_i before
        -- The search stops here, and what follows is further on still.
        refine (List.lookup_eq_none_iff.mpr fun entry member => ?_).symm
        have ahead : Text.Before method entry.1 := by
          cases member with
          | head => exact before
          | tail _ member => exact before.trans (firstBefore entry member)
        exact bne_iff_ne.mpr ahead.ne
      · rename_i notBefore
        split
        · rename_i after
          rw [lookup_cons, if_neg after.ne.symm]
          exact ih restOrdered
        · rename_i notAfter
          rw [lookup_cons, if_pos (Text.Before.eq_of_not notBefore notAfter)]

theorem exchange_fst (overrides : OverrideMap) (method : String) (override : Override) :
    (overrides.exchange method override).1 = overrides.get? method :=
  displaced?_eq_lookup method overrides.ordered

/-! ## Entries -/

theorem methods_ordered (overrides : OverrideMap) : overrides.methods.Pairwise Text.Before :=
  List.pairwise_map.mpr overrides.ordered

theorem methods_nodup (overrides : OverrideMap) : overrides.methods.Nodup :=
  overrides.methods_ordered.imp Text.Before.ne

theorem mem_methods_iff {overrides : OverrideMap} {name : String} :
    name ∈ overrides.methods ↔ (overrides.get? name).isSome :=
  lookup_isSome_iff.symm

theorem mem_entries_iff {overrides : OverrideMap} {entry : String × Override} :
    entry ∈ overrides.entries ↔ overrides.get? entry.1 = some entry.2 :=
  (lookup_eq_some_iff_mem overrides.methods_nodup entry).symm

/-- A mapping is nothing but what is found in it. -/
theorem eq_of_get? {left right : OverrideMap} (same : ∀ name, left.get? name = right.get? name) :
    left = right := by
  have listed : left.entries.Perm right.entries := by
    refine (List.perm_ext_iff_of_nodup ?_ ?_).mpr fun entry => ?_
    · exact left.methods_nodup.of_map _
    · exact right.methods_nodup.of_map _
    · rw [mem_entries_iff, mem_entries_iff, same]
  have entries : left.entries = right.entries :=
    listed.eq_of_pairwise (fun _ _ _ _ before after => absurd after before.asymm)
      left.ordered right.ordered
  cases left
  cases right
  cases entries
  rfl

/-! ## Many insertions -/

theorem get?_foldl_insert (pairs : List (String × Override)) (overrides : OverrideMap)
    (name : String) :
    (pairs.foldl (fun overrides pair => overrides.insert pair.1 pair.2) overrides).get? name =
      (pairs.reverse.lookup name).or (overrides.get? name) := by
  induction pairs generalizing overrides with
  | nil => rfl
  | cons pair pairs ih =>
      rw [List.foldl_cons, ih, get?_insert, lookup_reverse_cons, Option.or_assoc]
      by_cases same : name = pair.1
      · rw [if_pos same, if_pos same, Option.some_or]
      · rw [if_neg same, if_neg same, Option.none_or]

theorem get?_ofList (pairs : List (String × Override)) (name : String) :
    (ofList pairs).get? name = pairs.reverse.lookup name :=
  (get?_foldl_insert pairs empty name).trans (Option.or_none ..)

/-! ## All at once -/

/-- Of entries sorted by name the last of each name is kept. -/
theorem lookup_latest {entries : List (String × Override)}
    (sorted : entries.Pairwise (inOrder · ·)) (name : String) :
    (latest entries).lookup name = entries.reverse.lookup name := by
  fun_induction latest entries with
  | case1 => rfl
  | case2 entry => rfl
  | case3 first second rest same ih =>
      rw [ih (List.pairwise_cons.mp sorted).2, lookup_reverse_cons first, lookup_reverse_cons,
        Option.or_assoc, same]
      by_cases here : name = second.1
      · rw [if_pos here, if_pos here, Option.some_or]
      · simp only [if_neg here, Option.or_none]
  | case4 first second rest different ih =>
      rw [lookup_cons, ih (List.pairwise_cons.mp sorted).2, lookup_reverse_cons first]
      by_cases here : name = first.1
      · have absent : (second :: rest).reverse.lookup name = none := by
          refine List.lookup_eq_none_iff.mpr fun entry member => ?_
          have ahead := before_of_inOrder sorted different entry (List.mem_reverse.mp member)
          exact bne_iff_ne.mpr (here ▸ ahead.ne)
        rw [if_pos here, if_pos here, absent, Option.none_or]
      · rw [if_neg here, if_neg here, Option.or_none]

/-- Sorting leaves entries of one name in their order. -/
theorem filter_mergeSort (pairs : List (String × Override)) (name : String) :
    ((pairs.mergeSort inOrder).filter fun entry => name == entry.1) =
      pairs.filter fun entry => name == entry.1 := by
  have ordered : (pairs.filter fun entry => name == entry.1).Pairwise (inOrder · ·) := by
    apply List.pairwise_of_forall_mem_list
    intro left leftNamed right rightNamed
    have leftName : name = left.1 := eq_of_beq (List.mem_filter.mp leftNamed).2
    have rightName : name = right.1 := eq_of_beq (List.mem_filter.mp rightNamed).2
    exact inOrder_iff.mpr (leftName ▸ rightName ▸ Text.Before.irrefl name)
  have kept := (List.sublist_mergeSort inOrder_trans inOrder_total ordered
    List.filter_sublist).filter fun entry => name == entry.1
  rw [List.filter_filter] at kept
  simp only [Bool.and_self] at kept
  refine (kept.eq_of_length ?_).symm
  exact ((List.mergeSort_perm pairs inOrder).filter _).length_eq.symm

theorem get?_collect (pairs : List (String × Override)) (name : String) :
    (collect pairs).get? name = pairs.reverse.lookup name := by
  have sorted := List.pairwise_mergeSort inOrder_trans inOrder_total pairs
  calc (collect pairs).get? name
      = (pairs.mergeSort inOrder).reverse.lookup name := lookup_latest sorted name
    _ = (((pairs.mergeSort inOrder).filter fun entry => name == entry.1).reverse).lookup name := by
          rw [← List.filter_reverse, lookup_filter_name]
    _ = pairs.reverse.lookup name := by
          rw [filter_mergeSort, ← List.filter_reverse, lookup_filter_name]

/-- Pairs taken in at once are as pairs inserted one by one. -/
theorem collect_eq_ofList (pairs : List (String × Override)) : collect pairs = ofList pairs :=
  eq_of_get? fun name => (get?_collect pairs name).trans (get?_ofList pairs name).symm

/-- Where no name occurs twice the order of the pairs does not matter. -/
theorem collect_eq_of_perm {pairs others : List (String × Override)}
    (distinct : (pairs.map Prod.fst).Nodup) (listed : pairs.Perm others) :
    collect pairs = collect others := by
  have reversed : pairs.reverse.Perm others.reverse :=
    pairs.reverse_perm.trans (listed.trans others.reverse_perm.symm)
  have reversedDistinct : (pairs.reverse.map Prod.fst).Nodup := by
    rw [List.map_reverse]
    exact List.nodup_reverse.mpr distinct
  refine eq_of_get? fun name => ?_
  rw [get?_collect, get?_collect]
  exact lookup_eq_of_perm reversed reversedDistinct name

end Interception.OverrideMap
