import Interception.Host.Value
import Interception.Text.ByteOrder

/-!
# Override mappings

What a host has registered under method names. Only callbacks are ever called;
other values are kept so that they can be inspected. Entries are listed in the
byte order of their names, and no name occurs twice.
-/

set_option autoImplicit false

namespace Interception

inductive Override where
  | callback (handle : Host.Handle)
  | other (value : Host.Value)
  deriving Repr

namespace Override

def ofHost : Host.Value → Override
  | .callback handle => .callback handle
  | value => .other value

def callback? : Override → Option Host.Handle
  | .callback handle => some handle
  | .other _ => none

def equals : Override → Override → Bool
  | .callback left, .callback right => left == right
  | .other left, .other right => left == right
  | _, _ => false

instance : BEq Override := ⟨equals⟩

end Override

/-- Entries in strictly increasing byte order of their names. -/
structure OverrideMap where
  entries : List (String × Override)
  ordered : entries.Pairwise fun left right => Text.Before left.1 right.1

namespace OverrideMap

def empty : OverrideMap :=
  ⟨[], .nil⟩

instance : Inhabited OverrideMap := ⟨empty⟩

def size (overrides : OverrideMap) : Nat :=
  overrides.entries.length

def isEmpty (overrides : OverrideMap) : Bool :=
  overrides.entries.isEmpty

/-- Names in the order of the mapping. -/
def methods (overrides : OverrideMap) : List String :=
  overrides.entries.map (·.1)

def get? (overrides : OverrideMap) (method : String) : Option Override :=
  overrides.entries.lookup method

def callback? (overrides : OverrideMap) (method : String) : Option Host.Handle :=
  (overrides.get? method).bind Override.callback?

theorem callback?_eq_some_iff {overrides : OverrideMap} {method : String}
    {handle : Host.Handle} :
    overrides.callback? method = some handle ↔
      overrides.get? method = some (.callback handle) := by
  rw [callback?]
  cases overrides.get? method with
  | none => simp
  | some override => cases override <;> simp [Override.callback?]

def place (method : String) (override : Override) :
    List (String × Override) → List (String × Override)
  | [] => [(method, override)]
  | first :: rest =>
      if Text.Before method first.1 then (method, override) :: first :: rest
      else if Text.Before first.1 method then first :: place method override rest
      else (method, override) :: rest

theorem name_of_mem_place {method : String} {override : Override}
    {entries : List (String × Override)} {entry : String × Override}
    (member : entry ∈ place method override entries) :
    entry.1 = method ∨ entry ∈ entries := by
  induction entries with
  | nil =>
      rw [place, List.mem_singleton] at member
      exact .inl (congrArg Prod.fst member)
  | cons first rest ih =>
      rw [place] at member
      split at member
      · cases member with
        | head => exact .inl rfl
        | tail _ member => exact .inr member
      · split at member
        · cases member with
          | head => exact .inr List.mem_cons_self
          | tail _ member =>
              exact (ih member).imp id (List.mem_cons_of_mem _)
        · cases member with
          | head => exact .inl rfl
          | tail _ member => exact .inr (List.mem_cons_of_mem _ member)

theorem place_ordered (method : String) (override : Override)
    {entries : List (String × Override)}
    (ordered : entries.Pairwise fun left right => Text.Before left.1 right.1) :
    (place method override entries).Pairwise fun left right => Text.Before left.1 right.1 := by
  induction entries with
  | nil => exact List.pairwise_singleton _ _
  | cons first rest ih =>
      obtain ⟨firstBefore, restOrdered⟩ := List.pairwise_cons.mp ordered
      rw [place]
      split
      · rename_i before
        refine List.pairwise_cons.mpr ⟨?_, ordered⟩
        intro entry member
        cases member with
        | head => exact before
        | tail _ member => exact before.trans (firstBefore entry member)
      · rename_i notBefore
        split
        · rename_i after
          refine List.pairwise_cons.mpr ⟨?_, ih restOrdered⟩
          intro entry member
          rcases name_of_mem_place member with same | member
          · rw [same]; exact after
          · exact firstBefore entry member
        · rename_i notAfter
          have same : method = first.1 := Text.Before.eq_of_not notBefore notAfter
          refine List.pairwise_cons.mpr ⟨?_, restOrdered⟩
          intro entry member
          rw [same]
          exact firstBefore entry member

/-- The mapping with one more entry, which replaces an entry of the same name. -/
def insert (overrides : OverrideMap) (method : String) (override : Override) : OverrideMap :=
  ⟨place method override overrides.entries, place_ordered method override overrides.ordered⟩

/-- The entry that an insertion under the name replaces. It is looked for up to the place
of the name only. -/
def displaced? (method : String) : List (String × Override) → Option Override
  | [] => none
  | first :: rest =>
      if Text.Before method first.1 then none
      else if Text.Before first.1 method then displaced? method rest
      else some first.2

/-- The mapping with one more entry, and the entry that this replaces. -/
def exchange (overrides : OverrideMap) (method : String) (override : Override) :
    Option Override × OverrideMap :=
  (displaced? method overrides.entries, overrides.insert method override)

def withCallback (overrides : OverrideMap) (method : String) (handle : Host.Handle) :
    OverrideMap :=
  overrides.insert method (.callback handle)

def withValue (overrides : OverrideMap) (method : String) (value : Host.Value) : OverrideMap :=
  overrides.insert method (.ofHost value)

/-! ## Pairs in bulk -/

def inOrder (left right : String × Override) : Bool :=
  !decide (Text.Before right.1 left.1)

theorem inOrder_iff {left right : String × Override} :
    inOrder left right = true ↔ ¬ Text.Before right.1 left.1 := by
  simp [inOrder]

theorem inOrder_trans (first second third : String × Override)
    (left : inOrder first second = true) (right : inOrder second third = true) :
    inOrder first third = true :=
  inOrder_iff.mpr (Text.Before.not_trans (inOrder_iff.mp left) (inOrder_iff.mp right))

theorem inOrder_total (left right : String × Override) :
    (inOrder left right || inOrder right left) = true := by
  rw [Bool.or_eq_true, inOrder_iff, inOrder_iff]
  by_cases before : Text.Before left.1 right.1
  · exact .inl before.asymm
  · exact .inr before

/-- Of neighbours with one name the last. -/
def latest : List (String × Override) → List (String × Override)
  | [] => []
  | [entry] => [entry]
  | first :: second :: rest =>
      if first.1 = second.1 then latest (second :: rest) else first :: latest (second :: rest)

theorem mem_of_mem_latest {entry : String × Override} {entries : List (String × Override)}
    (member : entry ∈ latest entries) : entry ∈ entries := by
  fun_induction latest entries with
  | case1 => exact member
  | case2 => exact member
  | case3 first second rest same ih => exact List.mem_cons_of_mem _ (ih member)
  | case4 first second rest different ih =>
      cases member with
      | head => exact List.mem_cons_self
      | tail _ member => exact List.mem_cons_of_mem _ (ih member)

theorem before_of_inOrder {first second : String × Override} {rest : List (String × Override)}
    (sorted : (first :: second :: rest).Pairwise (inOrder · ·)) (different : first.1 ≠ second.1) :
    ∀ entry ∈ second :: rest, Text.Before first.1 entry.1 := by
  obtain ⟨firstInOrder, rest⟩ := List.pairwise_cons.mp sorted
  have ahead : Text.Before first.1 second.1 :=
    .of_not_of_ne (inOrder_iff.mp (firstInOrder second List.mem_cons_self)) different
  intro entry member
  cases member with
  | head => exact ahead
  | tail _ member =>
      have behind := inOrder_iff.mp ((List.pairwise_cons.mp rest).1 entry member)
      refine .of_not_of_ne
        (inOrder_iff.mp (firstInOrder entry (List.mem_cons_of_mem _ member))) fun same => ?_
      exact behind (same ▸ ahead)

theorem latest_ordered {entries : List (String × Override)}
    (sorted : entries.Pairwise (inOrder · ·)) :
    (latest entries).Pairwise fun left right => Text.Before left.1 right.1 := by
  fun_induction latest entries with
  | case1 => exact .nil
  | case2 entry => exact List.pairwise_singleton _ _
  | case3 first second rest same ih => exact ih (List.pairwise_cons.mp sorted).2
  | case4 first second rest different ih =>
      refine List.pairwise_cons.mpr ⟨?_, ih (List.pairwise_cons.mp sorted).2⟩
      intro entry member
      exact before_of_inOrder sorted different entry (mem_of_mem_latest member)

/-- The mapping of a list of pairs, built at once: sorted by name, with pairs of one name
left in their order, of which the last is kept. -/
def collect (pairs : List (String × Override)) : OverrideMap :=
  ⟨latest (pairs.mergeSort inOrder),
    latest_ordered (List.pairwise_mergeSort inOrder_trans inOrder_total pairs)⟩

/-- The mapping of a list of pairs, inserted one by one. -/
def ofList (pairs : List (String × Override)) : OverrideMap :=
  pairs.foldl (fun overrides pair => overrides.insert pair.1 pair.2) empty

/-- Mappings are equal when they hold equal entries under the same names. -/
def equals (left right : OverrideMap) : Bool :=
  go left.entries right.entries
where
  go : List (String × Override) → List (String × Override) → Bool
    | [], [] => true
    | left :: lefts, right :: rights =>
        left.1 == right.1 && left.2 == right.2 && go lefts rights
    | _, _ => false

instance : BEq OverrideMap := ⟨equals⟩

end OverrideMap

end Interception
