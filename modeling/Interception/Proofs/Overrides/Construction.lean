import Interception.Proofs.Invocation.Dispatch
import Interception.Proofs.Overrides.Mapping
import Mathlib.Data.List.Dedup

/-!
# Construction of override mappings

A mapping comes about by operations, each of which adds values under names: callbacks
and other values of the host, one at a time or many at once. Of what was added under a name the
last is found, and it is called exactly when it is a callback.
-/

set_option autoImplicit false

namespace Interception.OverrideMap

/-- What a host adds to a mapping. -/
inductive Addition where
  | callback (handle : Host.Handle)
  | host (value : Host.Value)

def Addition.override : Addition → Override
  | .callback handle => .callback handle
  | .host value => .ofHost value

/-- The operations that a mapping comes about by. -/
inductive Construction where
  | empty
  | collected (pairs : List (String × Addition))
  | inserted (earlier : Construction) (method : String) (addition : Addition)
  | withCallback (earlier : Construction) (method : String) (handle : Host.Handle)
  | withValue (earlier : Construction) (method : String) (value : Host.Value)

namespace Construction

def mapping : Construction → OverrideMap
  | empty => .empty
  | collected pairs => .collect (pairs.map fun pair => (pair.1, pair.2.override))
  | inserted earlier method addition => (earlier.mapping.exchange method addition.override).2
  | withCallback earlier method handle => earlier.mapping.withCallback method handle
  | withValue earlier method value => earlier.mapping.withValue method value

/-- What was added, in the order in which it was. -/
def additions : Construction → List (String × Addition)
  | empty => []
  | collected pairs => pairs
  | inserted earlier method addition => earlier.additions ++ [(method, addition)]
  | withCallback earlier method handle => earlier.additions ++ [(method, .callback handle)]
  | withValue earlier method value => earlier.additions ++ [(method, .host value)]

end Construction

/-- What was added last under a name. -/
def lastAdded? (added : List (String × Addition)) (name : String) : Option Addition :=
  added.reverse.lookup name

theorem lastAdded?_snoc (added : List (String × Addition)) (method : String)
    (addition : Addition) (name : String) :
    lastAdded? (added ++ [(method, addition)]) name =
      if name = method then some addition else lastAdded? added name := by
  rw [lastAdded?, List.reverse_append, List.reverse_singleton, List.singleton_append,
    Pairs.lookup_cons]
  rfl

theorem lastAdded?_isSome_iff {added : List (String × Addition)} {name : String} :
    (lastAdded? added name).isSome ↔ name ∈ added.map Prod.fst := by
  rw [lastAdded?, Pairs.lookup_isSome_iff, List.map_reverse, List.mem_reverse]

/-! ## What is found -/

/-- What was added last is found. -/
def Current (mapping : OverrideMap) (added : List (String × Addition)) : Prop :=
  ∀ name, mapping.get? name = (lastAdded? added name).map Addition.override

theorem Current.insert {mapping : OverrideMap} {added : List (String × Addition)}
    (current : Current mapping added) (method : String) (addition : Addition) :
    Current (mapping.insert method addition.override) (added ++ [(method, addition)]) := by
  intro name
  rw [get?_insert, lastAdded?_snoc, current name]
  split <;> rfl

theorem current_collect (pairs : List (String × Addition)) :
    Current (collect (pairs.map fun pair => (pair.1, pair.2.override))) pairs := by
  intro name
  rw [get?_collect, ← List.map_reverse, Pairs.lookup_map]
  rfl

theorem Construction.current (construction : Construction) :
    Current construction.mapping construction.additions := by
  induction construction with
  | empty => exact fun _ => rfl
  | collected pairs => exact current_collect pairs
  | inserted earlier method addition ih => exact ih.insert method addition
  | withCallback earlier method handle ih => exact ih.insert method (.callback handle)
  | withValue earlier method value ih => exact ih.insert method (.host value)

theorem Addition.override_eq_callback_iff {addition : Addition} {handle : Host.Handle} :
    addition.override = .callback handle ↔
      addition = .callback handle ∨ addition = .host (.callback handle) := by
  cases addition with
  | callback own => simp [override]
  | host value => cases value <;> simp [override, Override.ofHost]

theorem Addition.override_ne_other_callback (addition : Addition) (handle : Host.Handle) :
    addition.override ≠ .other (.callback handle) := by
  cases addition with
  | callback own => nofun
  | host value => cases value <;> simp [override, Override.ofHost]

/-- The laws of a mapping with what was added to it. -/
structure Lawful (mapping : OverrideMap) (added : List (String × Addition)) : Prop where
  ordered : mapping.methods.Pairwise Text.Before
  listed : ∀ name, name ∈ mapping.methods ↔ name ∈ added.map Prod.fst
  counted : mapping.size = (added.map Prod.fst).dedup.length
  found : Current mapping added
  /-- An insertion answers what was found before, and other names are as before. -/
  exchanged : ∀ method override,
    (mapping.exchange method override).1 = mapping.get? method ∧
    ∀ name, (mapping.exchange method override).2.get? name =
      if name = method then some override else mapping.get? name
  /-- No callback is kept as another value. -/
  normal : ∀ name handle, mapping.get? name ≠ some (.other (.callback handle))
  called : ∀ name handle, mapping.callback? name = some handle ↔
    lastAdded? added name = some (.callback handle) ∨
      lastAdded? added name = some (.host (.callback handle))
  dispatched : ∀ className hostObject settings call handle,
    Dispatches settings ⟨className, hostObject, some mapping⟩ call handle ↔
      mapping.callback? call.method = some handle ∧
        (call.isFinal = true → settings.finalMethods = .dispatch)

theorem Current.mem_methods_iff {mapping : OverrideMap} {added : List (String × Addition)}
    (current : Current mapping added) {name : String} :
    name ∈ mapping.methods ↔ name ∈ added.map Prod.fst := by
  rw [OverrideMap.mem_methods_iff, current name, Option.isSome_map, lastAdded?_isSome_iff]

theorem Current.lawful {mapping : OverrideMap} {added : List (String × Addition)}
    (current : Current mapping added) : Lawful mapping added where
  ordered := mapping.methods_ordered
  listed _ := current.mem_methods_iff
  counted := by
    have listed : mapping.methods.Perm (added.map Prod.fst).dedup := by
      refine (List.perm_ext_iff_of_nodup mapping.methods_nodup (List.nodup_dedup _)).mpr ?_
      intro name
      rw [current.mem_methods_iff, List.mem_dedup]
    rw [← listed.length_eq, methods, List.length_map, size]
  found := current
  exchanged method override :=
    ⟨mapping.exchange_fst method override, mapping.get?_insert method override⟩
  normal := by
    intro name handle
    rw [current name]
    intro kept
    obtain ⟨addition, -, same⟩ := Option.map_eq_some_iff.mp kept
    exact addition.override_ne_other_callback handle same
  called := by
    intro name handle
    rw [callback?_eq_some_iff, current name, Option.map_eq_some_iff]
    constructor
    · intro callback
      obtain ⟨addition, last, same⟩ := callback
      rw [last, Option.some_inj, Option.some_inj]
      exact Addition.override_eq_callback_iff.mp same
    · intro last
      obtain last | last := last
      · exact ⟨_, last, rfl⟩
      · exact ⟨_, last, rfl⟩
  dispatched _ _ _ _ _ := dispatches_iff rfl

/-! ## The laws -/

/-- Every mapping is lawful for what was added to it. Pairs taken in at once are as pairs
inserted one by one into an empty mapping, and where no name occurs twice in them their order
does not matter. -/
theorem override_mapping_laws :
    (∀ construction : Construction, Lawful construction.mapping construction.additions) ∧
    (∀ pairs, collect pairs = ofList pairs) ∧
    ∀ pairs others : List (String × Override), (pairs.map Prod.fst).Nodup →
      pairs.Perm others → collect pairs = collect others := by
  refine ⟨fun construction => construction.current.lawful, collect_eq_ofList, ?_⟩
  intro pairs others distinct listed
  exact collect_eq_of_perm distinct listed

/-- A callback whose name comes again, and a value that is none. -/
def renewed : Construction :=
  .collected [("run", .callback ⟨1⟩), ("close", .host .null), ("apply", .host (.callback ⟨2⟩)),
    ("run", .callback ⟨3⟩)]

theorem override_mapping_laws_renewed :
    Lawful renewed.mapping renewed.additions ∧
    renewed.mapping.methods = ["apply", "close", "run"] ∧
    renewed.mapping.callback? "run" = some ⟨3⟩ ∧
    renewed.mapping.callback? "apply" = some ⟨2⟩ ∧
    renewed.mapping.callback? "close" = none ∧
    collect [("run", .callback ⟨1⟩), ("apply", .other .null)] =
      collect [("apply", .other .null), ("run", .callback ⟨1⟩)] := by
  obtain ⟨lawful, bulk, order⟩ := override_mapping_laws
  have laws := lawful renewed
  refine ⟨laws, ?names, (laws.called "run" ⟨3⟩).mpr (.inl rfl),
    (laws.called "apply" ⟨2⟩).mpr (.inr rfl), ?closed,
    order _ _ (by decide) (.swap _ _ _)⟩
  case names =>
    rw [renewed, Construction.mapping, bulk]
    decide +kernel
  case closed =>
    rw [callback?, laws.found]
    rfl

end Interception.OverrideMap
