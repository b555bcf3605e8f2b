import Interception.Proofs.Pairs
import Interception.Proofs.World.Connected

/-!
# What is told of the registry

Which callbacks are live can be read off what was told: those that were registered
and not removed since. As long as the count of handles does not wrap, the registry
holds exactly these, and no handle is given out twice.
-/

set_option autoImplicit false

namespace Interception

variable {σ : Type}

namespace Registry

variable (registry : Registry σ)

theorem lookup_without (live : List (Host.Handle × Callback σ)) (handle removed : Host.Handle) :
    (without removed live).lookup handle =
      if handle = removed then none else live.lookup handle := by
  induction live with
  | nil => simp [without]
  | cons entry live ih =>
      obtain ⟨own, body⟩ := entry
      rw [without] at ih ⊢
      by_cases here : own = removed
      · rw [List.filter_cons_of_neg (by simp [here]), ih, Pairs.lookup_cons, here]
        split <;> rfl
      · rw [List.filter_cons_of_pos (by simp [here]), Pairs.lookup_cons, Pairs.lookup_cons, ih]
        by_cases found : handle = own
        · simp [found, here]
        · simp [found]

theorem find?_register (body : Callback σ) (handle : Host.Handle) :
    (registry.register body).find? handle =
      if handle = registry.nextHandle then some body else registry.find? handle := by
  rw [find?, register, Pairs.lookup_cons, lookup_without]
  split <;> rfl

theorem find?_unregister (removed handle : Host.Handle) :
    (registry.unregister removed).find? handle =
      if handle = removed then none else registry.find? handle :=
  lookup_without registry.live handle removed

theorem contains_iff (handle : Host.Handle) :
    registry.contains handle = true ↔ ∃ body, registry.find? handle = some body := by
  rw [contains, find?, ← Option.isSome_iff_exists, List.lookup_isSome_iff, List.any_eq_true]
  exact exists_congr fun entry => and_congr_right fun _ => by rw [beq_iff_eq, beq_iff_eq, eq_comm]

theorem mem_handles_iff (handle : Host.Handle) :
    handle ∈ registry.live.map (·.1) ↔ ∃ body, registry.find? handle = some body := by
  rw [← contains_iff, contains, List.any_eq_true, List.mem_map]
  simp only [beq_iff_eq]

theorem nodup_without {live : List (Host.Handle × Callback σ)} (handle : Host.Handle)
    (distinct : (live.map (·.1)).Nodup) : ((without handle live).map (·.1)).Nodup :=
  distinct.sublist (List.filter_sublist.map _)

theorem nodup_register {registry : Registry σ} (distinct : (registry.live.map (·.1)).Nodup)
    (body : Callback σ) : ((registry.register body).live.map (·.1)).Nodup := by
  refine List.nodup_cons.mpr ⟨?_, nodup_without _ distinct⟩
  simp [without]

/-- What a moment makes of the registry before it. -/
def after (registry : Registry σ) : Moment σ → Registry σ
  | .registered _ body => registry.register body
  | .performed (.unregister handle) _ => registry.unregister handle
  | _ => registry

end Registry

/-- Whether the moment is a registration or a removal. -/
def Moment.changesRegistry : Moment σ → Bool
  | .registered .. => true
  | .performed (.unregister _) _ => true
  | _ => false

theorem Registry.after_of_unchanged (registry : Registry σ) {moment : Moment σ}
    (unchanged : moment.changesRegistry = false) : registry.after moment = registry := by
  unfold after
  split <;> simp_all [Moment.changesRegistry]

theorem Operation.Does.registry {operation : Operation σ} {answer : operation.Answer}
    {before after : World σ} (does : operation.Does before answer after) :
    after.registry = before.registry.after (.performed operation answer) := by
  cases does <;> rfl

theorem World.Tells.registry {before after : World σ} {moment : Moment σ}
    (tells : before.Tells moment after) : after.registry = before.registry.after moment := by
  cases tells with
  | started _ _ _ _ _ _ counted =>
      obtain ⟨_, rfl⟩ := counted
      rfl
  | ended _ _ _ kept =>
      obtain ⟨_, rfl⟩ := kept
      rfl
  | registered _ _ added =>
      obtain ⟨_, rfl⟩ := added
      rfl
  | answered _ _ _ _ here does =>
      obtain ⟨_, rfl⟩ := here
      exact does.registry
  | called operation _ _ calls kept =>
      obtain ⟨_, rfl⟩ := kept
      cases operation with
      | call | invoke => rfl
      | _ => cases calls

namespace World.Tells

variable {before after : World σ} {handle : Host.Handle}

theorem registered_handle {body : Callback σ}
    (tells : before.Tells (.registered handle body) after) :
    handle = before.registry.nextHandle := by
  cases tells
  rfl

theorem started_live {context : Host.ObjectId} {arguments : List Host.Value} {body : Callback σ}
    (tells : before.Tells (.started handle context arguments body) after) :
    before.registry.find? handle = some body := by
  cases tells with
  | started _ _ _ _ _ live => exact live

theorem unregister_answer {answer : Bool}
    (tells : before.Tells (.performed (.unregister handle) answer) after) :
    answer = before.registry.contains handle := by
  obtain ⟨start, here, does⟩ := tells.does rfl
  cases does
  rw [here.registry]

theorem contains_answer {answer : Bool}
    (tells : before.Tells (.performed (.contains handle) answer) after) :
    answer = before.registry.contains handle := by
  obtain ⟨start, here, does⟩ := tells.does rfl
  cases does
  rw [here.registry]

theorem callbackCount_answer {answer : Nat}
    (tells : before.Tells (.performed .callbackCount answer) after) :
    answer = before.registry.size := by
  obtain ⟨start, here, does⟩ := tells.does rfl
  cases does
  rw [here.registry]

end World.Tells

/-! ## Live callbacks -/

def Moment.registers : Moment σ → Bool
  | .registered .. => true
  | _ => false

def registrations (told : List (Moment σ)) : Nat :=
  told.countP Moment.registers

/-- Registered under the handle, and not removed since. -/
def Live (told : List (Moment σ)) (handle : Host.Handle) (body : Callback σ) : Prop :=
  ∃ earlier later, told = earlier ++ .registered handle body :: later ∧
    ∀ answer, .performed (.unregister handle) answer ∉ later

theorem Live.registered {told : List (Moment σ)} {handle : Host.Handle} {body : Callback σ}
    (live : Live told handle body) : .registered handle body ∈ told := by
  obtain ⟨earlier, later, rfl, -⟩ := live
  simp

theorem live_snoc {told : List (Moment σ)} {moment : Moment σ} {handle : Host.Handle}
    {body : Callback σ} :
    Live (told ++ [moment]) handle body ↔
      moment = .registered handle body ∨
        Live told handle body ∧ ∀ answer, moment ≠ .performed (.unregister handle) answer := by
  constructor
  · rintro ⟨earlier, later, split, kept⟩
    rcases List.eq_nil_or_concat later with rfl | ⟨later, last, rfl⟩
    · obtain ⟨-, same⟩ := List.append_inj' split rfl
      exact .inl (List.cons.inj same).1
    · rw [List.concat_eq_append, ← List.cons_append, ← List.append_assoc] at split
      obtain ⟨rfl, same⟩ := List.append_inj' split rfl
      obtain rfl := (List.cons.inj same).1
      refine .inr ⟨⟨earlier, later, rfl, fun answer removed => ?_⟩, fun answer removed => ?_⟩
      · exact kept answer (by simp [removed])
      · exact kept answer (by simp [removed])
  · rintro (rfl | ⟨⟨earlier, later, rfl, kept⟩, other⟩)
    · exact ⟨told, [], rfl, fun _ => List.not_mem_nil⟩
    · refine ⟨earlier, later ++ [moment], by simp, fun answer removed => ?_⟩
      rcases List.mem_append.mp removed with inside | last
      · exact kept answer inside
      · exact other answer (List.mem_singleton.mp last).symm

theorem registrations_append (earlier later : List (Moment σ)) :
    registrations (earlier ++ later) = registrations earlier + registrations later :=
  List.countP_append

/-! ## The registry and what was told -/

/-- The registry is what was told of it. -/
structure Registry.Reflects (registry : Registry σ) (told : List (Moment σ)) : Prop where
  next : registry.next.toNat = registrations told + 1
  found : ∀ handle body, registry.find? handle = some body ↔ Live told handle body
  issued : ∀ handle body, .registered handle body ∈ told →
    handle.raw.toNat ≤ registrations told
  distinct : (registry.live.map (·.1)).Nodup
  gone : ∀ handle, .performed (.unregister handle) true ∈ told →
    handle.raw.toNat ≤ registrations told ∧ ∀ body, ¬ Live told handle body

namespace Registry.Reflects

variable {registry : Registry σ} {told : List (Moment σ)}

theorem start : ({} : Registry σ).Reflects [] where
  next := rfl
  found handle body := by
    refine iff_of_false nofun ?_
    rintro ⟨earlier, later, split, -⟩
    exact List.append_ne_nil_of_right_ne_nil _ (List.cons_ne_nil _ _) split.symm
  issued := nofun
  distinct := List.nodup_nil
  gone := nofun

theorem issued_lt_next (reflects : registry.Reflects told) :
    registrations told < registry.nextHandle.raw.toNat :=
  Nat.lt_of_lt_of_eq (Nat.lt_succ_self _) reflects.next.symm

theorem not_live_next (reflects : registry.Reflects told) (body : Callback σ) :
    ¬ Live told registry.nextHandle body := fun live =>
  Nat.not_le_of_lt reflects.issued_lt_next (reflects.issued _ body live.registered)

theorem stays_gone (reflects : registry.Reflects told) {handle : Host.Handle}
    (before : .performed (.unregister handle) true ∈ told) {moment : Moment σ}
    (other : ∀ body, moment ≠ .registered handle body) :
    handle.raw.toNat ≤ registrations (told ++ [moment]) ∧
      ∀ body, ¬ Live (told ++ [moment]) handle body := by
  obtain ⟨known, dead⟩ := reflects.gone handle before
  rw [registrations_append]
  refine ⟨Nat.le_trans known (Nat.le_add_right _ _), fun body live => ?_⟩
  rcases live_snoc.mp live with added | ⟨live, -⟩
  · exact other body added
  · exact dead body live

theorem registered (reflects : registry.Reflects told) (body : Callback σ)
    (few : registrations told + 1 < UInt64.size - 1) :
    (registry.register body).Reflects (told ++ [.registered registry.nextHandle body]) where
  next := by
    have one : (1 : UInt64).toNat = 1 := rfl
    rw [UInt64.size] at few
    rw [registrations_append, register, UInt64.toNat_add, reflects.next, one]
    exact Nat.mod_eq_of_lt (by omega)
  found handle other := by
    rw [find?_register, live_snoc]
    by_cases here : handle = registry.nextHandle
    · subst here
      have fresh := reflects.not_live_next other
      simp [fresh]
    · simp [here, Ne.symm here, reflects.found]
  issued handle other told := by
    rw [registrations_append]
    rcases List.mem_append.mp told with before | now
    · exact Nat.le_trans (reflects.issued handle other before) (Nat.le_add_right _ _)
    · cases List.mem_singleton.mp now
      exact Nat.le_of_eq reflects.next
  distinct := nodup_register reflects.distinct body
  gone handle told := by
    rcases List.mem_append.mp told with before | now
    · refine reflects.stays_gone before ?_
      rintro other ⟨⟩
      exact Nat.not_le_of_lt reflects.issued_lt_next (reflects.gone _ before).1
    · cases List.mem_singleton.mp now

theorem unregistered (reflects : registry.Reflects told) (handle : Host.Handle) :
    (registry.unregister handle).Reflects
      (told ++ [.performed (.unregister handle) (registry.contains handle)]) where
  next := by
    rw [registrations_append]
    exact reflects.next
  found other body := by
    rw [find?_unregister, live_snoc]
    by_cases here : other = handle
    · subst here
      refine iff_of_false (by simp) ?_
      rintro (added | ⟨-, kept⟩)
      · cases added
      · exact kept _ rfl
    · rw [if_neg here, reflects.found]
      constructor
      · refine fun live => .inr ⟨live, ?_⟩
        rintro _ ⟨⟩
        exact here rfl
      · rintro (added | ⟨live, -⟩)
        · cases added
        · exact live
  issued other body told := by
    rw [registrations_append]
    rcases List.mem_append.mp told with before | now
    · exact reflects.issued other body before
    · cases List.mem_singleton.mp now
  distinct := nodup_without _ reflects.distinct
  gone other told := by
    rcases List.mem_append.mp told with before | now
    · exact reflects.stays_gone before nofun
    · obtain ⟨rfl, answered⟩ : other = handle ∧ registry.contains handle = true := by
        have same := List.mem_singleton.mp now
        injection same with operations answers
        injection operations with handles
        subst handles
        exact ⟨rfl, answers.symm⟩
      obtain ⟨body, found⟩ := (registry.contains_iff other).mp answered
      have live := (reflects.found other body).mp found
      refine ⟨?_, fun body live => ?_⟩
      · rw [registrations_append]
        exact reflects.issued other body live.registered
      rcases live_snoc.mp live with added | ⟨-, kept⟩
      · cases added
      · exact kept _ rfl

theorem unchanged (reflects : registry.Reflects told) {moment : Moment σ}
    (unchanged : moment.changesRegistry = false) : registry.Reflects (told ++ [moment]) := by
  have notRegistered (handle : Host.Handle) (body : Callback σ) :
      moment ≠ .registered handle body := by
    rintro rfl
    cases unchanged
  have notRemoved (handle : Host.Handle) (answer : Bool) :
      moment ≠ .performed (.unregister handle) answer := by
    rintro rfl
    cases unchanged
  have same : registrations (told ++ [moment]) = registrations told := by
    rw [registrations_append]
    cases moment with
    | registered => cases unchanged
    | _ => rfl
  refine ⟨same ▸ reflects.next, fun handle body => ?_, fun handle body told => ?_,
    reflects.distinct, fun handle told => ?_⟩
  · rw [live_snoc, reflects.found]
    constructor
    · exact fun live => .inr ⟨live, notRemoved handle⟩
    · rintro (added | ⟨live, -⟩)
      · exact absurd added (notRegistered handle body)
      · exact live
  · rw [same]
    rcases List.mem_append.mp told with before | now
    · exact reflects.issued handle body before
    · exact absurd (List.mem_singleton.mp now).symm (notRegistered handle body)
  · rcases List.mem_append.mp told with before | now
    · exact reflects.stays_gone before (notRegistered handle)
    · exact absurd (List.mem_singleton.mp now).symm (notRemoved handle true)

end Registry.Reflects

/-- What holds of the registry goes on to hold with each moment. -/
theorem World.Tells.reflects {before after : World σ} {moment : Moment σ}
    {told : List (Moment σ)} (tells : before.Tells moment after)
    (reflects : before.registry.Reflects told)
    (few : registrations (told ++ [moment]) < UInt64.size - 1) :
    after.registry.Reflects (told ++ [moment]) := by
  rw [tells.registry]
  cases changes : moment.changesRegistry with
  | false =>
      rw [Registry.after_of_unchanged _ changes]
      exact reflects.unchanged changes
  | true =>
      cases tells with
      | registered body =>
          rw [registrations_append] at few
          exact reflects.registered body few
      | answered operation answer _ _ here does =>
          cases does with
          | unregister handle =>
              obtain ⟨_, rfl⟩ := here
              exact reflects.unregistered handle
          | _ => cases changes
      | called operation answer _ calls =>
          cases operation with
          | call | invoke => cases changes
          | _ => cases calls
      | started | ended => cases changes

end Interception
