import Interception.Proofs.World.Connected

/-!
# Mappings and bindings

Which mapping a proxy has and which proxy a handler is bound to can be read off what
was told: the first mapping that a proxy was given, and the last binding of a handler.
Proxies and handlers that exist go on to exist, so a handler that is bound stays bound.
-/

set_option autoImplicit false

namespace Interception

variable {σ : Type}

namespace World

def overrides? (world : World σ) (proxy : ProxyRef) : Option OverrideMap :=
  (world.proxy? proxy).bind (·.overrides)

/-- What a handler is bound to, by reference. -/
def binding? (world : World σ) (handler : HandlerRef) : Option ProxyRef :=
  (world.handler? handler).bind (·.proxy)

/-- The proxy that a handler is bound to, as it is in this world. -/
def bound? (world : World σ) (handler : HandlerRef) : Option Proxy :=
  (world.handler? handler).bind world.boundProxy?

theorem bound?_eq (world : World σ) (handler : HandlerRef) :
    world.bound? handler = (world.binding? handler).bind world.proxy? := by
  unfold bound? binding?
  cases world.handler? handler <;> rfl

theorem handler_of_binding {world : World σ} {handler : HandlerRef} {proxy : ProxyRef}
    (binding : world.binding? handler = some proxy) :
    (world.handler? handler).isSome = true := by
  obtain ⟨own, present, -⟩ := Option.bind_eq_some_iff.mp binding
  exact Option.isSome_iff_exists.mpr ⟨own, present⟩

theorem bound?_isSome_iff {world : World σ} {handler : HandlerRef} :
    (world.bound? handler).isSome = true ↔
      ∃ proxy, world.binding? handler = some proxy ∧ (world.proxy? proxy).isSome = true := by
  rw [bound?_eq]
  cases world.binding? handler <;> simp

namespace Alike

variable {left right : World σ} (alike : left.Alike right)

include alike

theorem proxy? (proxy : ProxyRef) : right.proxy? proxy = left.proxy? proxy := by
  obtain ⟨_, rfl⟩ := alike
  rfl

theorem overrides? (proxy : ProxyRef) : right.overrides? proxy = left.overrides? proxy := by
  obtain ⟨_, rfl⟩ := alike
  rfl

theorem binding? (handler : HandlerRef) : right.binding? handler = left.binding? handler := by
  obtain ⟨_, rfl⟩ := alike
  rfl

theorem bound? (handler : HandlerRef) : right.bound? handler = left.bound? handler := by
  obtain ⟨_, rfl⟩ := alike
  rfl

end Alike

end World

/-! ## What was told of them -/

/-- The mapping that a moment gives to a proxy: that of a proxy which is created with
one, or one that is accepted. -/
def Moment.assigns? (proxy : ProxyRef) : Moment σ → Option OverrideMap
  | .performed (.newProxy created) (answer : ProxyRef) =>
      if answer = proxy then created.overrides else none
  | .performed (.setOverrides target overrides) (.ok _) =>
      if target = proxy then some overrides else none
  | _ => none

/-- What a moment binds a handler to. -/
def Moment.binds? (handler : HandlerRef) : Moment σ → Option ProxyRef
  | .performed (.newHandler created) (answer : HandlerRef) =>
      if answer = handler then created.proxy else none
  | .performed (.bind target proxy) _ => if target = handler then some proxy else none
  | _ => none

def firstAssigned (proxy : ProxyRef) (told : List (Moment σ)) : Option OverrideMap :=
  told.findSome? (·.assigns? proxy)

def lastBound (handler : HandlerRef) (told : List (Moment σ)) : Option ProxyRef :=
  told.reverse.findSome? (·.binds? handler)

theorem firstAssigned_append (proxy : ProxyRef) (earlier later : List (Moment σ)) :
    firstAssigned proxy (earlier ++ later) =
      (firstAssigned proxy earlier).or (firstAssigned proxy later) :=
  List.findSome?_append

theorem lastBound_append (handler : HandlerRef) (earlier later : List (Moment σ)) :
    lastBound handler (earlier ++ later) =
      (lastBound handler later).or (lastBound handler earlier) := by
  rw [lastBound, List.reverse_append, List.findSome?_append]
  rfl

theorem firstAssigned_singleton (proxy : ProxyRef) (moment : Moment σ) :
    firstAssigned proxy [moment] = moment.assigns? proxy := by
  rw [firstAssigned, List.findSome?_singleton]

theorem lastBound_singleton (handler : HandlerRef) (moment : Moment σ) :
    lastBound handler [moment] = moment.binds? handler := by
  rw [lastBound, List.reverse_singleton, List.findSome?_singleton]

/-! ## Proxies and handlers in a world -/

theorem Proxy.assign_eq_ok_iff {proxy assigned : Proxy} {overrides : OverrideMap} :
    proxy.assign overrides = .ok assigned ↔
      proxy.overrides = none ∧ assigned = { proxy with overrides := some overrides } := by
  unfold assign
  cases proxy.overrides <;> simp [eq_comm]

theorem Proxy.assign_eq_error_iff {proxy : Proxy} {overrides : OverrideMap} {failure : Failure} :
    proxy.assign overrides = .error failure ↔
      proxy.overrides.isSome = true ∧ failure = .overridesAlreadySet := by
  unfold assign
  cases proxy.overrides <;> simp [eq_comm]

namespace World

variable {world : World σ} {reference : ProxyRef} {proxy : Proxy}

theorem overrides?_of_present (present : world.proxy? reference = some proxy) :
    world.overrides? reference = proxy.overrides := by
  rw [overrides?, present]
  rfl

theorem proxy?_newProxy (world : World σ) (proxy : Proxy) (reference : ProxyRef) :
    proxy? { world with proxies := world.proxies ++ [proxy] } reference =
      if (⟨world.proxies.length⟩ : ProxyRef) = reference then some proxy
      else world.proxy? reference := by
  obtain ⟨index⟩ := reference
  simp only [proxy?, ProxyRef.mk.injEq]
  grind

theorem proxy?_fresh (world : World σ) : world.proxy? ⟨world.proxies.length⟩ = none :=
  List.getElem?_eq_none (Nat.le_refl _)

theorem proxy?_set (present : world.proxy? reference = some proxy) (assigned : Proxy)
    (other : ProxyRef) :
    proxy? { world with proxies := world.proxies.set reference.index assigned } other =
      if reference = other then some assigned else world.proxy? other := by
  obtain ⟨index⟩ := reference
  obtain ⟨position⟩ := other
  simp only [proxy?, ProxyRef.mk.injEq] at present ⊢
  grind

theorem handler?_newHandler (world : World σ) (handler : Handler σ) (reference : HandlerRef) :
    handler? { world with handlers := world.handlers ++ [handler] } reference =
      if (⟨world.handlers.length⟩ : HandlerRef) = reference then some handler
      else world.handler? reference := by
  obtain ⟨index⟩ := reference
  simp only [handler?, HandlerRef.mk.injEq]
  grind

theorem handler?_fresh (world : World σ) : world.handler? ⟨world.handlers.length⟩ = none :=
  List.getElem?_eq_none (Nat.le_refl _)

theorem handler?_set {reference : HandlerRef} {handler : Handler σ}
    (present : world.handler? reference = some handler) (changed : Handler σ)
    (other : HandlerRef) :
    handler? { world with handlers := world.handlers.set reference.index changed } other =
      if reference = other then some changed else world.handler? other := by
  obtain ⟨index⟩ := reference
  obtain ⟨position⟩ := other
  simp only [handler?, HandlerRef.mk.injEq] at present ⊢
  grind

end World

/-! ## What a moment makes of them -/

namespace Operation.Does

variable {operation : Operation σ} {answer : operation.Answer} {before after : World σ}

theorem overrides? (does : operation.Does before answer after) (proxy : ProxyRef) :
    after.overrides? proxy =
      (before.overrides? proxy).or ((Moment.performed operation answer).assigns? proxy) := by
  cases does with
  | newProxy created =>
      rw [World.overrides?, World.proxy?_newProxy, Moment.assigns?]
      split
      · rename_i fresh
        rw [← fresh, World.overrides?, World.proxy?_fresh]
        rfl
      · rw [Option.or_none]
        rfl
  | assigned target overrides own assigned present accepted =>
      obtain ⟨free, rfl⟩ := Proxy.assign_eq_ok_iff.mp accepted
      rw [World.overrides?, World.proxy?_set present, Moment.assigns?]
      split
      · rename_i here
        rw [← here, World.overrides?_of_present present, free]
        rfl
      · rw [Option.or_none]
        rfl
  | _ => exact Option.or_none.symm

theorem binding? (does : operation.Does before answer after) (handler : HandlerRef) :
    after.binding? handler =
      ((Moment.performed operation answer).binds? handler).or (before.binding? handler) := by
  cases does with
  | newHandler created =>
      rw [World.binding?, World.handler?_newHandler, Moment.binds?]
      split
      · rename_i fresh
        rw [← fresh, World.binding?, World.handler?_fresh]
        exact Option.or_none.symm
      · rfl
  | bound target proxy own _ present _ =>
      show World.binding? { before with handlers := before.handlers.set target.index _ } handler =
        (if target = handler then some proxy else none).or (before.binding? handler)
      rw [World.binding?, World.handler?_set present]
      split <;> rfl
  | _ => rfl

theorem proxy_known (does : operation.Does before answer after) {proxy : ProxyRef}
    (known : (before.proxy? proxy).isSome = true) : (after.proxy? proxy).isSome = true := by
  cases does with
  | newProxy created =>
      rw [World.proxy?_newProxy]
      split
      · rfl
      · exact known
  | assigned _ _ _ _ present _ =>
      rw [World.proxy?_set present]
      split
      · rfl
      · exact known
  | _ => exact known

/-- A handler that exists is only ever bound to a proxy that exists. -/
theorem binds_known (does : operation.Does before answer after) {handler : HandlerRef}
    {proxy : ProxyRef} (exist : (before.handler? handler).isSome = true)
    (binds : (Moment.performed operation answer).binds? handler = some proxy) :
    (after.proxy? proxy).isSome = true := by
  cases does with
  | newHandler created =>
      obtain ⟨fresh, -⟩ := Option.ite_none_right_eq_some.mp binds
      rw [← fresh, World.handler?_fresh] at exist
      cases exist
  | bound target _ own found _ known =>
      obtain ⟨-, same⟩ := Option.ite_none_right_eq_some.mp binds
      obtain rfl := Option.some.inj same
      exact Option.isSome_iff_exists.mpr ⟨found, known⟩
  | _ => cases binds

end Operation.Does

namespace World.Tells

variable {before after : World σ} {moment : Moment σ}

/-- A moment is an operation without calls, or says nothing of proxies and handlers and
leaves them as they are. -/
theorem operation_or_kept (tells : before.Tells moment after) :
    (∃ operation answer start, moment = .performed operation answer ∧ before.Alike start ∧
      operation.Does start answer after) ∨
    (∀ proxy, moment.assigns? proxy = none ∧ after.proxy? proxy = before.proxy? proxy) ∧
      ∀ handler, moment.binds? handler = none ∧
        after.handler? handler = before.handler? handler := by
  cases tells with
  | answered operation answer start _ here does =>
      exact .inl ⟨operation, answer, start, rfl, here, does⟩
  | started _ _ _ _ _ _ counted =>
      obtain ⟨_, rfl⟩ := counted
      exact .inr ⟨fun _ => ⟨rfl, rfl⟩, fun _ => ⟨rfl, rfl⟩⟩
  | ended _ _ _ kept =>
      obtain ⟨_, rfl⟩ := kept
      exact .inr ⟨fun _ => ⟨rfl, rfl⟩, fun _ => ⟨rfl, rfl⟩⟩
  | registered _ _ added =>
      obtain ⟨_, rfl⟩ := added
      exact .inr ⟨fun _ => ⟨rfl, rfl⟩, fun _ => ⟨rfl, rfl⟩⟩
  | called operation _ _ calls kept =>
      obtain ⟨_, rfl⟩ := kept
      cases operation with
      | call | invoke => exact .inr ⟨fun _ => ⟨rfl, rfl⟩, fun _ => ⟨rfl, rfl⟩⟩
      | _ => cases calls

/-- A mapping that is there stays; only a proxy without one can get one. -/
theorem overrides? (tells : before.Tells moment after) (proxy : ProxyRef) :
    after.overrides? proxy = (before.overrides? proxy).or (moment.assigns? proxy) := by
  rcases tells.operation_or_kept with ⟨operation, answer, start, rfl, here, does⟩ | ⟨kept, -⟩
  · rw [does.overrides?, here.overrides?]
  · rw [(kept proxy).1, Option.or_none, World.overrides?, (kept proxy).2, World.overrides?]

/-- A new binding counts instead of the one before. -/
theorem binding? (tells : before.Tells moment after) (handler : HandlerRef) :
    after.binding? handler = (moment.binds? handler).or (before.binding? handler) := by
  rcases tells.operation_or_kept with ⟨operation, answer, start, rfl, here, does⟩ | ⟨-, kept⟩
  · rw [does.binding?, here.binding?]
  · rw [(kept handler).1, Option.none_or, World.binding?, (kept handler).2, World.binding?]

theorem proxy_known (tells : before.Tells moment after) {proxy : ProxyRef}
    (known : (before.proxy? proxy).isSome = true) : (after.proxy? proxy).isSome = true := by
  rcases tells.operation_or_kept with ⟨operation, answer, start, rfl, here, does⟩ | ⟨kept, -⟩
  · exact does.proxy_known (here.proxy? proxy ▸ known)
  · rwa [(kept proxy).2]

theorem binds_known (tells : before.Tells moment after) {handler : HandlerRef}
    {proxy : ProxyRef} (exist : (before.handler? handler).isSome = true)
    (binds : moment.binds? handler = some proxy) : (after.proxy? proxy).isSome = true := by
  rcases tells.operation_or_kept with ⟨operation, answer, start, rfl, here, does⟩ | ⟨-, kept⟩
  · obtain ⟨_, rfl⟩ := here
    exact does.binds_known exist binds
  · rw [(kept handler).1] at binds
    cases binds

/-- A handler that is bound stays bound, to the same proxy or to another one. -/
theorem bound_kept (tells : before.Tells moment after) {handler : HandlerRef}
    (bound : (before.bound? handler).isSome = true) : (after.bound? handler).isSome = true := by
  obtain ⟨proxy, binding, known⟩ := bound?_isSome_iff.mp bound
  apply bound?_isSome_iff.mpr
  rw [tells.binding?, binding]
  cases binds : moment.binds? handler with
  | none => exact ⟨proxy, rfl, tells.proxy_known known⟩
  | some other => exact ⟨other, rfl, tells.binds_known (handler_of_binding binding) binds⟩

end World.Tells

/-! ## Whole histories -/

namespace World.Connects

variable {before after : World σ} {history : History σ}

/-- The induction is on the history: an earlier mapping goes before a later one. -/
theorem overrides? (connects : before.Connects history after) (proxy : ProxyRef) :
    after.overrides? proxy =
      (before.overrides? proxy).or (firstAssigned proxy history.moments) := by
  induction connects with
  | done kept =>
      rw [kept.overrides?]
      exact Option.or_none.symm
  | @told _ middle _ moment rest tells _ ih =>
      have split : History.moments ((moment, middle) :: rest) = [moment] ++ rest.moments := rfl
      rw [ih, tells.overrides?, split, firstAssigned_append, firstAssigned_singleton,
        Option.or_assoc]

/-- The induction is on the history: a later binding goes before an earlier one. -/
theorem binding? (connects : before.Connects history after) (handler : HandlerRef) :
    after.binding? handler =
      (lastBound handler history.moments).or (before.binding? handler) := by
  induction connects with
  | done kept =>
      rw [kept.binding?]
      rfl
  | @told _ middle _ moment rest tells _ ih =>
      have split : History.moments ((moment, middle) :: rest) = [moment] ++ rest.moments := rfl
      rw [ih, tells.binding?, split, lastBound_append, lastBound_singleton, Option.or_assoc]

theorem bound_kept (connects : before.Connects history after) {handler : HandlerRef}
    (bound : (before.bound? handler).isSome = true) : (after.bound? handler).isSome = true := by
  induction connects with
  | done kept => rwa [kept.bound?]
  | told tells _ ih => exact ih (tells.bound_kept bound)

end World.Connects

end Interception
