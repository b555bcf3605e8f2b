import Interception.Proofs.World.Bindings
import Interception.Proofs.World.InvocationTrace

/-!
# Mappings are assigned once

A proxy keeps the first mapping that it is given, whatever becomes of the mapping in
the hands of the host, of other proxies, and of the calls that are running. Handlers go
by the mapping of the proxy that they were bound to last, whether it was assigned before
or after the binding, and a handler that was bound is never unbound.
-/

set_option autoImplicit false

namespace Interception

variable {σ : Type}

/-! ## One world -/

/-- The reason that is given for a call applies to it. -/
theorem Settings.route_ne_unbound (settings : Settings) (proxy : Proxy) (call : Native.Call) :
    settings.route (some proxy) call ≠ .unintercepted .unbound := by
  intro routed
  have applies := List.find?_some (route_unintercepted_iff.mp routed)
  cases applies

namespace World

/-- Calls at the handler are intercepted by a proxy with the mapping. -/
def GoesBy (world : World σ) (reference : HandlerRef) (overrides : OverrideMap) : Prop :=
  ∃ handler proxy, world.handler? reference = some handler ∧
    world.boundProxy? handler = some proxy ∧ proxy.overrides = some overrides ∧
    ∀ (environment : CallbackEnvironment (Run σ)) (call : Native.Call),
      World.invoke environment reference call world =
        intercept (handler.marshaler.lift onPremises) environment handler.settings
          (some proxy) call world

theorem goesBy_of_binding {world : World σ} {handler : HandlerRef} {proxy : ProxyRef}
    {overrides : OverrideMap} (binding : world.binding? handler = some proxy)
    (assigned : world.overrides? proxy = some overrides) : world.GoesBy handler overrides := by
  obtain ⟨own, present, points⟩ := Option.bind_eq_some_iff.mp binding
  obtain ⟨found, known, held⟩ := Option.bind_eq_some_iff.mp assigned
  have bound : world.boundProxy? own = some found := by
    rw [boundProxy?, points]
    exact known
  refine ⟨own, found, present, bound, held, ?_⟩
  intro environment call
  rw [invoke_present environment present, bound]

/-- A call at a handler that is bound is never reported as unbound. -/
theorem route_of_bound {world : World σ} {reference : HandlerRef} {handler : Handler σ}
    (bound : (world.bound? reference).isSome = true)
    (present : world.handler? reference = some handler) (call : Native.Call) :
    handler.settings.route (world.boundProxy? handler) call ≠ .unintercepted .unbound := by
  rw [bound?, present] at bound
  obtain ⟨proxy, found⟩ := Option.isSome_iff_exists.mp bound
  change world.boundProxy? handler = some proxy at found
  rw [found]
  exact handler.settings.route_ne_unbound proxy call

/-- What comes of assigning mappings to a proxy in a world: a first one is accepted, and
every handler bound to the proxy goes by it at once; a further one is refused. -/
structure WritesOnce (world : World σ) (reference : ProxyRef) : Prop where
  first : ∀ proxy, world.proxy? reference = some proxy → proxy.overrides = none →
    ∀ overrides, ∃ after, World.setOverrides reference overrides world = some (.ok (), after) ∧
      after.overrides? reference = some overrides ∧
      (∀ other, other ≠ reference → after.proxy? other = world.proxy? other) ∧
      (∀ handler, after.handler? handler = world.handler? handler) ∧
      ∀ handler, world.binding? handler = some reference → after.GoesBy handler overrides
  again : ∀ proxy held, world.proxy? reference = some proxy → proxy.overrides = some held →
    ∀ overrides, World.setOverrides reference overrides world =
      some (.error .overridesAlreadySet, world)

theorem writesOnce (world : World σ) (reference : ProxyRef) : world.WritesOnce reference where
  first := by
    intro proxy present free overrides
    have accepted : proxy.assign overrides = .ok { proxy with overrides := some overrides } :=
      Proxy.assign_eq_ok_iff.mpr ⟨free, rfl⟩
    have assigned := proxy?_set present { proxy with overrides := some overrides }
    have now := overrides?_of_present ((assigned reference).trans (if_pos rfl))
    refine ⟨_, ?_, now, ?_, fun _ => rfl, ?_⟩
    · unfold setOverrides
      rw [present]
      simp only [Option.bind_eq_bind, Option.bind_some, accepted]
    · intro other apart
      exact (assigned other).trans (if_neg apart.symm)
    · intro handler binding
      exact goesBy_of_binding binding now
  again := by
    intro proxy held present taken overrides
    have refused : proxy.assign overrides = .error .overridesAlreadySet :=
      Proxy.assign_eq_error_iff.mpr ⟨by rw [taken]; rfl, rfl⟩
    unfold setOverrides
    rw [present]
    simp only [Option.bind_eq_bind, Option.bind_some, refused]

/-! ## One moment -/

/-- An assignment succeeds if it is the first one. -/
theorem Tells.setOverrides_answer {before after : World σ} {proxy : ProxyRef}
    {overrides : OverrideMap} {answer : Except Failure Unit}
    (tells : before.Tells (.performed (.setOverrides proxy overrides) answer) after) :
    answer = if (before.overrides? proxy).isSome then .error .overridesAlreadySet else .ok () := by
  obtain ⟨start, here, does⟩ := tells.does rfl
  rw [← here.overrides?]
  cases does with
  | assigned _ _ own _ present accepted =>
      obtain ⟨free, -⟩ := Proxy.assign_eq_ok_iff.mp accepted
      rw [overrides?_of_present present, free]
      rfl
  | notAssigned _ _ own failure present refused =>
      obtain ⟨held, rfl⟩ := Proxy.assign_eq_error_iff.mp refused
      rw [overrides?_of_present present, if_pos held]

/-- What one moment of a run does to mappings and bindings, after what the run told
before. -/
structure Commits (start : World σ) (earlier : History σ) (moment : Moment σ)
    (point : World σ) : Prop where
  assigned : ∀ proxy overrides (answer : Except Failure Unit),
    moment = .performed (.setOverrides proxy overrides) answer →
      ((earlier.latest start).overrides? proxy = none →
        answer = .ok () ∧ point.overrides? proxy = some overrides) ∧
      (∀ held, (earlier.latest start).overrides? proxy = some held →
        answer = .error .overridesAlreadySet ∧ point.overrides? proxy = some held) ∧
      ∀ other, other ≠ proxy → point.overrides? other = (earlier.latest start).overrides? other
  bound : ∀ handler proxy (answer : Unit), moment = .performed (.bind handler proxy) answer →
    point.binding? handler = some proxy ∧ (point.bound? handler).isSome = true
  /-- A call at a handler that was bound at any time before is intercepted, or reported
  with another reason. -/
  invoked : ∀ reference call (answer : Except Failure Native.Value),
    moment = .performed (.invoke reference call) answer →
      ∃ depth prior inside began handler, earlier = prior ++ inside ∧
        (prior.latest start).Alike began ∧
        World.invoke (World.chronicler depth) reference call began =
          (some (answer, point), inside) ∧
        began.handler? reference = some handler ∧
        ∀ first rest, prior = first ++ rest →
          ((first.latest start).bound? reference).isSome = true →
          ∀ reason, handler.settings.route (began.boundProxy? handler) call =
              .unintercepted reason →
            reason ≠ .unbound ∧
              point = began.retraced (·.settle call.method (.unintercepted call.method reason))

/-! ## Whole runs -/

/-- How mappings and bindings stand in a world to which the history leads. -/
structure Stands (start : World σ) (told : History σ) (here : World σ) : Prop where
  mapping : ∀ proxy, here.overrides? proxy =
    (start.overrides? proxy).or (firstAssigned proxy told.moments)
  kept : ∀ prior rest, told = prior ++ rest →
    ∀ proxy overrides, (prior.latest start).overrides? proxy = some overrides →
      here.overrides? proxy = some overrides
  writes : ∀ proxy, here.WritesOnce proxy
  visible : ∀ handler proxy overrides, here.binding? handler = some proxy →
    here.overrides? proxy = some overrides → here.GoesBy handler overrides
  binding : ∀ handler, here.binding? handler =
    (lastBound handler told.moments).or (start.binding? handler)
  bound : ∀ prior rest, told = prior ++ rest →
    ∀ handler, ((prior.latest start).bound? handler).isSome = true →
      (here.bound? handler).isSome = true ∧
        ∀ own call, here.handler? handler = some own →
          own.settings.route (here.boundProxy? own) call ≠ .unintercepted .unbound

theorem Connects.stands {start here : World σ} {told : History σ}
    (connects : start.Connects told here) : start.Stands told here where
  mapping := connects.overrides?
  kept := by
    rintro prior rest rfl proxy overrides held
    rw [connects.from_latest.overrides?, held]
    rfl
  writes := here.writesOnce
  visible _ _ _ := goesBy_of_binding
  binding := connects.binding?
  bound := by
    rintro prior rest rfl handler bound
    have still := connects.from_latest.bound_kept bound
    exact ⟨still, fun own call present => route_of_bound still present call⟩

theorem commits {start before point : World σ} {earlier : History σ} {moment : Moment σ}
    (leads : start.Connects earlier before) (tells : before.Tells moment point)
    (encloses : ∀ operation answer, moment = .performed operation answer →
      ∃ depth began prior inside, earlier = prior ++ inside ∧ start.Connects prior began ∧
        operation.run (World.chronicler depth) began = (some (answer, point), inside)) :
    start.Commits earlier moment point where
  assigned := by
    rintro proxy overrides answer rfl
    have answered := tells.setOverrides_answer
    have mapping := tells.overrides?
    simp only [leads.latest.overrides?] at answered mapping
    refine ⟨?first, ?again, ?others⟩
    case first =>
      intro free
      rw [free] at answered
      obtain rfl : answer = .ok () := answered
      rw [mapping, free]
      exact ⟨rfl, if_pos rfl⟩
    case again =>
      intro held taken
      rw [taken] at answered
      rw [mapping, taken]
      exact ⟨answered, rfl⟩
    case others =>
      intro other apart
      rw [mapping]
      cases answer with
      | error failure => exact Option.or_none
      | ok done =>
          have nothing : (Moment.performed (.setOverrides proxy overrides) (.ok done) :
              Moment σ).assigns? other = none := if_neg apart.symm
          rw [nothing, Option.or_none]
  bound := by
    rintro handler proxy answer rfl
    have binding : point.binding? handler = some proxy := by
      have now : (Moment.performed (.bind handler proxy) answer : Moment σ).binds? handler =
        some proxy := if_pos rfl
      rw [tells.binding?, now]
      rfl
    refine ⟨binding, bound?_isSome_iff.mpr ⟨proxy, binding, ?_⟩⟩
    obtain ⟨_, -, does⟩ := tells.does rfl
    cases does with
    | bound _ _ _ found _ known => exact Option.isSome_iff_exists.mpr ⟨found, known⟩
  invoked := by
    rintro reference call answer rfl
    obtain ⟨depth, began, prior, inside, rfl, connects, ran⟩ :=
      encloses (.invoke reference call) answer rfl
    obtain ⟨handler, present⟩ := Chronicle.handler_of_invoke ran
    refine ⟨depth, prior, inside, began, handler, rfl, connects.latest, ran, present, ?_⟩
    rintro first rest rfl bound reason routed
    have still := connects.from_latest.bound_kept bound
    refine ⟨?_, (Chronicle.invoke_passage present ran).of_unintercepted routed⟩
    rintro rfl
    exact route_of_bound still present call routed

/-- Throughout a run mappings are assigned once and handlers are never unbound: in each
world that the run comes through, and at each of its moments. The host can change what
it keeps at any time, also the mapping that it assigned. -/
theorem overrides_written_once (depth : Nat) (program : Program σ) (start : World σ) :
    let history := (program.run (World.chronicler depth) start).2
    (∀ told later here, history = told ++ later → (told.latest start).Alike here →
      start.Stands told here) ∧
    (∀ earlier moment point later, history = earlier ++ (moment, point) :: later →
      start.Commits earlier moment point) ∧
    ∀ result after, program.run (World.environment depth) start = some (result, after) →
      (history.latest start).Alike after := by
  intro history
  have recounts := Chronicle.recounts_stepwise.program depth program
  obtain ⟨last, connects, ends⟩ := recounts.connected start
  refine ⟨?worlds, ?moments, ?ended⟩
  case worlds =>
    intro told later here split alike
    have through : start.Connects (told ++ later) last := split ▸ connects
    exact (through.to_latest.to_alike alike).stands
  case moments =>
    intro earlier moment point later split
    obtain ⟨before, leads, tells, encloses⟩ := recounts.at_moment split
    exact commits leads tells encloses
  case ended =>
    intro result after ran
    obtain rfl := ends result after (by rw [Chronicle.run_program, ran])
    exact connects.latest

/-- Tries to assign what the host keeps by now to the first proxy, and fails. -/
def usurping : Callback OverrideMap := fun _ _ _ =>
  .read fun kept => .perform (.setOverrides ⟨0⟩ kept) fun _ => .done (.error "refused")

def runnable : OverrideMap :=
  .ofList [("run", .callback ⟨1⟩)]

/-- Binds a handler to a proxy that has no mapping yet, assigns the one that the host
keeps, changes the latter, and has a callback assign it again. -/
def latecomer : Program OverrideMap :=
  .register usurping fun handle =>
    .perform (.newProxy ⟨"Runnable", ⟨3⟩, none⟩) fun proxy =>
      .perform (.newHandler {}) fun handler =>
        .perform (.bind handler proxy) fun _ =>
          .read fun kept =>
            .perform (.setOverrides proxy kept) fun _ =>
              .write (kept.insert "stop" (.callback handle)) <|
                .perform (.call handle ⟨3⟩ []) fun _ => .done (.ok .null)

def unassigned : World OverrideMap where
  premises := { state := runnable }

theorem overrides_written_once_latecomer :
    let history := (latecomer.run (World.chronicler 1) unassigned).2
    ∃ (prior rest : History OverrideMap) (point : World OverrideMap)
        (later : History OverrideMap),
      history = (prior ++ rest) ++
        (.performed (.setOverrides ⟨0⟩ (runnable.insert "stop" (.callback ⟨1⟩)))
          (.error .overridesAlreadySet), point) :: later ∧
      (prior.latest unassigned).overrides? ⟨0⟩ = some runnable ∧
      ((prior.latest unassigned).bound? ⟨0⟩).isSome = true ∧
      point.overrides? ⟨0⟩ = some runnable ∧ point.GoesBy ⟨0⟩ runnable ∧
      (point.bound? ⟨0⟩).isSome = true ∧
      ((prior ++ rest).latest unassigned).overrides? ⟨0⟩ = some runnable := by
  intro history
  obtain ⟨stands, commits, -⟩ := overrides_written_once 1 latecomer unassigned
  have told : ∃ (prior rest : History OverrideMap) (point : World OverrideMap)
        (later : History OverrideMap),
      history = (prior ++ rest) ++
        (.performed (.setOverrides ⟨0⟩ (runnable.insert "stop" (.callback ⟨1⟩)))
          (.error .overridesAlreadySet), point) :: later ∧
      (prior.latest unassigned).overrides? ⟨0⟩ = some runnable ∧
      ((prior.latest unassigned).bound? ⟨0⟩).isSome = true ∧
      point.binding? ⟨0⟩ = some ⟨0⟩ := by
    exact ⟨[_, _, _, _, _], [_], _, [_, _], rfl, rfl, rfl, rfl⟩
  obtain ⟨prior, rest, point, later, split, held, bound, binding⟩ := told
  have before : unassigned.Stands (prior ++ rest) ((prior ++ rest).latest unassigned) :=
    stands _ _ _ split (.refl _)
  have here : unassigned.Stands ((prior ++ rest) ++ [(.performed (.setOverrides ⟨0⟩
      (runnable.insert "stop" (.callback ⟨1⟩))) (.error .overridesAlreadySet), point)]) point := by
    refine stands _ later point (split.trans (List.append_cons ..)) ?_
    rw [History.latest_snoc]
    exact .refl point
  have still := before.kept prior rest rfl ⟨0⟩ runnable held
  obtain ⟨-, again, -⟩ := (commits _ _ _ _ split).assigned ⟨0⟩ _ _ rfl
  obtain ⟨-, mapping⟩ := again runnable still
  refine ⟨prior, rest, point, later, split, held, bound, mapping, ?_, ?_, still⟩
  · exact here.visible ⟨0⟩ ⟨0⟩ runnable binding mapping
  · exact (here.bound prior _ (List.append_assoc ..) ⟨0⟩ bound).1

end World

end Interception
