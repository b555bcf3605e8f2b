import Mathlib.Logic.Relation
import Interception.Proofs.World.Induction
import Interception.Proofs.World.Operations

/-!
# Steps of a world

All that can happen to a world, whoever runs: host code outside of calls, the body
of a callback at any depth, a marshaler. Along a run the world only takes such
steps, so what every step keeps is kept between any two points of a run, also of
one that has no outcome.
-/

set_option autoImplicit false

namespace Interception

variable {σ α β : Type}

namespace World

inductive Step (before : World σ) : World σ → Prop where
  /-- The trace or the state of the host changes. -/
  | premises (premises : Premises σ) : Step before { before with premises }
  | counted : Step before { before with invocations := before.invocations + 1 }
  | registered (body : Callback σ) :
      Step before { before with registry := before.registry.register body }
  | unregistered (handle : Host.Handle) :
      Step before { before with registry := before.registry.unregister handle }
  | proxyCreated (proxy : Proxy) : Step before { before with proxies := before.proxies ++ [proxy] }
  | assigned (reference : ProxyRef) (proxy assigned : Proxy) (overrides : OverrideMap)
      (present : before.proxy? reference = some proxy)
      (accepted : proxy.assign overrides = .ok assigned) :
      Step before { before with proxies := before.proxies.set reference.index assigned }
  | handlerCreated (handler : Handler σ) :
      Step before { before with handlers := before.handlers ++ [handler] }
  | bound (reference : HandlerRef) (handler : Handler σ) (proxyRef : ProxyRef) (proxy : Proxy)
      (present : before.handler? reference = some handler)
      (known : before.proxy? proxyRef = some proxy) :
      Step before
        { before with
          handlers := before.handlers.set reference.index { handler with proxy := some proxyRef } }

def Reaches : World σ → World σ → Prop :=
  Relation.ReflTransGen Step

theorem Reaches.refl (world : World σ) : world.Reaches world :=
  Relation.ReflTransGen.refl

theorem Reaches.trans {first second third : World σ} (reached : first.Reaches second)
    (next : second.Reaches third) : first.Reaches third :=
  Relation.ReflTransGen.trans reached next

theorem Step.reaches {before after : World σ} (step : before.Step after) : before.Reaches after :=
  Relation.ReflTransGen.single step

end World

/-! ## Runs without calls -/

theorem Operation.Does.reaches {operation : Operation σ} {answer : operation.Answer}
    {before after : World σ} (does : operation.Does before answer after) :
    before.Reaches after := by
  cases does with
  | unregister handle => exact (World.Step.unregistered handle).reaches
  | newProxy proxy => exact (World.Step.proxyCreated proxy).reaches
  | assigned reference overrides proxy assigned present accepted =>
      exact (World.Step.assigned reference proxy assigned overrides present accepted).reaches
  | newHandler handler => exact (World.Step.handlerCreated handler).reaches
  | bound reference proxyRef handler proxy present known =>
      exact (World.Step.bound reference handler proxyRef proxy present known).reaches.trans
        (World.Step.premises _).reaches
  | coerce | validated => exact (World.Step.premises _).reaches
  | _ => exact .refl _

def Run.Reaching (run : Run σ α) : Prop :=
  ∀ world value after, run world = some (value, after) → world.Reaches after

namespace Run.Reaching

theorem pure (value : α) : Reaching (Pure.pure value : Run σ α) := by
  intro world result after ran
  cases ran
  exact .refl _

theorem get : Reaching (MonadState.get : Run σ (World σ)) := by
  intro world result after ran
  cases ran
  exact .refl _

theorem lift (value? : Option α) : Reaching (StateT.lift value? : Run σ α) := by
  intro world result after ran
  cases value? with
  | none => cases ran
  | some found =>
      cases ran
      exact .refl _

/-- A run that ends on every world does so by one step. -/
theorem of_step {run : Run σ α} {answer : World σ → α} {changed : World σ → World σ}
    (runs : ∀ world, run world = some (answer world, changed world))
    (step : ∀ world : World σ, world.Step (changed world)) : Reaching run := by
  intro world result after ran
  rw [runs] at ran
  cases ran
  exact (step world).reaches

theorem premises (conversion : Conversion σ α) : Reaching (World.onPremises conversion) :=
  of_step (fun _ => rfl) fun _ => .premises _

theorem bind {first : Run σ α} {next : α → Run σ β} (reaching : Reaching first)
    (goesOn : ∀ value, Reaching (next value)) : Reaching (first >>= next) := by
  intro world result after ran
  change (first world).bind (fun pair => next pair.1 pair.2) = some (result, after) at ran
  cases started : first world with
  | none =>
      rw [started] at ran
      cases ran
  | some pair =>
      rw [started] at ran
      exact (reaching world pair.1 pair.2 started).trans (goesOn pair.1 pair.2 result after ran)

theorem register (body : Callback σ) : Reaching (World.register body) := by
  refine bind get fun world => bind ?_ fun _ => bind (premises _) fun _ => pure _
  exact of_step (fun _ => rfl) fun _ => .registered body

theorem write (state : σ) :
    Reaching (modify fun world => { world with premises := { world.premises with state } } :
      Run σ Unit) :=
  of_step (fun _ => rfl) fun _ => .premises _

theorem count :
    Reaching (modify fun world => { world with invocations := world.invocations + 1 } :
      Run σ Unit) :=
  of_step (fun _ => rfl) fun _ => .counted

theorem operation (operation : Operation σ) {environment : CallbackEnvironment (Run σ)}
    (quiet : operation.calls = false) : Reaching (operation.run environment) :=
  fun _ _ _ ran => (Operation.run_does quiet ran).reaches

end Run.Reaching

namespace Chronicle

/-- The worlds that a run tells of: the first, those of its history, and the last,
if there is one. -/
def points (computation : Chronicle σ α) (world : World σ) : List (World σ) :=
  world :: ((computation world).2.map (·.2) ++ ((computation world).1.map (·.2)).toList)

/-- Between any two points of the run there are only steps. -/
def Advances (computation : Chronicle σ α) : Prop :=
  ∀ world, (computation.points world).Pairwise World.Reaches

theorem Advances.silent {run : Run σ α} (reaching : run.Reaching) :
    Advances (Chronicle.silent run) := by
  intro world
  rcases ran : run world with _ | ⟨value, after⟩
  · simp [points, Chronicle.silent, ran]
  · simpa [points, Chronicle.silent, ran] using reaching world value after ran

theorem Advances.pure (value : α) : Advances (Pure.pure value : Chronicle σ α) := by
  intro world
  simp [points, Pure.pure, World.Reaches.refl]

theorem Advances.note (moment : Moment σ) : Advances (Chronicle.note moment) := by
  intro world
  simp [points, Chronicle.note, World.Reaches.refl]

private theorem pairwise_through {earlier later : List (World σ)} {middle : World σ}
    (before : (earlier ++ [middle]).Pairwise World.Reaches)
    (after : (middle :: later).Pairwise World.Reaches) :
    (earlier ++ later).Pairwise World.Reaches := by
  obtain ⟨ordered, -, toMiddle⟩ := List.pairwise_append.mp before
  obtain ⟨fromMiddle, rest⟩ := List.pairwise_cons.mp after
  refine List.pairwise_append.mpr ⟨ordered, rest, fun first isFirst last isLast => ?_⟩
  exact (toMiddle first isFirst middle List.mem_cons_self).trans (fromMiddle last isLast)

theorem Advances.bind {first : Chronicle σ α} {next : α → Chronicle σ β}
    (advances : Advances first) (goesOn : ∀ value, Advances (next value)) :
    Advances (first >>= next) := by
  intro world
  have before := advances world
  rw [points, bind_apply]
  rcases ran : first world with ⟨_ | ⟨value, middle⟩, history⟩
  · simpa [points, ran] using before
  · have after := goesOn value middle
    simp only [points, ran, Option.map_some, Option.toList_some, ← List.cons_append]
      at before
    rw [List.map_append, List.append_assoc, ← List.cons_append]
    exact pairwise_through before after

theorem Advances.premises (conversion : Conversion σ α) :
    Advances (Chronicle.premises.carry conversion) :=
  Advances.silent (Run.Reaching.premises conversion)

theorem Advances.reaches {computation : Chronicle σ α} (advances : Advances computation)
    {world after : World σ} {value : α} (ran : (computation world).1 = some (value, after)) :
    world.Reaches after := by
  have ordered := advances world
  rw [points, ran] at ordered
  exact (List.pairwise_cons.mp ordered).1 after (by simp)

theorem advances_hereditary : Hereditary (@Advances σ) where
  pure := Advances.pure
  bind := Advances.bind
  look := Advances.silent .get
  lift value? := Advances.silent (.lift value?)
  conversion := Advances.premises
  write state := Advances.silent (.write state)
  registering body :=
    .bind (.silent (.register body)) fun _ => .bind (.note _) fun _ => .pure _
  operation operation environment quiet := Advances.silent (.operation operation quiet)
  performing _ _ holds := .bind holds fun _ => .bind (.note _) fun _ => .pure _
  starting handle context arguments := by
    refine .bind (.silent .get) fun world => ?_
    cases world.registry.find? handle with
    | none => exact .pure none
    | some body =>
        exact .bind (.silent .count) fun _ => .bind (.note _) fun _ => .pure (some body)
  ended _ _ := Advances.note _

end Chronicle

/-- Along an invocation at any depth there are only steps. -/
theorem World.invoke_reaches {depth : Nat} {reference : HandlerRef} {call : Native.Call}
    {before after : World σ} {outcome : Except Failure Native.Value}
    (finished : World.invoke (World.environment depth) reference call before =
      some (outcome, after)) : before.Reaches after := by
  have advances : Chronicle.Advances (World.invoke (World.chronicler depth) reference
      call : Chronicle σ _) := Chronicle.advances_hereditary.invocation depth reference call
  exact advances.reaches ((Chronicle.run_invoke depth reference call before).trans finished)

end Interception
