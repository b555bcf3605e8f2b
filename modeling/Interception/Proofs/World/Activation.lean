import Interception.Proofs.World.Invoke

/-!
# Activations

One run of the body of a callback, from the world in which it was counted to the
world that it leaves. An invocation comes to its end in one of five ways, and only
one of them has an activation of its own; whatever happens below is part of that
activation.
-/

set_option autoImplicit false

namespace Interception

/-- Worlds that differ at most in their traces. -/
structure World.SameState {σ : Type} (left right : World σ) : Prop where
  registry : left.registry = right.registry
  invocations : left.invocations = right.invocations
  proxies : left.proxies = right.proxies
  handlers : left.handlers = right.handlers
  state : left.premises.state = right.premises.state

def World.counted {σ : Type} (world : World σ) : World σ :=
  { world with invocations := world.invocations + 1 }

structure Activation (σ : Type) where
  handle : Host.Handle
  context : Host.ObjectId
  arguments : List Host.Value
  body : Callback σ
  /-- The body starts here, and counts as started already. -/
  entry : World σ
  result : Except String Host.Value
  left : World σ

variable {σ : Type}

namespace Activation

variable (activation : Activation σ)

def reply : Except Failure Host.Value :=
  activation.result.mapError (.callback activation.handle)

def program : Program σ :=
  activation.body activation.handle activation.context activation.arguments

/-- The body does this where calls below it are nested at most `depth` deep. -/
def Finishes (depth : Nat) : Prop :=
  activation.program.run (World.environment depth) activation.entry =
    some (activation.result, activation.left)

def history (depth : Nat) : History σ :=
  (.started activation.handle activation.context activation.arguments activation.body,
      activation.entry) ::
    (activation.program.run (World.chronicler depth) activation.entry).2 ++
    [(.ended activation.handle activation.result, activation.left)]

end Activation

namespace Chronicle

theorem starting_absent {handle : Host.Handle} {world : World σ}
    (absent : world.registry.find? handle = none) (context : Host.ObjectId)
    (arguments : List Host.Value) :
    (Hosting.starting handle context arguments : Chronicle σ _) world =
      (some (none, world), []) := by
  have got : (get : Run σ _) world = some (world, world) := rfl
  simp only [Hosting.starting, step_bind_apply, got, absent]
  rfl

theorem starting_live {handle : Host.Handle} {world : World σ} {body : Callback σ}
    (live : world.registry.find? handle = some body) (context : Host.ObjectId)
    (arguments : List Host.Value) :
    (Hosting.starting handle context arguments : Chronicle σ _) world =
      (some (some body, world.counted),
        [(.started handle context arguments body, world.counted)]) := by
  have got : (get : Run σ _) world = some (world, world) := rfl
  simp only [Hosting.starting, step_bind_apply, got, live]
  rfl

theorem start_absent (inner : CallbackEnvironment (Chronicle σ)) {handle : Host.Handle}
    {world : World σ} (absent : world.registry.find? handle = none) (context : Host.ObjectId)
    (arguments : List Host.Value) :
    World.start inner handle context arguments world =
      (some (.error (.unknownCallback handle), world), []) := by
  simp only [World.start, bind_apply, starting_absent absent]
  rfl

theorem start_live (inner : CallbackEnvironment (Chronicle σ)) {handle : Host.Handle}
    {world : World σ} {body : Callback σ} (live : world.registry.find? handle = some body)
    (context : Host.ObjectId) (arguments : List Host.Value) :
    World.start inner handle context arguments world =
      match (body handle context arguments).run inner world.counted with
      | (none, inside) =>
          (none, (.started handle context arguments body, world.counted) :: inside)
      | (some (result, left), inside) =>
          (some (result.mapError (.callback handle), left),
            (.started handle context arguments body, world.counted) :: inside ++
              [(.ended handle result, left)]) := by
  have noted (moment : Moment σ) (world : World σ) :
      (Hosting.note moment : Chronicle σ Unit) world = (some ((), world), [(moment, world)]) :=
    rfl
  simp only [World.start, bind_apply, starting_live live, noted]
  rcases (body handle context arguments).run inner world.counted
    with ⟨_ | ⟨result, left⟩, inside⟩
  · rfl
  · simp [pure]

/-- A call of a callback that ends is answered without a body, or by one activation. -/
theorem call_cases {depth : Nat} {handle : Host.Handle} {context : Host.ObjectId}
    {arguments : List Host.Value} {world left : World σ} {reply : Except Failure Host.Value}
    {history : History σ}
    (finished : (World.chronicler depth).call handle context arguments world =
      (some (reply, left), history)) :
    (world.registry.find? handle = none ∧ reply = .error (.unknownCallback handle) ∧
        left = world ∧ history = []) ∨
      ∃ inner body result, depth = inner + 1 ∧ world.registry.find? handle = some body ∧
        let activation : Activation σ :=
          ⟨handle, context, arguments, body, world.counted, result, left⟩
        activation.Finishes inner ∧ reply = activation.reply ∧
          history = activation.history inner := by
  cases depth with
  | zero => cases finished
  | succ inner =>
      rw [chronicler_call] at finished
      cases live : world.registry.find? handle with
      | none =>
          rw [start_absent _ live] at finished
          cases finished
          exact .inl ⟨rfl, rfl, rfl, rfl⟩
      | some body =>
          rw [start_live _ live] at finished
          rcases ran : (body handle context arguments).run (World.chronicler inner)
            world.counted with ⟨_ | ⟨result, ended⟩, inside⟩
          · rw [ran] at finished
            cases finished
          · rw [ran] at finished
            cases finished
            refine .inr ⟨inner, body, result, rfl, rfl, ?_, rfl, ?_⟩
            · show (body handle context arguments).run (World.environment inner) world.counted = _
              rw [← run_program, ran]
            · show _ = (_ :: ((body handle context arguments).run (World.chronicler inner)
                world.counted).2 ++ _ : History σ)
              rw [ran]

end Chronicle

/-- How an invocation at a handler with the standard marshaler comes to its end. -/
inductive World.Course (depth : Nat) (handler : Handler σ) (call : Native.Call)
    (before : World σ) : Except Failure Native.Value → World σ → History σ → Prop where
  | unintercepted (reason : Reason) (after : World σ)
      (routed : handler.settings.route (before.boundProxy? handler) call = .unintercepted reason)
      (kept : before.SameState after) :
      Course depth handler call before (.ok (handler.settings.defaultFor call)) after []
  | rejected (after : World σ)
      (routed : handler.settings.route (before.boundProxy? handler) call = .rejected)
      (kept : before.SameState after) :
      Course depth handler call before (.error (.finalMethod call.method)) after []
  | notWrapped (handle : Host.Handle) (context : Host.ObjectId) (failure : Failure)
      (after : World σ)
      (routed : handler.settings.route (before.boundProxy? handler) call =
        .dispatched handle context)
      (refused : Native.Value.marshalAll call.parameters call.arguments = .error failure)
      (kept : before.SameState after) :
      Course depth handler call before (.error failure) after []
  | notLive (handle : Host.Handle) (context : Host.ObjectId) (arguments : List Host.Value)
      (after : World σ)
      (routed : handler.settings.route (before.boundProxy? handler) call =
        .dispatched handle context)
      (wrapped : Native.Value.marshalAll call.parameters call.arguments = .ok arguments)
      (absent : before.registry.find? handle = none) (kept : before.SameState after) :
      Course depth handler call before (.error (.unknownCallback handle)) after []
  | activated (inner : Nat) (activation : Activation σ) (after : World σ)
      (below : depth = inner + 1)
      (routed : handler.settings.route (before.boundProxy? handler) call =
        .dispatched activation.handle activation.context)
      (wrapped : Native.Value.marshalAll call.parameters call.arguments =
        .ok activation.arguments)
      (live : before.registry.find? activation.handle = some activation.body)
      (entered : before.counted.SameState activation.entry)
      (finishes : activation.Finishes inner) (kept : activation.left.SameState after) :
      Course depth handler call before
        (handler.settings.conclude call activation.reply).outcome after (activation.history inner)

theorem World.invoke_course {depth : Nat} {reference : HandlerRef} {call : Native.Call}
    {handler : Handler σ} {before after : World σ} {outcome : Except Failure Native.Value}
    (present : before.handler? reference = some handler)
    (standard : handler.marshaler = .standard)
    (finished : World.invoke (World.environment depth) reference call before =
      some (outcome, after)) :
    World.Course depth handler call before outcome after
      (World.invoke (World.chronicler depth) reference call before).2 := by
  rw [← Chronicle.run_invoke] at finished
  rcases told : World.invoke (World.chronicler depth) reference call before
    with ⟨ended, history⟩
  rw [told] at finished
  obtain rfl : ended = some (outcome, after) := finished
  cases Chronicle.invoke_passage present told with
  | unintercepted reason routed => exact .unintercepted reason _ routed ⟨rfl, rfl, rfl, rfl, rfl⟩
  | rejected routed => exact .rejected _ routed ⟨rfl, rfl, rfl, rfl, rfl⟩
  | notWrapped handle context failure premises routed refused =>
      rw [standard] at refused
      obtain ⟨failed, rfl⟩ := Prod.mk.inj refused
      exact .notWrapped handle context failure _ routed failed ⟨rfl, rfl, rfl, rfl, rfl⟩
  | answered handle context arguments premises reply left _ concluded _ routed wrapped answered
      concludes =>
      rw [standard] at wrapped concludes
      obtain ⟨carried, rfl⟩ := Prod.mk.inj wrapped
      rw [Marshaler.conclude_standard] at concludes
      obtain ⟨rfl, rfl⟩ := Prod.mk.inj concludes
      rcases Chronicle.call_cases answered with ⟨absent, rfl, rfl, rfl⟩ |
        ⟨inner, body, result, rfl, live, finishes, rfl, rfl⟩
      · exact .notLive handle context arguments _ routed carried absent ⟨rfl, rfl, rfl, rfl, rfl⟩
      · exact .activated inner _ _ rfl routed carried live ⟨rfl, rfl, rfl, rfl, rfl⟩ finishes
          ⟨rfl, rfl, rfl, rfl, rfl⟩

end Interception
