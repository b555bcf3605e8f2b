import Interception.Proofs.Invocation.Protocol
import Interception.Proofs.World.Activation
import Interception.Proofs.World.Nested
import Interception.Proofs.World.Steps

/-!
# What a dispatched call touches

An invocation runs at most one body of its own: the one that was registered when
the call arrived, on the world as it was then. What the body leaves is what the
invocation leaves.
-/

set_option autoImplicit false

namespace Interception

variable {σ : Type}

namespace World

theorem Step.handler_kept {before after : World σ} {reference : HandlerRef} {handler : Handler σ}
    (step : before.Step after) (present : before.handler? reference = some handler) :
    ∃ later, after.handler? reference = some later ∧ later.settings = handler.settings ∧
      later.marshaler = handler.marshaler := by
  cases step with
  | handlerCreated created =>
      have inside : reference.index < before.handlers.length :=
        (List.getElem?_eq_some_iff.mp present).1
      exact ⟨handler, (List.getElem?_append_left inside).trans present, rfl, rfl⟩
  | bound other changed proxyRef proxy there known =>
      rw [handler?] at present there ⊢
      by_cases same : other.index = reference.index
      · rw [same] at there
        obtain rfl := Option.some.inj (present.symm.trans there)
        refine ⟨{ handler with proxy := some proxyRef }, ?_, rfl, rfl⟩
        simp only [same, List.getElem?_set_self', present]
        rfl
      · refine ⟨handler, ?_, rfl, rfl⟩
        simp only [List.getElem?_set_ne same, present]
  | _ => exact ⟨handler, present, rfl, rfl⟩

theorem Reaches.handler_kept {before after : World σ} {reference : HandlerRef}
    {handler : Handler σ} (reached : before.Reaches after)
    (present : before.handler? reference = some handler) :
    ∃ later, after.handler? reference = some later ∧ later.settings = handler.settings ∧
      later.marshaler = handler.marshaler := by
  induction reached with
  | refl => exact ⟨handler, present, rfl, rfl⟩
  | tail _ step ih =>
      obtain ⟨middle, there, settings, marshaler⟩ := ih
      obtain ⟨later, here, sameSettings, sameMarshaler⟩ := step.handler_kept there
      exact ⟨later, here, sameSettings.trans settings, sameMarshaler.trans marshaler⟩

/-- A call at the handler is to be forwarded, with these arguments. -/
structure Forwards (world : World σ) (handler : Handler σ) (call : Native.Call)
    (handle : Host.Handle) (context : Host.ObjectId) (arguments : List Host.Value) : Prop where
  overridden : Overridden (world.boundProxy? handler) call.method (.callback handle) context
  permitted : call.isFinal = true → handler.settings.finalMethods = .dispatch
  wrapped : Native.Value.marshalAll call.parameters call.arguments = .ok arguments

theorem Forwards.routed {world : World σ} {handler : Handler σ} {call : Native.Call}
    {handle : Host.Handle} {context : Host.ObjectId} {arguments : List Host.Value}
    (forwards : world.Forwards handler call handle context arguments) :
    handler.settings.route (world.boundProxy? handler) call = .dispatched handle context :=
  Settings.route_eq_dispatched_iff.mpr ⟨forwards.overridden, forwards.permitted⟩

/-- The one activation of an invocation that forwards its call to a live callback. -/
theorem Course.activation_of_forwards {depth : Nat} {handler : Handler σ} {call : Native.Call}
    {before after : World σ} {outcome : Except Failure Native.Value} {history : History σ}
    (course : Course depth handler call before outcome after history)
    {handle : Host.Handle} {context : Host.ObjectId} {arguments : List Host.Value}
    {body : Callback σ} (forwards : before.Forwards handler call handle context arguments)
    (live : before.registry.find? handle = some body) :
    ∃ inner entry result left, depth = inner + 1 ∧
      let activation : Activation σ := ⟨handle, context, arguments, body, entry, result, left⟩
      before.counted.SameState entry ∧ activation.Finishes inner ∧ left.SameState after ∧
        outcome = (handler.settings.conclude call activation.reply).outcome ∧
        history = activation.history inner := by
  have routed := forwards.routed
  have wrapped := forwards.wrapped
  cases course with
  | unintercepted reason _ other => rw [routed] at other; cases other
  | rejected _ other => rw [routed] at other; cases other
  | notWrapped _ _ failure _ _ refused => rw [wrapped] at refused; cases refused
  | notLive other _ _ _ dispatched _ absent =>
      rw [routed] at dispatched
      cases dispatched
      rw [live] at absent
      cases absent
  | activated inner activation _ below dispatched carried found entered finishes kept =>
      obtain ⟨ownHandle, ownContext, ownArguments, ownBody, entry, result, left⟩ := activation
      rw [routed] at dispatched
      cases dispatched
      rw [wrapped] at carried
      cases carried
      rw [live] at found
      cases found
      exact ⟨inner, entry, result, left, below, entered, finishes, kept, rfl, rfl⟩

/-- A call forwarded to a live callback runs the body and uses the binding and the
settings of its arrival, and leaves what the body leaves; without a body of its own
it leaves everything. Invocations inside the run are invocations like it. -/
theorem invocation_framed {depth : Nat} {reference : HandlerRef} {call : Native.Call}
    {handler : Handler σ} {before after : World σ} {outcome : Except Failure Native.Value}
    (present : before.handler? reference = some handler)
    (standard : handler.marshaler = .standard)
    (finished : World.invoke (World.environment depth) reference call before =
      some (outcome, after)) :
    let history := (World.invoke (World.chronicler depth) reference call before).2
    (∀ handle context arguments body, before.Forwards handler call handle context arguments →
      before.registry.find? handle = some body →
        ∃ inner entry result left, depth = inner + 1 ∧ before.counted.SameState entry ∧
          (body handle context arguments).run (World.environment inner) entry =
            some (result, left) ∧
          left.SameState after ∧
          outcome =
            (handler.settings.conclude call (result.mapError (.callback handle))).outcome ∧
          ∃ inside, history = (.started handle context arguments body, entry) :: inside ++
            [(.ended handle result, left)]) ∧
      ((∀ handle context arguments body world,
          (.started handle context arguments body, world) ∉ history) →
        before.SameState after ∧ history = []) ∧
      (∃ later, after.handler? reference = some later ∧ later.settings = handler.settings ∧
        later.marshaler = handler.marshaler) ∧
      ∀ earlier nested request answer world later,
        history = earlier ++ (.performed (.invoke nested request) answer, world) :: later →
          ∃ inner start inside, inside <:+ earlier ∧
            World.invoke (World.environment inner) nested request start = some (answer, world) ∧
            (World.invoke (World.chronicler inner) nested request start).2 = inside := by
  intro history
  have course : Course depth handler call before outcome after history :=
    invoke_course present standard finished
  refine ⟨?_, ?_, (invoke_reaches finished).handler_kept present, ?_⟩
  · intro handle context arguments body forwards live
    obtain ⟨inner, entry, result, left, below, entered, finishes, kept, answered, same⟩ :=
      course.activation_of_forwards forwards live
    exact ⟨inner, entry, result, left, below, entered, finishes, kept, answered, _, same⟩
  · intro quiet
    clear_value history
    cases course with
    | activated inner activation _ _ _ _ _ _ _ _ =>
        exact absurd List.mem_cons_self (quiet _ _ _ _ _)
    | unintercepted _ _ _ kept => exact ⟨kept, rfl⟩
    | rejected _ _ kept => exact ⟨kept, rfl⟩
    | notWrapped _ _ _ _ _ _ kept => exact ⟨kept, rfl⟩
    | notLive _ _ _ _ _ _ _ kept => exact ⟨kept, rfl⟩
  · intro earlier nested request answer world later split
    obtain ⟨inner, start, inside, ends, invoked⟩ :=
      Chronicle.accounts_invocation depth reference call before earlier nested request
        answer world later split
    refine ⟨inner, start, inside, ends, ?_, congrArg (·.2) invoked⟩
    rw [← Chronicle.run_invoke, invoked]

/-- Unregisters itself, moves the handler to another proxy, and ends with its first
argument. -/
def restless : Callback Unit := fun handle _ arguments =>
  .perform (.unregister handle) fun _ =>
    .perform (.bind ⟨0⟩ ⟨1⟩) fun _ => .done (.ok (arguments.headD .null))

/-- A handler bound to the greeter, whose callback has this body; there is a second
proxy to bind to. -/
def hosting (body : Callback Unit) : World Unit where
  registry := ({} : Registry Unit).register body
  proxies := [.greeter, ⟨"Other", ⟨8⟩, none⟩]
  handlers := [{ proxy := some ⟨0⟩ }]
  premises := { state := () }

private theorem restless_finishes :
    ∃ after, World.invoke (World.environment 1) ⟨0⟩ .greeting (hosting restless) =
        some (.ok (.string "hello"), after) ∧
      after.registry.find? ⟨1⟩ = none ∧
      (after.handler? ⟨0⟩).bind (·.proxy) = some ⟨1⟩ :=
  ⟨_, rfl, rfl, rfl⟩

theorem invocation_framed_restless :
    ∃ handler after, (hosting restless).handler? ⟨0⟩ = some handler ∧
      handler.marshaler = .standard ∧
      World.invoke (World.environment 1) ⟨0⟩ .greeting (hosting restless) =
        some (.ok (.string "hello"), after) ∧
      (hosting restless).Forwards handler .greeting ⟨1⟩ ⟨7⟩ [.string "hello"] ∧
      (hosting restless).registry.find? ⟨1⟩ = some restless ∧
      after.registry.find? ⟨1⟩ = none ∧ (after.handler? ⟨0⟩).bind (·.proxy) = some ⟨1⟩ ∧
      ∃ inner entry result left, 1 = inner + 1 ∧ (hosting restless).counted.SameState entry ∧
        (restless ⟨1⟩ ⟨7⟩ [.string "hello"]).run (World.environment inner) entry =
          some (result, left) ∧
        left.SameState after ∧
        .ok (.string "hello") =
          (handler.settings.conclude .greeting (result.mapError (.callback ⟨1⟩))).outcome := by
  obtain ⟨after, finished, unregistered, rebound⟩ := restless_finishes
  have present : (hosting restless).handler? ⟨0⟩ = some { proxy := some ⟨0⟩ } := rfl
  have forwards : (hosting restless).Forwards { proxy := some ⟨0⟩ } .greeting ⟨1⟩ ⟨7⟩
      [.string "hello"] :=
    ⟨⟨_, _, rfl, rfl, rfl, rfl⟩, nofun, rfl⟩
  have live : (hosting restless).registry.find? ⟨1⟩ = some restless := rfl
  obtain ⟨inner, entry, result, left, below, entered, ran, kept, answered, -⟩ :=
    (invocation_framed present rfl finished).1 _ _ _ _ forwards live
  exact ⟨_, after, present, rfl, finished, forwards, live, unregistered, rebound,
    inner, entry, result, left, below, entered, ran, kept, answered⟩

end World

end Interception
