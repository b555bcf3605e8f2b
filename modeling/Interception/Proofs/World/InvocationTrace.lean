import Interception.Proofs.World.Traces

/-!
# The trace of an invocation

An invocation adds one span to the trace. Below it stand the lines of its own, in one
of few shapes, and in between those of its callback, however deep that calls again.
A failure is reported once for each invocation that fails.
-/

set_option autoImplicit false

namespace Interception

variable {σ : Type}

namespace Reason

/-- Whether the reason speaks against forwarding a call, be there others or not. -/
def applies (settings : Settings) (proxy : Option Proxy) (call : Native.Call) : Reason → Bool
  | .unbound => proxy.isNone
  | .noOverrides => (proxy.bind (·.overrides)).isNone
  | .noOverride => ((proxy.bind (·.overrides)).bind (·.get? call.method)).isNone
  | .notCallback => ((proxy.bind (·.overrides)).bind (·.callback? call.method)).isNone
  | .finalMethod => call.isFinal && decide (settings.finalMethods = .ignore)

/-- In the order in which they count. -/
def all : List Reason :=
  [.unbound, .noOverrides, .noOverride, .notCallback, .finalMethod]

end Reason

theorem Settings.route_unintercepted_iff {settings : Settings} {proxy : Option Proxy}
    {call : Native.Call} {reason : Reason} :
    settings.route proxy call = .unintercepted reason ↔
      Reason.all.find? (·.applies settings proxy call) = some reason := by
  cases proxy with
  | none => simp [route, Reason.all, Reason.applies]
  | some proxy =>
      cases assigned : proxy.overrides with
      | none => simp [route, Reason.all, Reason.applies, assigned]
      | some overrides =>
          cases found : overrides.get? call.method with
          | none => simp [route, Reason.all, Reason.applies, assigned, found]
          | some override =>
              cases override with
              | other value =>
                  simp [route, Reason.all, Reason.applies, assigned, found,
                    OverrideMap.callback?, Override.callback?]
              | callback handle =>
                  cases final : call.isFinal <;> cases policy : settings.finalMethods <;>
                    simp [route, Reason.all, Reason.applies, assigned, found, final, policy,
                      OverrideMap.callback?, Override.callback?]

theorem Settings.overridden_of_rejected {settings : Settings} {proxy : Option Proxy}
    {call : Native.Call} (routed : settings.route proxy call = .rejected) :
    ∃ handle context, Overridden proxy call.method (.callback handle) context ∧
      call.isFinal = true ∧ settings.finalMethods = .reject := by
  rcases settings.route_cases proxy call with ⟨⟨reason, other⟩, -⟩ |
    ⟨handle, context, overridden, ⟨-, -, other⟩ | ⟨final, policy, -⟩ | ⟨-, other⟩⟩
  · rw [routed] at other
    cases other
  · rw [routed] at other
    cases other
  · exact ⟨handle, context, overridden, final, policy⟩
  · rw [routed] at other
    cases other

namespace World

/-- Marshalers close the spans that they enter. -/
def Tidy (world : World σ) : Prop :=
  world.Keeps fun before after => ∃ lines, Trace.Extends before after lines

/-- Marshalers report no failed calls. -/
def Faultless (world : World σ) : Prop :=
  world.Keeps fun before after => after.failures = before.failures

/-- The lines that an invocation adds between the two ends of its span, where `below`
is the way down to it. The events of its own have exactly these spans. -/
inductive Level (depth : Nat) (handler : Handler σ) (call : Native.Call) (before : World σ)
    (below : List String) : Except Failure Native.Value → List TraceEntry → Prop where
  | unintercepted (reason : Reason) (value : Native.Value)
      (first : Reason.all.find? (·.applies handler.settings (before.boundProxy? handler) call) =
        some reason)
      (default : handler.settings.Defaults call value) :
      Level depth handler call before below (.ok value)
        [.event below (.unintercepted call.method reason)]
  | rejected (handle : Host.Handle) (context : Host.ObjectId)
      (overridden : Overridden (before.boundProxy? handler) call.method (.callback handle) context)
      (final : call.isFinal = true) (policy : handler.settings.finalMethods = .reject) :
      Level depth handler call before below (.error (.finalMethod call.method))
        [.event below (.failed call.method (.finalMethod call.method))]
  | notWrapped (handle : Host.Handle) (context : Host.ObjectId) (failure : Failure)
      (overridden : Overridden (before.boundProxy? handler) call.method (.callback handle) context)
      (permitted : call.isFinal = true → handler.settings.finalMethods = .dispatch)
      (refused : Native.Value.marshalAll call.parameters call.arguments = .error failure) :
      Level depth handler call before below (.error failure)
        [.event below (.completed call.method), .event below (.failed call.method failure)]
  | dispatched (handle : Host.Handle) (context : Host.ObjectId) (arguments : List Host.Value)
      (asked left : World σ) (reply : Except Failure Host.Value) (inside : List TraceEntry)
      (forwards : before.Forwards handler call handle context arguments)
      (arrived : asked = (before.retraced (·.enter call.method)).retraced
        (·.report (.dispatched call.method handle arguments.length)))
      (answered : (World.environment depth).call handle context arguments asked =
        some (reply, left))
      (told : asked.premises.trace.Extends left.premises.trace inside) :
      Level depth handler call before below (handler.settings.conclude call reply).outcome
        (.event below (.dispatched call.method handle arguments.length) :: inside ++
          (handler.settings.conclude call reply).visits.map (.event below <| .converting ·) ++
          (call.ending (handler.settings.conclude call reply).outcome).map (.event below))

theorem invoke_level {depth : Nat} {reference : HandlerRef} {call : Native.Call}
    {handler : Handler σ} {before after : World σ} {outcome : Except Failure Native.Value}
    (present : before.handler? reference = some handler)
    (standard : handler.marshaler = .standard) (tidy : after.Tidy)
    (finished : World.invoke (World.environment depth) reference call before =
      some (outcome, after)) :
    ∃ middle lines, after.premises.trace = middle.close ∧
      (before.premises.trace.enter call.method).Extends middle lines ∧
      Level depth handler call before (before.premises.trace.spans ++ [call.method]) outcome
        lines := by
  rw [← Chronicle.run_invoke] at finished
  rcases told : World.invoke (World.chronicler depth) reference call before
    with ⟨ended, history⟩
  rw [told] at finished
  obtain rfl : ended = some (outcome, after) := finished
  cases Chronicle.invoke_passage present told with
  | unintercepted reason routed =>
      exact ⟨_, _, rfl, .report _ _,
        .unintercepted reason _ (Settings.route_unintercepted_iff.mp routed)
          (handler.settings.defaults_defaultFor call)⟩
  | rejected routed =>
      obtain ⟨handle, context, overridden, final, policy⟩ :=
        Settings.overridden_of_rejected routed
      exact ⟨_, _, rfl, .report _ _, .rejected handle context overridden final policy⟩
  | notWrapped handle context failure premises routed refused =>
      rw [standard] at refused
      obtain ⟨failed, rfl⟩ := Prod.mk.inj refused
      obtain ⟨overridden, permitted⟩ := Settings.route_eq_dispatched_iff.mp routed
      exact ⟨_, _, rfl, .reportAll _ _,
        .notWrapped handle context failure overridden permitted failed⟩
  | answered handle context arguments premises reply left _ concluded _ routed wrapped answered
      concludes =>
      rw [standard] at wrapped concludes
      obtain ⟨carried, rfl⟩ := Prod.mk.inj wrapped
      rw [Marshaler.conclude_standard] at concludes
      obtain ⟨rfl, rfl⟩ := Prod.mk.inj concludes
      obtain ⟨overridden, permitted⟩ := Settings.route_eq_dispatched_iff.mp routed
      let asked := (before.retraced (·.enter call.method)).retraced
        (·.report (.dispatched call.method handle arguments.length))
      change (World.chronicler depth).call handle context arguments asked = _ at answered
      obtain ⟨inside, asks⟩ := ((Chronicle.traced_stepwise Trace.tally_extends).call depth handle
        context arguments).traced asked reply left (congrArg (·.1) answered) tidy
      have ran : (World.environment depth).call handle context arguments asked =
          some (reply, left) := by
        rw [← Chronicle.forget_chronicler]
        exact congrArg (·.1) answered
      have level : Level depth handler call before
          (before.premises.trace.spans ++ [call.method]) _ _ :=
        .dispatched handle context arguments asked left reply inside
          ⟨overridden, permitted, carried⟩ rfl ran asks
      have here : left.premises.trace.spans = before.premises.trace.spans ++ [call.method] :=
        asks.spans
      have added := ((Trace.Extends.report (.dispatched call.method handle arguments.length)
        (before.premises.trace.enter call.method)).trans asks).trans
          (.reportAll ((handler.settings.conclude call reply).visits.map .converting ++
            call.ending (handler.settings.conclude call reply).outcome) _)
      refine ⟨_, _, ?_, added, ?_⟩
      · rw [Trace.reportAll_append]
        rfl
      · rw [here]
        simpa [Function.comp_def] using level

/-- An invocation adds one span, with the lines of its level between the two ends, and
leaves the open spans as they were. Nothing that it adds is outside of its span. -/
structure Brackets (depth : Nat) (handler : Handler σ) (call : Native.Call)
    (before after : World σ) (outcome : Except Failure Native.Value) : Prop where
  spans : after.premises.trace.spans = before.premises.trace.spans
  lines : let below := before.premises.trace.spans ++ [call.method]
    ∃ lines, Level depth handler call before below outcome lines ∧
      (∀ line ∈ lines, below <+: line.spans) ∧
      after.premises.trace.entries =
        before.premises.trace.entries ++ (.entered below :: lines ++ [.closed below])

theorem invoke_brackets {depth : Nat} {reference : HandlerRef} {call : Native.Call}
    {handler : Handler σ} {before after : World σ} {outcome : Except Failure Native.Value}
    (present : before.handler? reference = some handler)
    (standard : handler.marshaler = .standard) (tidy : after.Tidy)
    (finished : World.invoke (World.environment depth) reference call before =
      some (outcome, after)) : Brackets depth handler call before after outcome := by
  obtain ⟨middle, lines, closed, inside, level⟩ := invoke_level present standard tidy finished
  have added := inside.enclosed
  rw [← closed] at added
  exact ⟨added.spans, lines, level, inside.below, added.entries⟩

/-- Invocations at any depth add their own span to the trace and leave the open ones.
In a whole run, failures are reported as often as invocations fail. -/
theorem invocations_traced (depth : Nat) :
    (∀ (before after : World σ) (reference : HandlerRef) (call : Native.Call)
      (handler : Handler σ) (outcome : Except Failure Native.Value),
      before.handler? reference = some handler → handler.marshaler = .standard → after.Tidy →
      World.invoke (World.environment depth) reference call before = some (outcome, after) →
        Brackets depth handler call before after outcome) ∧
    ∀ (program : Program σ) (start : World σ),
      let history := (program.run (World.chronicler depth) start).2
      (∀ earlier reference call (outcome : Except Failure Native.Value) after later,
        history = earlier ++ (.performed (.invoke reference call) outcome, after) :: later →
          ∃ inner before handler, before.handler? reference = some handler ∧
            World.invoke (World.environment inner) reference call before =
              some (outcome, after) ∧
            (handler.marshaler = .standard → after.Tidy →
              Brackets inner handler call before after outcome)) ∧
      ∀ result after, program.run (World.environment depth) start = some (result, after) →
        after.Faultless → after.premises.trace.failures =
          start.premises.trace.failures + refusals history.moments := by
  refine ⟨?invocations, ?runs⟩
  case invocations =>
    intro before after reference call handler outcome present standard tidy finished
    exact invoke_brackets present standard tidy finished
  case runs =>
    intro program start history
    refine ⟨?nested, ?counted⟩
    case nested =>
      intro earlier reference call outcome after later split
      obtain ⟨inner, before, -, inside, -, -, ran⟩ :=
        (Chronicle.recounts_stepwise.program depth program).encloses start earlier
          (.invoke reference call) outcome after later split
      obtain ⟨handler, present⟩ := Chronicle.handler_of_invoke ran
      have finished : World.invoke (World.environment inner) reference call before =
          some (outcome, after) := by
        rw [← Chronicle.run_invoke]
        exact congrArg (·.1) ran
      exact ⟨inner, before, handler, present, finished, fun standard tidy =>
        invoke_brackets present standard tidy finished⟩
    case counted =>
      intro result after finished faultless
      rw [← Chronicle.run_program] at finished
      exact ((Chronicle.traced_stepwise Trace.tally_failures).program depth program).traced start
        result after finished faultless

def sigh : Native.Call where
  method := "sigh"

/-- Invokes a method that nothing overrides, and fails. -/
def sighing : Callback Unit := fun _ _ _ =>
  .perform (.invoke ⟨0⟩ sigh) fun _ => .done (.error "tired")

def greeted : Program Unit :=
  .perform (.invoke ⟨0⟩ .greeting) fun _ => .done (.ok .null)

private theorem sighing_finishes :
    ∃ after, World.invoke (World.environment 1) ⟨0⟩ .greeting (hosting sighing) =
        some (.error (.callback ⟨1⟩ "tired"), after) ∧
      after.handlers = [{ proxy := some ⟨0⟩ }] :=
  ⟨_, rfl, rfl⟩

private theorem greeted_run {environment : CallbackEnvironment (Run Unit)}
    {before after : World Unit} {outcome : Except Failure Native.Value}
    (finished : World.invoke environment ⟨0⟩ .greeting before = some (outcome, after)) :
    greeted.run environment before = some (.ok .null, after) := by
  show ((World.invoke environment ⟨0⟩ .greeting before).bind _).bind _ = _
  rw [finished]
  rfl

theorem invocations_traced_sighing :
    ∃ handler after, (hosting sighing).handler? ⟨0⟩ = some handler ∧
      handler.marshaler = .standard ∧ after.Tidy ∧ after.Faultless ∧
      World.invoke (World.environment 1) ⟨0⟩ .greeting (hosting sighing) =
        some (.error (.callback ⟨1⟩ "tired"), after) ∧
      Brackets 1 handler .greeting (hosting sighing) after (.error (.callback ⟨1⟩ "tired")) ∧
      greeted.run (World.environment 1) (hosting sighing) = some (.ok .null, after) ∧
      after.premises.trace.failures = 1 ∧
      ∃ (earlier : History Unit) (left : World Unit) (later : History Unit)
        (inner : Nat) (start : World Unit) (sighed : Handler Unit),
        (greeted.run (World.chronicler 1) (hosting sighing)).2 =
          earlier ++ (.performed (.invoke ⟨0⟩ sigh) (.ok .null), left) :: later ∧
        start.handler? ⟨0⟩ = some sighed ∧
        World.invoke (World.environment inner) ⟨0⟩ sigh start = some (.ok .null, left) := by
  obtain ⟨invocations, runs⟩ := @invocations_traced Unit 1
  obtain ⟨after, finished, same⟩ := sighing_finishes
  have present : (hosting sighing).handler? ⟨0⟩ = some { proxy := some ⟨0⟩ } := rfl
  have standard : ∀ handler ∈ after.handlers, handler.marshaler = .standard := by
    simp [same]
  have tidy : after.Tidy := keeps_of_standard Trace.tally_extends standard
  have faultless : after.Faultless := keeps_of_standard Trace.tally_failures standard
  have ran := greeted_run finished
  have once : refusals (greeted.run (World.chronicler 1) (hosting sighing)).2.moments = 1 :=
    rfl
  have counted := (runs greeted (hosting sighing)).2 _ after ran faultless
  rw [once] at counted
  have inside : ∃ (earlier : History Unit) (left : World Unit) (later : History Unit),
      (greeted.run (World.chronicler 1) (hosting sighing)).2 =
        earlier ++ (.performed (.invoke ⟨0⟩ sigh) (.ok .null), left) :: later :=
    ⟨[_], _, [_, _], rfl⟩
  obtain ⟨earlier, left, later, split⟩ := inside
  obtain ⟨inner, start, sighed, there, sighs, -⟩ :=
    (runs greeted (hosting sighing)).1 earlier ⟨0⟩ sigh (.ok .null) left later split
  exact ⟨_, after, present, rfl, tidy, faultless, finished,
    invocations _ after ⟨0⟩ .greeting _ _ present rfl tidy finished, ran, counted,
    earlier, left, later, inner, start, sighed, split, there, sighs⟩

end World

end Interception
