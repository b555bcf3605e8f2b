import Interception.Proofs.World.History

/-!
# Invocations worked out

What an intercepted call does to a world, worked out once: everything but the
callback itself touches only what a marshaler can touch, and with the standard
marshaler only the trace. The callback is asked for at most once, on the world of
the caller, and its answer settles the outcome.
-/

set_option autoImplicit false

namespace Interception

def Trace.reportAll (events : List Event) (trace : Trace) : Trace :=
  events.foldl (fun trace event => trace.report event) trace

theorem Trace.reportAll_append (earlier later : List Event) (trace : Trace) :
    trace.reportAll (earlier ++ later) = (trace.reportAll earlier).reportAll later :=
  List.foldl_append

/-- A call that is settled by one event, below its span. -/
def Trace.settle (method : String) (event : Event) (trace : Trace) : Trace :=
  ((trace.enter method).report event).close

/-- Unwraps the answer of a callback, and coerces it where the settings and the
call ask for it. A failure of the callback is passed on. -/
def Settings.conclude (settings : Settings) (call : Native.Call) :
    Except Failure Host.Value → Coercion Native.Value
  | .error failure => ⟨[], .error failure⟩
  | .ok answer =>
      match answer.toNative with
      | .error failure => ⟨[], .error failure⟩
      | .ok value =>
          match call.returns with
          | some returns => if settings.coerceReturns then value.coerce returns else .settled value
          | none => .settled value

/-- Unwraps the answer of a callback, and coerces it where the settings and the
call ask for it, by the marshaler. -/
def Marshaler.conclude {m : Type → Type} [Monad m] (marshaler : Marshaler m)
    (settings : Settings) (call : Native.Call) :
    Except Failure Host.Value → m (Except Failure Native.Value)
  | .error failure => pure (.error failure)
  | .ok answer => do
      match ← marshaler.unwrap answer with
      | .error failure => pure (.error failure)
      | .ok value =>
          match call.returns with
          | some returns =>
              if settings.coerceReturns then marshaler.coerce value returns else pure (.ok value)
          | none => pure (.ok value)

def Native.Call.ending (call : Native.Call) (outcome : Except Failure Native.Value) : List Event :=
  .completed call.method ::
    match outcome with
    | .error failure => [.failed call.method failure]
    | .ok _ => []

/-! ## The standard marshaler -/

namespace Conversion

variable {σ : Type}

theorem reportAll_apply {α : Type} (items : List α) (event : α → Event) (premises : Premises σ) :
    (forM items fun item => Reporting.report (event item) : Conversion σ PUnit) premises =
      ((), { premises with trace := premises.trace.reportAll (items.map event) }) := by
  induction items generalizing premises with
  | nil => rfl
  | cons item items ih => exact ih { premises with trace := premises.trace.report (event item) }

theorem reportCoercion_apply (value : Native.Value) (target : Native.Ty) (premises : Premises σ) :
    (reportCoercion value target : Conversion σ _) premises =
      ((value.coerce target).outcome,
        { premises with trace :=
            premises.trace.reportAll ((value.coerce target).visits.map .converting) }) := by
  have reported := reportAll_apply (value.coerce target).visits .converting premises
  exact congrArg (fun ended => ((value.coerce target).outcome, ended.2)) reported

end Conversion

theorem Marshaler.conclude_standard {σ : Type} (settings : Settings) (call : Native.Call)
    (reply : Except Failure Host.Value) (premises : Premises σ) :
    (Marshaler.standard : Marshaler (Conversion σ)).conclude settings call reply premises =
      ((settings.conclude call reply).outcome,
        { premises with
          trace := premises.trace.reportAll
            ((settings.conclude call reply).visits.map .converting) }) := by
  cases reply with
  | error failure => rfl
  | ok answer =>
      simp only [Marshaler.conclude, Marshaler.standard, Settings.conclude]
      cases answer.toNative with
      | error failure => rfl
      | ok value =>
          cases call.returns with
          | none => rfl
          | some returns =>
              cases settings.coerceReturns with
              | false => rfl
              | true => exact Conversion.reportCoercion_apply value returns premises

namespace World

variable {σ : Type}

/-- Worlds that differ at most in their premises. -/
def Alike (left right : World σ) : Prop :=
  ∃ premises, right = { left with premises }

theorem Alike.refl (world : World σ) : world.Alike world :=
  ⟨world.premises, rfl⟩

theorem Alike.trans {first second third : World σ} (left : first.Alike second)
    (right : second.Alike third) : first.Alike third := by
  obtain ⟨_, rfl⟩ := left
  obtain ⟨premises, rfl⟩ := right
  exact ⟨premises, rfl⟩

theorem Alike.symm {left right : World σ} (alike : left.Alike right) : right.Alike left := by
  obtain ⟨_, rfl⟩ := alike
  exact ⟨left.premises, rfl⟩

theorem Alike.registry {left right : World σ} (alike : left.Alike right) :
    left.registry = right.registry := by
  obtain ⟨_, rfl⟩ := alike
  rfl

def retraced (change : Trace → Trace) (world : World σ) : World σ :=
  { world with premises := { world.premises with trace := change world.premises.trace } }

@[simp] theorem retraced_trace (change : Trace → Trace) (world : World σ) :
    (world.retraced change).premises.trace = change world.premises.trace :=
  rfl

/-- Carries the computations of a marshaler into runs. -/
def carrying : Transport (Conversion σ) (Run σ) where
  carry := onPremises
  carry_pure _ := rfl
  carry_map _ _ := rfl
  carry_bind _ _ := rfl
  carry_report _ := rfl
  carry_enter _ := rfl
  carry_close := rfl

theorem lift_standard : (Marshaler.standard : Marshaler (Conversion σ)).lift onPremises =
    (Marshaler.standard : Marshaler (Run σ)) :=
  carrying.lift_standard

theorem reportAll_apply {α : Type} (items : List α) (event : α → Event) (world : World σ) :
    (forM items fun item => Reporting.report (event item) : Run σ PUnit) world =
      some ((), world.retraced (·.reportAll (items.map event))) := by
  have reported := Conversion.reportAll_apply items event world.premises
  rw [← carrying.carry_reportAll]
  exact congrArg (fun ended => some (ended.1, { world with premises := ended.2 })) reported

theorem reportCoercion_apply (value : Native.Value) (target : Native.Ty) (world : World σ) :
    (reportCoercion value target : Run σ _) world =
      some ((value.coerce target).outcome,
        world.retraced (·.reportAll ((value.coerce target).visits.map .converting))) := by
  have reported := Conversion.reportCoercion_apply value target world.premises
  rw [← carrying.carry_reportCoercion]
  exact congrArg (fun ended => some (ended.1, { world with premises := ended.2 })) reported

theorem validate_apply (overrides : OverrideMap) (policy : FinalPolicy) (methods : List String)
    (world : World σ) :
    World.validate overrides policy methods world =
      match overrides.validate policy methods with
      | .error failure => some (.error failure, world)
      | .ok ignored =>
          some (.ok (), world.retraced (·.reportAll (ignored.map .overrideIgnored))) := by
  rw [validate]
  cases overrides.validate policy methods with
  | error failure => rfl
  | ok ignored =>
      show ((forM ignored fun method => Reporting.report (.overrideIgnored method) :
        Run σ PUnit) world).bind (fun pair => some (Except.ok (), pair.2)) = _
      rw [reportAll_apply]
      rfl

/-- Handler and binding are those of the moment in which the call arrives. -/
theorem invoke_present (environment : CallbackEnvironment (Run σ)) {reference : HandlerRef}
    {handler : Handler σ} {world : World σ} (present : world.handler? reference = some handler)
    (call : Native.Call) :
    World.invoke environment reference call world =
      intercept (handler.marshaler.lift onPremises) environment handler.settings
        (world.boundProxy? handler) call world := by
  show ((StateT.lift (world.handler? reference) : Run σ _) >>= fun handler =>
    intercept (handler.marshaler.lift onPremises) environment handler.settings
      (world.boundProxy? handler) call) world = _
  rw [present]
  rfl

section

variable {environment : CallbackEnvironment (Run σ)} {reference : HandlerRef}
  {handler : Handler σ} {world : World σ} {call : Native.Call}

end

end World

namespace Chronicle

variable {σ : Type}

theorem enter_apply (method : String) (world : World σ) :
    (Reporting.enter method : Chronicle σ Unit) world =
      (some ((), world.retraced (·.enter method)), []) :=
  rfl

theorem close_apply (world : World σ) :
    (Reporting.close : Chronicle σ Unit) world = (some ((), world.retraced (·.close)), []) :=
  rfl

theorem carry_apply {α : Type} (conversion : Conversion σ α) (world : World σ) :
    premises.carry conversion world =
      (some ((conversion world.premises).1,
        { world with premises := (conversion world.premises).2 }), []) :=
  rfl

theorem conclude_apply (marshaler : Marshaler (Conversion σ)) (settings : Settings)
    (call : Native.Call) (reply : Except Failure Host.Value) (world : World σ) :
    (marshaler.lift premises.carry).conclude settings call reply world =
      (some ((marshaler.conclude settings call reply world.premises).1,
        { world with premises := (marshaler.conclude settings call reply world.premises).2 }),
        []) := by
  rw [← carry_apply]
  refine congrFun ?_ world
  cases reply with
  | error failure => rfl
  | ok answer =>
      simp only [Marshaler.conclude, premises.carry_bind]
      refine congrArg (premises.carry (marshaler.unwrap answer) >>= ·) (funext fun unwrapped => ?_)
      cases unwrapped with
      | error failure => rfl
      | ok value =>
          cases call.returns with
          | none => rfl
          | some returns => cases settings.coerceReturns <;> rfl

private def ending (call : Native.Call) (outcome : Except Failure Native.Value) :
    Chronicle σ (Except Failure Native.Value) := do
  Reporting.report (.completed call.method)
  if let .error failure := outcome then
    Reporting.report (.failed call.method failure)
  pure outcome

private theorem ending_apply (call : Native.Call) (outcome : Except Failure Native.Value)
    (world : World σ) :
    ending call outcome world =
      (some (outcome, world.retraced (·.reportAll (call.ending outcome))), []) := by
  cases outcome <;> rfl

private theorem dispatch_eq (marshaler : Marshaler (Chronicle σ))
    (environment : CallbackEnvironment (Chronicle σ)) (settings : Settings)
    (handle : Host.Handle) (context : Host.ObjectId) (call : Native.Call) :
    dispatch marshaler environment settings handle context call =
      (forward marshaler environment settings handle context call).run >>= ending call :=
  rfl

private theorem bindCont_eq_conclude (marshaler : Marshaler (Chronicle σ)) (settings : Settings)
    (call : Native.Call) :
    (ExceptT.bindCont fun answer => do
      let value ← ExceptT.mk (marshaler.unwrap answer)
      match call.returns with
      | some returns =>
          if settings.coerceReturns then ExceptT.mk (marshaler.coerce value returns)
          else pure value
      | none => pure value) = marshaler.conclude settings call := by
  funext reply
  cases reply with
  | error failure => rfl
  | ok answer =>
      refine congrArg (marshaler.unwrap answer >>= ·) (funext fun unwrapped => ?_)
      cases unwrapped with
      | error failure => rfl
      | ok value =>
          cases call.returns with
          | none => rfl
          | some returns => cases settings.coerceReturns <;> rfl

private theorem forward_wrapped {marshaler : Marshaler (Chronicle σ)}
    (environment : CallbackEnvironment (Chronicle σ)) (settings : Settings)
    (handle : Host.Handle) (context : Host.ObjectId) {call : Native.Call}
    {arguments : List Host.Value} {world left : World σ}
    (wrapped : marshaler.wrapArguments call.parameters call.arguments world =
      (some (.ok arguments, left), [])) :
    (forward marshaler environment settings handle context call).run world =
      (environment.call handle context arguments >>= marshaler.conclude settings call)
        (left.retraced (·.report (.dispatched call.method handle arguments.length))) := by
  rw [← bindCont_eq_conclude]
  show ((marshaler.wrapArguments call.parameters call.arguments : Chronicle σ _) >>= _) world = _
  rw [bind_apply, wrapped]
  rfl

/-- A dispatched call, with any marshaler. -/
theorem dispatch_apply (marshaler : Marshaler (Conversion σ))
    (environment : CallbackEnvironment (Chronicle σ)) (settings : Settings)
    (handle : Host.Handle) (context : Host.ObjectId) (call : Native.Call) (world : World σ) :
    dispatch (marshaler.lift premises.carry) environment settings handle context call world =
      match marshaler.wrapArguments call.parameters call.arguments world.premises with
      | (.error failure, premises) =>
          (some (.error failure, World.retraced (·.reportAll (call.ending (.error failure)))
            { world with premises }), [])
      | (.ok arguments, premises) =>
          match environment.call handle context arguments (World.retraced
              (·.report (.dispatched call.method handle arguments.length))
              { world with premises }) with
          | (none, history) => (none, history)
          | (some (reply, left), history) =>
              let ended := marshaler.conclude settings call reply left.premises
              (some (ended.1, World.retraced (·.reportAll (call.ending ended.1))
                { left with premises := ended.2 }), history) := by
  have carried := carry_apply (marshaler.wrapArguments call.parameters call.arguments) world
  rcases wrapped : marshaler.wrapArguments call.parameters call.arguments world.premises
    with ⟨failure | arguments, moved⟩
  · rw [wrapped] at carried
    show ((premises.carry _ >>= _ : Chronicle σ _) >>= _) world = _
    rw [bind_apply, bind_apply, carried]
    rfl
  · rw [wrapped] at carried
    rw [dispatch_eq, bind_apply, forward_wrapped environment _ _ _ carried, bind_apply]
    dsimp only
    rcases environment.call handle context arguments (World.retraced
      (·.report (.dispatched call.method handle arguments.length)) { world with premises := moved })
      with ⟨_ | ⟨reply, left⟩, history⟩
    · rfl
    · simp only [conclude_apply, ending_apply, List.append_nil]

theorem dispatch_wrapped (environment : CallbackEnvironment (Chronicle σ))
    {settings : Settings} {handle : Host.Handle} {context : Host.ObjectId} {call : Native.Call}
    {arguments : List Host.Value}
    (wrapped : Native.Value.marshalAll call.parameters call.arguments = .ok arguments)
    (world : World σ) :
    dispatch .standard environment settings handle context call world =
      match environment.call handle context arguments
          (world.retraced (·.report (.dispatched call.method handle arguments.length))) with
      | (none, history) => (none, history)
      | (some (reply, left), history) =>
          let walk := settings.conclude call reply
          (some (walk.outcome, left.retraced
            (·.reportAll (walk.visits.map .converting ++ call.ending walk.outcome))), history) := by
  have carried : (Marshaler.standard : Marshaler (Conversion σ)).wrapArguments call.parameters
      call.arguments world.premises = (.ok arguments, world.premises) := by
    rw [← wrapped]
    rfl
  rw [← premises.lift_standard, dispatch_apply, carried]
  dsimp only
  rcases environment.call handle context arguments
    (world.retraced (·.report (.dispatched call.method handle arguments.length)))
    with ⟨_ | ⟨reply, left⟩, history⟩
  · rfl
  · simp only [Marshaler.conclude_standard, Trace.reportAll_append]
    rfl

theorem intercept_apply (marshaler : Marshaler (Chronicle σ))
    (environment : CallbackEnvironment (Chronicle σ)) (settings : Settings)
    (proxy : Option Proxy) (call : Native.Call) (world : World σ) :
    intercept marshaler environment settings proxy call world =
      match follow marshaler environment settings call (settings.route proxy call)
          (world.retraced (·.enter call.method)) with
      | (none, history) => (none, history)
      | (some (outcome, left), history) =>
          (some (outcome, left.retraced (·.close)), history) := by
  rw [intercept, bind_apply, enter_apply]
  simp only [bind_apply, List.nil_append]
  rcases follow marshaler environment settings call (settings.route proxy call)
    (world.retraced (·.enter call.method)) with ⟨_ | ⟨outcome, left⟩, history⟩
  · rfl
  · simp only [close_apply]
    simp [pure]

theorem invoke_present (environment : CallbackEnvironment (Chronicle σ)) {reference : HandlerRef}
    {handler : Handler σ} {world : World σ} (present : world.handler? reference = some handler)
    (call : Native.Call) :
    World.invoke environment reference call world =
      intercept (handler.marshaler.lift premises.carry) environment handler.settings
        (world.boundProxy? handler) call world := by
  have looked : (StateT.lift (world.handler? reference) : Run σ _) world =
      some (handler, world) := by
    rw [present]
    rfl
  rw [World.invoke, step_bind_apply]
  show (Hosting.step (StateT.lift (world.handler? reference)) >>= _ : Chronicle σ _) world = _
  rw [step_bind_apply, looked]
  rfl

theorem invoke_apply (environment : CallbackEnvironment (Chronicle σ)) {reference : HandlerRef}
    {handler : Handler σ} {world : World σ} (present : world.handler? reference = some handler)
    (standard : handler.marshaler = .standard) (call : Native.Call) :
    World.invoke environment reference call world =
      intercept .standard environment handler.settings (world.boundProxy? handler) call world := by
  rw [invoke_present environment present, standard, premises.lift_standard]

theorem handler_of_invoke {environment : CallbackEnvironment (Chronicle σ)}
    {reference : HandlerRef} {call : Native.Call} {start after : World σ}
    {outcome : Except Failure Native.Value} {inside : History σ}
    (finished : World.invoke environment reference call start =
      (some (outcome, after), inside)) :
    ∃ handler, start.handler? reference = some handler := by
  cases present : start.handler? reference with
  | some handler => exact ⟨handler, rfl⟩
  | none =>
      have looked : (StateT.lift (start.handler? reference) : Run σ _) start = none := by
        rw [present]
        rfl
      rw [World.invoke, step_bind_apply] at finished
      change (Hosting.step (StateT.lift (start.handler? reference)) >>= _ : Chronicle σ _) start =
        _ at finished
      rw [step_bind_apply, looked] at finished
      cases finished

end Chronicle

/-! ## Any marshaler -/

variable {σ : Type}

/-- How an invocation with any marshaler comes to its end, on the world that it
leaves. -/
inductive World.Passage (environment : CallbackEnvironment (Chronicle σ)) (handler : Handler σ)
    (call : Native.Call) (before : World σ) :
    Except Failure Native.Value → World σ → History σ → Prop where
  | unintercepted (reason : Reason)
      (routed : handler.settings.route (before.boundProxy? handler) call = .unintercepted reason) :
      Passage environment handler call before (.ok (handler.settings.defaultFor call))
        (before.retraced (·.settle call.method (.unintercepted call.method reason))) []
  | rejected
      (routed : handler.settings.route (before.boundProxy? handler) call = .rejected) :
      Passage environment handler call before (.error (.finalMethod call.method))
        (before.retraced
          (·.settle call.method (.failed call.method (.finalMethod call.method)))) []
  | notWrapped (handle : Host.Handle) (context : Host.ObjectId) (failure : Failure)
      (premises : Premises σ)
      (routed : handler.settings.route (before.boundProxy? handler) call =
        .dispatched handle context)
      (refused : handler.marshaler.wrapArguments call.parameters call.arguments
        (before.retraced (·.enter call.method)).premises = (.error failure, premises)) :
      Passage environment handler call before (.error failure)
        (World.retraced (fun trace => (trace.reportAll (call.ending (.error failure))).close)
          { before with premises }) []
  | answered (handle : Host.Handle) (context : Host.ObjectId) (arguments : List Host.Value)
      (premises : Premises σ) (reply : Except Failure Host.Value) (left : World σ)
      (outcome : Except Failure Native.Value) (concluded : Premises σ) (inside : History σ)
      (routed : handler.settings.route (before.boundProxy? handler) call =
        .dispatched handle context)
      (wrapped : handler.marshaler.wrapArguments call.parameters call.arguments
        (before.retraced (·.enter call.method)).premises = (.ok arguments, premises))
      (answered : environment.call handle context arguments
        (World.retraced (·.report (.dispatched call.method handle arguments.length))
          { before with premises }) = (some (reply, left), inside))
      (concludes : handler.marshaler.conclude handler.settings call reply left.premises =
        (outcome, concluded)) :
      Passage environment handler call before outcome
        (World.retraced (fun trace => (trace.reportAll (call.ending outcome)).close)
          { left with premises := concluded }) inside

theorem Chronicle.invoke_passage {environment : CallbackEnvironment (Chronicle σ)}
    {reference : HandlerRef} {call : Native.Call} {handler : Handler σ} {before after : World σ}
    {outcome : Except Failure Native.Value} {inside : History σ}
    (present : before.handler? reference = some handler)
    (finished : World.invoke environment reference call before =
      (some (outcome, after), inside)) :
    World.Passage environment handler call before outcome after inside := by
  rw [invoke_present environment present, intercept_apply] at finished
  cases routed : handler.settings.route (before.boundProxy? handler) call with
  | unintercepted reason =>
      rw [routed] at finished
      cases finished
      exact .unintercepted reason routed
  | rejected =>
      rw [routed] at finished
      cases finished
      exact .rejected routed
  | dispatched handle context =>
      rw [routed, follow, dispatch_apply] at finished
      rcases wrapped : handler.marshaler.wrapArguments call.parameters call.arguments
        (before.retraced (·.enter call.method)).premises with ⟨failure | arguments, premises⟩
      · rw [wrapped] at finished
        cases finished
        exact .notWrapped handle context failure premises routed wrapped
      · rw [wrapped] at finished
        dsimp only at finished
        rcases answered : environment.call handle context arguments
          (World.retraced (·.report (.dispatched call.method handle arguments.length))
            { before.retraced (·.enter call.method) with premises })
          with ⟨_ | ⟨reply, left⟩, history⟩
        · rw [answered] at finished
          cases finished
        · rw [answered] at finished
          cases finished
          exact .answered handle context arguments premises reply left _ _ inside routed wrapped
            answered rfl

/-- Of a call that is not intercepted, the reason is all that is reported. -/
theorem World.Passage.of_unintercepted {environment : CallbackEnvironment (Chronicle σ)}
    {handler : Handler σ} {call : Native.Call} {before after : World σ}
    {outcome : Except Failure Native.Value} {inside : History σ}
    (passage : World.Passage environment handler call before outcome after inside) {reason : Reason}
    (routed : handler.settings.route (before.boundProxy? handler) call = .unintercepted reason) :
    after = before.retraced (·.settle call.method (.unintercepted call.method reason)) := by
  cases passage with
  | unintercepted given other =>
      rw [routed] at other
      cases other
      rfl
  | rejected other =>
      rw [routed] at other
      cases other
  | notWrapped _ _ _ _ other _ =>
      rw [routed] at other
      cases other
  | answered _ _ _ _ _ _ _ _ _ other _ _ _ =>
      rw [routed] at other
      cases other

/-- A forwarded call asks for its callback where it arrived, and fails where that does. -/
theorem World.Passage.asks {environment : CallbackEnvironment (Chronicle σ)} {call : Native.Call}
    {handler : Handler σ} {before after : World σ} {outcome : Except Failure Native.Value}
    {inside : History σ} (passage : Passage environment handler call before outcome after inside)
    {handle : Host.Handle} {context : Host.ObjectId} {arguments : List Host.Value}
    (forwarded : handler.settings.route (before.boundProxy? handler) call =
      .dispatched handle context)
    (carried : (handler.marshaler.wrapArguments call.parameters call.arguments
      (before.retraced (·.enter call.method)).premises).1 = .ok arguments) :
    ∃ asked reply left, before.Alike asked ∧
      environment.call handle context arguments asked = (some (reply, left), inside) ∧
      ∀ failure, reply = .error failure → outcome = .error failure := by
  cases passage with
  | unintercepted reason routed =>
      rw [forwarded] at routed
      cases routed
  | rejected routed =>
      rw [forwarded] at routed
      cases routed
  | notWrapped _ _ failure _ _ refused =>
      rw [refused] at carried
      cases carried
  | answered _ _ _ premises reply left _ concluded _ routed wrapped answered concludes =>
      rw [forwarded] at routed
      cases routed
      rw [wrapped] at carried
      cases carried
      refine ⟨_, reply, left, ⟨_, rfl⟩, answered, ?_⟩
      rintro failure rfl
      cases concludes
      rfl

end Interception
