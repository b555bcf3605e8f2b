import Interception.Proofs.Invocation.DefaultResult
import Interception.Proofs.Invocation.Transport
import Interception.World.Basic
import Mathlib.Control.Monad.Writer

/-!
# What an intercepted call asks of its collaborators

The steps that a call asks of its marshaler and its callback environment are
recorded with what they are given and what they answer. A call that is not
forwarded asks nothing. A forwarded call asks at most four things, in one order,
each about the answer to the one before, and the first failure is its outcome.

Nothing is assumed of the collaborators, nor of the kind of computation that they
are but the laws of sequence.
-/

set_option autoImplicit false

namespace Interception

/-! ## Recorded steps -/

/-- A step that was asked of a collaborator, with its answer. -/
inductive Exchange where
  | wrapped (parameters : List Native.Ty) (arguments : List Native.Value)
      (answer : Except Failure (List Host.Value))
  | called (handle : Host.Handle) (context : Host.ObjectId) (arguments : List Host.Value)
      (answer : Except Failure Host.Value)
  | unwrapped (value : Host.Value) (answer : Except Failure Native.Value)
  | coerced (value : Native.Value) (target : Native.Ty) (answer : Except Failure Native.Value)

abbrev Recording (m : Type → Type) := WriterT (List Exchange) m

section

variable {m : Type → Type} [Monad m] [Reporting m]

instance : Reporting (Recording m) where
  report event := liftM (Reporting.report event : m Unit)
  enter method := liftM (Reporting.enter method : m Unit)
  close := liftM (Reporting.close : m Unit)

def recording {α : Type} (exchange : α → Exchange) (step : m α) : Recording m α :=
  WriterT.mk ((fun answer => (answer, [exchange answer])) <$> step)

def Marshaler.recorded (marshaler : Marshaler m) : Marshaler (Recording m) where
  wrapArguments parameters arguments :=
    recording (.wrapped parameters arguments) (marshaler.wrapArguments parameters arguments)
  unwrap value := recording (.unwrapped value) (marshaler.unwrap value)
  coerce value target := recording (.coerced value target) (marshaler.coerce value target)

def CallbackEnvironment.recorded (environment : CallbackEnvironment m) :
    CallbackEnvironment (Recording m) where
  call handle context arguments :=
    recording (.called handle context arguments) (environment.call handle context arguments)

variable [LawfulMonad m]

def forgetting : Transport (Recording m) m where
  carry computation := Prod.fst <$> computation.run
  carry_pure value := by
    show Prod.fst <$> (pure (value, []) : m _) = pure value
    rw [map_pure]
  carry_map change computation := by
    show Prod.fst <$> (fun result => (change result.1, result.2)) <$> computation.run = _
    rw [← comp_map, ← comp_map]
    rfl
  carry_bind first next := by
    show Prod.fst <$> (first.run >>= fun result =>
      (fun rest => (rest.1, result.2 ++ rest.2)) <$> (next result.1).run) = _
    rw [map_bind, bind_map_left]
    congr 1
    funext result
    rw [← comp_map]
    rfl
  carry_report event := by
    show Prod.fst <$> (fun answer => (answer, _)) <$> (Reporting.report event : m Unit) = _
    rw [← comp_map]
    exact id_map _
  carry_enter method := by
    show Prod.fst <$> (fun answer => (answer, _)) <$> (Reporting.enter method : m Unit) = _
    rw [← comp_map]
    exact id_map _
  carry_close := by
    show Prod.fst <$> (fun answer => (answer, _)) <$> (Reporting.close : m Unit) = _
    rw [← comp_map]
    exact id_map _

theorem forget_recording {α : Type} (exchange : α → Exchange) (step : m α) :
    forgetting.carry (recording exchange step) = step := by
  show Prod.fst <$> (fun answer => (answer, [exchange answer])) <$> step = step
  rw [← comp_map]
  exact id_map _

theorem forget_intercept_recorded (marshaler : Marshaler m) (environment : CallbackEnvironment m)
    (settings : Settings) (proxy : Option Proxy) (call : Native.Call) :
    Prod.fst <$> (intercept marshaler.recorded environment.recorded settings proxy call).run =
      intercept marshaler environment settings proxy call := by
  have sameMarshaler : marshaler.recorded.lift forgetting.carry = marshaler := by
    simp only [Marshaler.lift, Marshaler.recorded, forget_recording]
  have sameEnvironment : environment.recorded.lift forgetting.carry = environment := by
    simp only [CallbackEnvironment.lift, CallbackEnvironment.recorded, forget_recording]
  have carried := forgetting.carry_intercept marshaler.recorded environment.recorded
    settings proxy call
  rwa [sameMarshaler, sameEnvironment] at carried

end

/-! ## Properties of all results -/

/-- Every result that a computation can have satisfies a property. -/
def Always {m : Type → Type} [Functor m] {α : Type} (property : α → Prop)
    (computation : m α) : Prop :=
  ∃ marked : m { result // property result }, Subtype.val <$> marked = computation

section

variable {m : Type → Type} [Monad m]

/-- A recorded computation always has a result and a record that fit together. -/
def Records {α : Type} (property : α → List Exchange → Prop) (computation : Recording m α) :
    Prop :=
  Always (fun result => property result.1 result.2) computation.run

variable [LawfulMonad m] {α β : Type}

/-- On a world that a computation may leave undefined, the property holds of each
result that it has there. -/
theorem always_run_iff {σ : Type} {property : α → Prop} {computation : StateT σ Option α} :
    Always property computation ↔
      ∀ before result after, computation before = some (result, after) → property result := by
  constructor
  · rintro ⟨marked, rfl⟩ before result after ran
    simp only [Functor.map, StateT.map] at ran
    cases marks : marked before with
    | none => simp [marks] at ran
    | some pair =>
        simp only [marks, bind, Option.bind, pure, Option.some.injEq, Prod.mk.injEq] at ran
        exact ran.1 ▸ pair.1.property
  · intro holds
    refine ⟨fun before =>
      match ran : computation before with
      | none => none
      | some (result, after) => some (⟨result, holds before result after ran⟩, after), ?_⟩
    funext before
    simp only [Functor.map, StateT.map]
    split
    · rename_i missing
      simp [missing]
    · rename_i result after ran
      simp [ran]

theorem Always.bind {property : α → Prop} {following : β → Prop} {first : m α} {next : α → m β}
    (holds : Always property first)
    (after : ∀ value, property value → Always following (next value)) :
    Always following (first >>= next) := by
  obtain ⟨marked, rfl⟩ := holds
  refine ⟨marked >>= fun value => (after value.1 value.2).choose, ?_⟩
  rw [map_bind, bind_map_left]
  congr 1
  funext value
  exact (after value.1 value.2).choose_spec

theorem Always.pure {property : α → Prop} {value : α} (holds : property value) :
    Always property (Pure.pure value : m α) :=
  ⟨Pure.pure ⟨value, holds⟩, map_pure _ _⟩

theorem Always.map {property : α → Prop} {change : β → α} {computation : m β}
    (holds : ∀ value, property (change value)) : Always property (change <$> computation) :=
  ⟨(fun value => ⟨change value, holds value⟩) <$> computation, by rw [← comp_map]; rfl⟩

theorem Always.any (computation : m α) : Always (fun _ => True) computation :=
  ⟨(fun value => ⟨value, trivial⟩) <$> computation, by rw [← comp_map]; exact id_map _⟩

theorem Always.imp {property weaker : α → Prop} {computation : m α}
    (holds : Always property computation) (weaken : ∀ value, property value → weaker value) :
    Always weaker computation := by
  obtain ⟨marked, rfl⟩ := holds
  exact ⟨(fun value => ⟨value.1, weaken value.1 value.2⟩) <$> marked, by rw [← comp_map]; rfl⟩

theorem Records.pure {property : α → List Exchange → Prop} {value : α}
    (holds : property value []) : Records property (Pure.pure value : Recording m α) :=
  Always.pure (m := m) holds

theorem Records.bind {property : α → List Exchange → Prop} {following : β → List Exchange → Prop}
    {first : Recording m α} {next : α → Recording m β} (holds : Records property first)
    (after : ∀ value earlier, property value earlier →
      Records (fun result later => following result (earlier ++ later)) (next value)) :
    Records following (first >>= next) := by
  refine Always.bind holds fun result fits => ?_
  obtain ⟨marked, same⟩ := after result.1 result.2 fits
  refine ⟨(fun rest => ⟨(rest.1.1, result.2 ++ rest.1.2), rest.2⟩) <$> marked, ?_⟩
  show _ = (fun rest => (rest.1, result.2 ++ rest.2)) <$> (next result.1).run
  rw [← same, ← comp_map, ← comp_map]
  rfl

theorem Records.step {property : α → List Exchange → Prop} {exchange : α → Exchange}
    {step : m α} (holds : ∀ answer, property answer [exchange answer]) :
    Records property (recording exchange step) :=
  Always.map holds

theorem Records.carried {computation : m α} :
    Records (fun _ exchanges => exchanges = []) (liftM computation : Recording m α) :=
  Always.map fun _ => rfl

end

/-! ## The protocol -/

/-- The override that a call finds under exactly its name, with the host object of
the proxy. -/
def Overridden (proxy : Option Proxy) (method : String) (override : Override)
    (context : Host.ObjectId) : Prop :=
  ∃ bound overrides, proxy = some bound ∧ bound.overrides = some overrides ∧
    overrides.get? method = some override ∧ bound.hostObject = context

/-- A forwarded call asks its collaborators one after the other, each about the
answer to the step before. The first failure is the outcome of the call and the
last step; coercion is asked for only where a result type is declared and results
are to be coerced. -/
inductive Conversation (settings : Settings) (handle : Host.Handle) (context : Host.ObjectId)
    (call : Native.Call) : List Exchange → Except Failure Native.Value → Prop where
  | notWrapped (failure : Failure) :
      Conversation settings handle context call
        [.wrapped call.parameters call.arguments (.error failure)] (.error failure)
  | notAnswered (arguments : List Host.Value) (failure : Failure) :
      Conversation settings handle context call
        [.wrapped call.parameters call.arguments (.ok arguments),
          .called handle context arguments (.error failure)] (.error failure)
  | notUnwrapped (arguments : List Host.Value) (answer : Host.Value) (failure : Failure) :
      Conversation settings handle context call
        [.wrapped call.parameters call.arguments (.ok arguments),
          .called handle context arguments (.ok answer),
          .unwrapped answer (.error failure)] (.error failure)
  | uncoerced (arguments : List Host.Value) (answer : Host.Value) (value : Native.Value)
      (undeclared : call.returns = none ∨ settings.coerceReturns = false) :
      Conversation settings handle context call
        [.wrapped call.parameters call.arguments (.ok arguments),
          .called handle context arguments (.ok answer),
          .unwrapped answer (.ok value)] (.ok value)
  | coerced (arguments : List Host.Value) (answer : Host.Value) (value : Native.Value)
      (returns : Native.Ty) (outcome : Except Failure Native.Value)
      (declared : call.returns = some returns) (enabled : settings.coerceReturns = true) :
      Conversation settings handle context call
        [.wrapped call.parameters call.arguments (.ok arguments),
          .called handle context arguments (.ok answer),
          .unwrapped answer (.ok value), .coerced value returns outcome] outcome

/-- What a call may ask of its collaborators, and what its outcome is then. -/
structure Protocol (settings : Settings) (proxy : Option Proxy) (call : Native.Call)
    (exchanges : List Exchange) (outcome : Except Failure Native.Value) : Prop where
  /-- Without a callback under its name a call has the default result. -/
  notOverridden : (∀ handle context, ¬ Overridden proxy call.method (.callback handle) context) →
    exchanges = [] ∧ ∃ value, outcome = .ok value ∧ settings.Defaults call value
  ignored : ∀ handle context, Overridden proxy call.method (.callback handle) context →
    call.isFinal = true → settings.finalMethods = .ignore →
      exchanges = [] ∧ ∃ value, outcome = .ok value ∧ settings.Defaults call value
  rejected : ∀ handle context, Overridden proxy call.method (.callback handle) context →
    call.isFinal = true → settings.finalMethods = .reject →
      exchanges = [] ∧ outcome = .error (.finalMethod call.method)
  forwarded : ∀ handle context, Overridden proxy call.method (.callback handle) context →
    (call.isFinal = true → settings.finalMethods = .dispatch) →
      Conversation settings handle context call exchanges outcome

theorem Overridden.unique {proxy : Option Proxy} {method : String} {left right : Override}
    {leftContext rightContext : Host.ObjectId} (first : Overridden proxy method left leftContext)
    (second : Overridden proxy method right rightContext) :
    left = right ∧ leftContext = rightContext := by
  obtain ⟨_, _, rfl, assigned, found, rfl⟩ := first
  obtain ⟨_, _, same, assigned', found', rfl⟩ := second
  obtain rfl := Option.some.inj same
  obtain rfl := Option.some.inj (assigned.symm.trans assigned')
  exact ⟨Option.some.inj (found.symm.trans found'), rfl⟩

/-- Every route is explained by the override under the name of the call, its final
mark and the policy for final methods. -/
theorem Settings.route_cases (settings : Settings) (proxy : Option Proxy) (call : Native.Call) :
    ((∃ reason, settings.route proxy call = .unintercepted reason) ∧
        ∀ handle context, ¬ Overridden proxy call.method (.callback handle) context) ∨
      ∃ handle context, Overridden proxy call.method (.callback handle) context ∧
        (call.isFinal = true ∧ settings.finalMethods = .ignore ∧
            settings.route proxy call = .unintercepted .finalMethod ∨
          call.isFinal = true ∧ settings.finalMethods = .reject ∧
            settings.route proxy call = .rejected ∨
          (call.isFinal = true → settings.finalMethods = .dispatch) ∧
            settings.route proxy call = .dispatched handle context) := by
  cases proxy with
  | none => exact .inl ⟨⟨_, rfl⟩, by rintro _ _ ⟨_, _, bound, _⟩; cases bound⟩
  | some proxy =>
      cases assigned : proxy.overrides with
      | none =>
          refine .inl ⟨⟨.noOverrides, by simp [route, assigned]⟩, ?_⟩
          rintro _ _ ⟨_, _, bound, set, _⟩
          obtain rfl := Option.some.inj bound
          rw [assigned] at set
          cases set
      | some overrides =>
          cases found : overrides.get? call.method with
          | none =>
              refine .inl ⟨⟨.noOverride, by simp [route, assigned, found]⟩, ?_⟩
              rintro _ _ ⟨_, _, bound, set, entry, _⟩
              obtain rfl := Option.some.inj bound
              obtain rfl := Option.some.inj (assigned.symm.trans set)
              rw [found] at entry
              cases entry
          | some override =>
              have here : Overridden (some proxy) call.method override proxy.hostObject :=
                ⟨proxy, overrides, rfl, assigned, found, rfl⟩
              cases override with
              | other value =>
                  refine .inl ⟨⟨.notCallback, by simp [route, assigned, found]⟩, ?_⟩
                  intro handle context other
                  cases (here.unique other).1
              | callback handle =>
                  refine .inr ⟨handle, proxy.hostObject, here, ?_⟩
                  cases final : call.isFinal <;> cases policy : settings.finalMethods <;>
                    simp [route, assigned, found, final, policy]

theorem Settings.route_eq_dispatched_iff {settings : Settings} {proxy : Option Proxy}
    {call : Native.Call} {handle : Host.Handle} {context : Host.ObjectId} :
    settings.route proxy call = .dispatched handle context ↔
      Overridden proxy call.method (.callback handle) context ∧
        (call.isFinal = true → settings.finalMethods = .dispatch) := by
  rcases settings.route_cases proxy call with ⟨⟨reason, routed⟩, absent⟩ |
    ⟨found, here, present, ⟨final, policy, routed⟩ | ⟨final, policy, routed⟩ |
      ⟨permitted, routed⟩⟩ <;> rw [routed]
  · exact ⟨nofun, fun other => absurd other.1 (absent handle context)⟩
  · refine ⟨nofun, fun other => ?_⟩
    have dispatch := other.2 final
    rw [policy] at dispatch
    cases dispatch
  · refine ⟨nofun, fun other => ?_⟩
    have dispatch := other.2 final
    rw [policy] at dispatch
    cases dispatch
  · constructor
    · rintro ⟨⟩
      exact ⟨present, permitted⟩
    · rintro ⟨other, -⟩
      obtain ⟨same, rfl⟩ := present.unique other
      cases same
      rfl

section

variable {m : Type → Type} [Monad m] [LawfulMonad m] [Reporting m]

private theorem report_records (event : Event) :
    Records (fun reported exchanges => reported = .ok () ∧ exchanges = [])
      (ExceptT.lift (Reporting.report event) : ExceptT Failure (Recording m) Unit).run := by
  show Always _ ((fun reported => (Except.ok reported.1, reported.2)) <$>
    (fun answer => (answer, [])) <$> (Reporting.report event : m Unit))
  rw [← comp_map]
  exact Always.map fun _ => ⟨rfl, rfl⟩

private theorem forward_records (marshaler : Marshaler m) (environment : CallbackEnvironment m)
    (settings : Settings) (handle : Host.Handle) (context : Host.ObjectId) (call : Native.Call) :
    Records (fun outcome exchanges => Conversation settings handle context call exchanges outcome)
      (forward marshaler.recorded environment.recorded settings handle context call).run := by
  refine Records.bind (Records.step fun answer => rfl) ?_
  rintro (failure | arguments) _ rfl
  · exact .pure (.notWrapped failure)
  refine Records.bind (report_records _) ?_
  rintro _ _ ⟨rfl, rfl⟩
  refine Records.bind (Records.step fun answer => rfl) ?_
  rintro (failure | answer) _ rfl
  · exact .pure (.notAnswered arguments failure)
  refine Records.bind (Records.step fun answer => rfl) ?_
  rintro (failure | value) _ rfl
  · exact .pure (.notUnwrapped arguments answer failure)
  cases declared : call.returns with
  | none => exact .pure (.uncoerced arguments answer value (.inl declared))
  | some returns =>
      by_cases enabled : settings.coerceReturns = true
      · simp only [enabled, reduceIte]
        exact .step fun outcome => .coerced arguments answer value returns outcome declared enabled
      · simp only [enabled, reduceIte, Bool.false_eq_true]
        exact .pure (.uncoerced arguments answer value (.inr (by simpa using enabled)))

private theorem reported_records {α : Type} {property : α → List Exchange → Prop} {event : Event}
    {rest : Recording m α} (holds : Records property rest) :
    Records property (do Reporting.report event; rest) := by
  refine Records.bind Records.carried ?_
  rintro _ _ rfl
  exact holds

private theorem dispatch_records (marshaler : Marshaler m) (environment : CallbackEnvironment m)
    (settings : Settings) (handle : Host.Handle) (context : Host.ObjectId) (call : Native.Call) :
    Records (fun outcome exchanges => Conversation settings handle context call exchanges outcome)
      (dispatch marshaler.recorded environment.recorded settings handle context call) := by
  refine Records.bind (forward_records marshaler environment settings handle context call) ?_
  intro outcome exchanges said
  have ended : Records (fun result later =>
      Conversation settings handle context call (exchanges ++ later) result)
      (pure outcome : Recording m _) := .pure (by simpa using said)
  refine reported_records ?_
  cases outcome with
  | error failure => exact reported_records ended
  | ok value => exact ended

private theorem follow_records (marshaler : Marshaler m) (environment : CallbackEnvironment m)
    (settings : Settings) (proxy : Option Proxy) (call : Native.Call) :
    Records (fun outcome exchanges => Protocol settings proxy call exchanges outcome)
      (follow marshaler.recorded environment.recorded settings call
        (settings.route proxy call)) := by
  rcases settings.route_cases proxy call with ⟨⟨reason, routed⟩, absent⟩ |
    ⟨handle, context, here, ⟨final, policy, routed⟩ | ⟨final, policy, routed⟩ |
      ⟨permitted, routed⟩⟩ <;> rw [routed]
  · refine reported_records (.pure ?_)
    exact {
      notOverridden := fun _ => ⟨rfl, _, rfl, settings.defaults_defaultFor call⟩
      ignored := fun handle context other => absurd other (absent handle context)
      rejected := fun handle context other => absurd other (absent handle context)
      forwarded := fun handle context other => absurd other (absent handle context) }
  · refine reported_records (.pure ?_)
    exact {
      notOverridden := fun absent => absurd here (absent handle context)
      ignored := fun _ _ _ _ _ => ⟨rfl, _, rfl, settings.defaults_defaultFor call⟩
      rejected := fun _ _ _ _ other => by rw [policy] at other; cases other
      forwarded := fun _ _ _ permitted => by
        have other := permitted final
        rw [policy] at other
        cases other }
  · refine reported_records (.pure ?_)
    exact {
      notOverridden := fun absent => absurd here (absent handle context)
      ignored := fun _ _ _ _ other => by rw [policy] at other; cases other
      rejected := fun _ _ _ _ _ => ⟨rfl, rfl⟩
      forwarded := fun _ _ _ permitted => by
        have other := permitted final
        rw [policy] at other
        cases other }
  · refine (dispatch_records marshaler environment settings handle context call).imp ?_
    intro result said
    exact {
      notOverridden := fun absent => absurd here (absent handle context)
      ignored := fun _ _ _ final other => by rw [permitted final] at other; cases other
      rejected := fun _ _ _ final other => by rw [permitted final] at other; cases other
      forwarded := fun _ _ other _ => by
        obtain ⟨sameOverride, rfl⟩ := here.unique other
        cases sameOverride
        exact said }

private theorem intercept_records (marshaler : Marshaler m) (environment : CallbackEnvironment m)
    (settings : Settings) (proxy : Option Proxy) (call : Native.Call) :
    Records (fun outcome exchanges => Protocol settings proxy call exchanges outcome)
      (intercept marshaler.recorded environment.recorded settings proxy call) := by
  refine Records.bind Records.carried ?_
  rintro _ _ rfl
  refine Records.bind (follow_records marshaler environment settings proxy call) ?_
  intro outcome exchanges follows
  refine Records.bind Records.carried ?_
  rintro _ _ rfl
  exact .pure (by simpa using follows)

/-- Whatever its collaborators do, a call asks them what the protocol allows, and
has the outcome that the protocol gives; recording this leaves the call as it is. -/
theorem intercept_follows_protocol (marshaler : Marshaler m) (environment : CallbackEnvironment m)
    (settings : Settings) (proxy : Option Proxy) (call : Native.Call) :
    Prod.fst <$> (intercept marshaler.recorded environment.recorded settings proxy call).run =
        intercept marshaler environment settings proxy call ∧
      Always (fun result => Protocol settings proxy call result.2 result.1)
        (intercept marshaler.recorded environment.recorded settings proxy call).run :=
  ⟨forget_intercept_recorded marshaler environment settings proxy call,
    intercept_records marshaler environment settings proxy call⟩

end

def Proxy.greeter : Proxy :=
  ⟨"Greeter", ⟨7⟩, some (.ofList [("greet", .callback ⟨1⟩)])⟩

def Native.Call.greeting : Native.Call where
  method := "greet"
  parameters := [.string]
  arguments := [.string "hello"]
  returns := some .string

/-- Answers every call with its first argument. -/
def CallbackEnvironment.echoing : CallbackEnvironment (Run Unit) where
  call _ _ arguments := pure (.ok (arguments.headD .null))

theorem intercept_follows_protocol_echoing :
    LawfulMonad (Run Unit) ∧ ∃ exchanges after,
      (intercept Marshaler.standard.recorded CallbackEnvironment.echoing.recorded {}
          (some .greeter) .greeting).run { premises := { state := () } } =
        some ((.ok (.string "hello"), exchanges), after) ∧
      exchanges.length = 4 ∧
      Protocol {} (some .greeter) .greeting exchanges (.ok (.string "hello")) := by
  have follows := (intercept_follows_protocol Marshaler.standard CallbackEnvironment.echoing {}
    (some .greeter) .greeting).2
  have ran : ∃ exchanges after,
      (intercept Marshaler.standard.recorded CallbackEnvironment.echoing.recorded {}
          (some .greeter) .greeting).run { premises := { state := () } } =
        some ((.ok (.string "hello"), exchanges), after) ∧
      exchanges.length = 4 :=
    ⟨_, _, rfl, rfl⟩
  obtain ⟨exchanges, after, ran, four⟩ := ran
  exact ⟨inferInstance, exchanges, after, ran, four, always_run_iff.mp follows _ _ _ ran⟩

end Interception
