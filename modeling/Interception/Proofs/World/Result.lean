import Interception.Proofs.Conversion.Acceptance
import Interception.Proofs.Invocation.Protocol
import Interception.Proofs.World.Invoke

/-!
# What the native caller receives

Where results are coerced, a call that declares a result type ends with a value of
that type or with a failure, whatever the callback environment answers. The null
that a call has by default is the one exception, and only where the type is a
primitive.
-/

set_option autoImplicit false

namespace Interception

/-- A value that a call may end with: one that the declared type accepts, or the null
of a call that was not intercepted. -/
def Settings.Allows (settings : Settings) (proxy : Option Proxy) (call : Native.Call)
    (returns : Native.Ty) (value : Native.Value) : Prop :=
  returns.accepts value = true ∨
    settings.defaultResult = .null ∧
      (∃ reason, settings.route proxy call = .unintercepted reason) ∧
        returns.isPrimitive = true ∧ value = .null

theorem Settings.allows_default {settings : Settings} {proxy : Option Proxy} {call : Native.Call}
    {returns : Native.Ty} {reason : Reason} (declared : call.returns = some returns)
    (routed : settings.route proxy call = .unintercepted reason) :
    settings.Allows proxy call returns (settings.defaultFor call) := by
  cases default : settings.defaultResult with
  | typeDefault =>
      rw [defaultFor_typeDefault default declared]
      exact .inl returns.accepts_zero
  | null =>
      rw [defaultFor_null default]
      cases primitive : returns.isPrimitive with
      | false => exact .inl (Native.Ty.accepts_null_iff.mpr primitive)
      | true => exact .inr ⟨default, ⟨reason, routed⟩, primitive, rfl⟩

section

variable {m : Type → Type} [Monad m] [LawfulMonad m] [Reporting m]

private theorem reportCoercion_accepted (value : Native.Value) (target : Native.Ty) :
    Always (fun outcome => ∀ result, outcome = .ok result → target.accepts result = true)
      (reportCoercion value target : m _) := by
  refine Always.bind (.any _) fun _ _ => .pure fun result coerced => ?_
  exact Native.Value.coerce_accepted coerced

private theorem forward_accepted (environment : CallbackEnvironment m) {settings : Settings}
    (handle : Host.Handle) (context : Host.ObjectId) {call : Native.Call} {returns : Native.Ty}
    (enabled : settings.coerceReturns = true) (declared : call.returns = some returns) :
    Always (fun outcome => ∀ value, outcome = .ok value → returns.accepts value = true)
      (forward .standard environment settings handle context call).run := by
  refine Always.bind (.any _) ?_
  rintro (failure | arguments) -
  · exact .pure nofun
  refine Always.bind (.any _) ?_
  rintro (failure | _) -
  · exact .pure nofun
  refine Always.bind (.any _) ?_
  rintro (failure | answer) -
  · exact .pure nofun
  refine Always.bind (.any _) ?_
  rintro (failure | value) -
  · exact .pure nofun
  simp only [declared, enabled, reduceIte]
  exact reportCoercion_accepted value returns

private theorem follow_allowed (environment : CallbackEnvironment m) {settings : Settings}
    {proxy : Option Proxy} {call : Native.Call} {returns : Native.Ty}
    (enabled : settings.coerceReturns = true) (declared : call.returns = some returns)
    {route : Route} (routed : settings.route proxy call = route) :
    Always (fun outcome => ∀ value, outcome = .ok value →
        settings.Allows proxy call returns value)
      (follow .standard environment settings call route) := by
  cases route with
  | unintercepted reason =>
      refine Always.bind (.any _) fun _ _ => .pure ?_
      rintro _ ⟨⟩
      exact Settings.allows_default declared routed
  | rejected => exact Always.bind (.any _) fun _ _ => .pure nofun
  | dispatched handle context =>
      have ended := forward_accepted environment handle context enabled declared
      refine Always.bind ended fun outcome accepted => ?_
      refine Always.bind (.any _) fun _ _ => ?_
      cases outcome with
      | error failure => exact Always.bind (.any _) fun _ _ => .pure nofun
      | ok value => exact .pure fun result same => .inl (accepted result same)

theorem intercept_allowed (environment : CallbackEnvironment m) {settings : Settings}
    (proxy : Option Proxy) {call : Native.Call} {returns : Native.Ty}
    (enabled : settings.coerceReturns = true) (declared : call.returns = some returns) :
    Always (fun outcome => ∀ value, outcome = .ok value →
        settings.Allows proxy call returns value)
      (intercept .standard environment settings proxy call) := by
  refine Always.bind (.any _) fun _ _ => ?_
  refine Always.bind (follow_allowed environment enabled declared rfl) fun outcome allowed => ?_
  exact Always.bind (.any _) fun _ _ => .pure allowed

/-- A call that is not intercepted has the default result, whatever else there is. -/
theorem intercept_unintercepted (marshaler : Marshaler m) (environment : CallbackEnvironment m)
    {settings : Settings} {proxy : Option Proxy} {call : Native.Call} {reason : Reason}
    (routed : settings.route proxy call = .unintercepted reason) :
    Always (· = .ok (settings.defaultFor call))
      (intercept marshaler environment settings proxy call) := by
  have followed : Always (· = .ok (settings.defaultFor call))
      (follow marshaler environment settings call (.unintercepted reason)) :=
    Always.bind (.any _) fun _ _ => .pure rfl
  rw [intercept, routed]
  refine Always.bind (.any _) fun _ _ => Always.bind followed fun outcome same => ?_
  exact Always.bind (.any _) fun _ _ => .pure same

/-- A call that declares a result type ends with a value of that type, whatever the
callback environment does, but for the null of a call that is not intercepted. -/
theorem returned_value_accepted (environment : CallbackEnvironment m) (settings : Settings)
    (proxy : Option Proxy) (call : Native.Call) (returns : Native.Ty)
    (enabled : settings.coerceReturns = true) (declared : call.returns = some returns) :
    Always (fun outcome => ∀ value, outcome = .ok value →
        settings.Allows proxy call returns value)
      (intercept .standard environment settings proxy call) ∧
    (settings.defaultResult = .typeDefault →
      Always (fun outcome => ∀ value, outcome = .ok value → returns.accepts value = true)
        (intercept .standard environment settings proxy call)) ∧
    (∀ reason, settings.defaultResult = .null →
      settings.route proxy call = .unintercepted reason →
        Always (· = .ok .null) (intercept .standard environment settings proxy call)) ∧
    ∀ (σ : Type) (hosted : CallbackEnvironment (Run σ)) (reference : HandlerRef)
      (handler : Handler σ) (before after : World σ) (value : Native.Value),
      before.handler? reference = some handler → handler.marshaler = .standard →
      handler.settings = settings → before.boundProxy? handler = proxy →
      World.invoke hosted reference call before = some (.ok value, after) →
        settings.Allows proxy call returns value := by
  have allowed := intercept_allowed environment proxy enabled declared
  refine ⟨allowed, fun typeDefault => ?_, fun reason null routed => ?_, ?_⟩
  · refine allowed.imp fun outcome holds value same => ?_
    rcases holds value same with accepted | ⟨null, -⟩
    · exact accepted
    · rw [typeDefault] at null
      cases null
  · rw [← Settings.defaultFor_null null call]
    exact intercept_unintercepted .standard environment routed
  · rintro σ hosted reference handler before after value present standard rfl rfl finished
    rw [World.invoke_present hosted present, standard, World.lift_standard] at finished
    have here := intercept_allowed hosted (before.boundProxy? handler) enabled declared
    exact always_run_iff.mp here _ _ _ finished value rfl

end

/-- Rows of letters with missing parts, handed over and asked for again. -/
def Native.Call.sparse : Native.Call where
  method := "greet"
  parameters := [.object "Rows"]
  arguments := [.array [.array [.null, .string "x"], .null]]
  returns := some (.array (.array .char))

/-- The missing letter becomes a zero and the missing row stays missing. -/
def Native.Value.completed : Native.Value :=
  .array [.array [.char '\x00', .char 'x'], .null]

def Native.Call.counting : Native.Call where
  method := "count"
  returns := some (.integer .int)

/-- The null of an unbound handler is the one result that is not of the declared type. -/
theorem returned_value_accepted_sparse :
    LawfulMonad (Run Unit) ∧
    (∃ after, intercept .standard CallbackEnvironment.echoing { defaultResult := .typeDefault }
        (some .greeter) .sparse { premises := { state := () } } = some (.ok .completed, after)) ∧
    (Native.Ty.array (.array .char)).accepts .completed = true ∧
    Always (· = .ok .null)
      (intercept .standard CallbackEnvironment.echoing {} none .counting) ∧
    (∃ after, World.invoke CallbackEnvironment.echoing ⟨0⟩ .counting
        { handlers := [{}], premises := { state := () } } = some (.ok .null, after)) ∧
    (Native.Ty.integer .int).accepts .null = false ∧
    Settings.Allows {} none .counting (.integer .int) .null := by
  have ran : ∃ after, intercept .standard CallbackEnvironment.echoing
      { defaultResult := .typeDefault } (some .greeter) .sparse { premises := { state := () } } =
        some (.ok .completed, after) :=
    ⟨_, rfl⟩
  have unbound : ∃ after, World.invoke CallbackEnvironment.echoing ⟨0⟩ .counting
      { handlers := [{}], premises := { state := () } } = some (.ok .null, after) :=
    ⟨_, rfl⟩
  obtain ⟨-, typed, -, -⟩ := returned_value_accepted CallbackEnvironment.echoing
    { defaultResult := .typeDefault } (some .greeter) .sparse _ rfl rfl
  obtain ⟨-, -, null, allowed⟩ := returned_value_accepted CallbackEnvironment.echoing {} none
    .counting _ rfl rfl
  refine ⟨inferInstance, ran, ?_, null .unbound rfl rfl, unbound, rfl, ?_⟩
  · obtain ⟨after, ran⟩ := ran
    exact always_run_iff.mp (typed rfl) _ _ _ ran _ rfl
  · obtain ⟨after, finished⟩ := unbound
    exact allowed Unit _ ⟨0⟩ {} _ after .null rfl rfl rfl rfl finished

end Interception
