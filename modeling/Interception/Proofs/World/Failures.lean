import Interception.Proofs.Conversion.Outcomes
import Interception.Proofs.World.Frame

/-!
# What a failure tells

The kind of a failure tells whether host code ran. A failure of the early kinds
comes before any body starts and leaves the world as it was; one of the late kinds
comes after the one body that the call was for.
-/

set_option autoImplicit false

namespace Interception

variable {σ : Type}

/-- How a callback that ran makes its invocation fail: by the text it ends with, or by
a value that this invocation cannot convert. -/
inductive Activation.Causes (activation : Activation σ) (settings : Settings)
    (call : Native.Call) : Failure → Prop where
  | failed (text : String) (ended : activation.result = .error text) :
      Causes activation settings call (.callback activation.handle text)
  | notUnwrapped (answer : Host.Value) (found : Kind) (target : String)
      (answered : activation.result = .ok answer)
      (refused : answer.toNative = .error (.unmarshal found target)) :
      Causes activation settings call (.unmarshal found target)
  | notCoerced (answer : Host.Value) (value : Native.Value) (returns : Native.Ty) (found : Kind)
      (target : String) (answered : activation.result = .ok answer)
      (unwrapped : answer.toNative = .ok value) (declared : call.returns = some returns)
      (enabled : settings.coerceReturns = true)
      (refused : (value.coerce returns).outcome = .error (.unmarshal found target)) :
      Causes activation settings call (.unmarshal found target)

theorem Activation.Causes.kind_mem {activation : Activation σ} {settings : Settings}
    {call : Native.Call} {failure : Failure} (causes : activation.Causes settings call failure) :
    failure.kind ∈ ["callback", "unmarshal"] := by
  cases causes <;> simp [Failure.kind]

theorem Activation.causes_of_conclude_error {activation : Activation σ} {settings : Settings}
    {call : Native.Call} {failure : Failure}
    (failed : (settings.conclude call activation.reply).outcome = .error failure) :
    activation.Causes settings call failure := by
  obtain ⟨handle, context, arguments, body, entry, result, left⟩ := activation
  cases result with
  | error text =>
      cases failed
      exact .failed text rfl
  | ok answer =>
      simp only [reply, Except.mapError, Settings.conclude] at failed
      cases unwrapped : answer.toNative with
      | error cause =>
          simp only [unwrapped] at failed
          cases failed
          obtain ⟨found, rfl⟩ := answer.toNative_error unwrapped
          exact .notUnwrapped answer found _ rfl unwrapped
      | ok value =>
          simp only [unwrapped] at failed
          split at failed
          · rename_i returns declared
            split at failed
            · rename_i enabled
              obtain ⟨found, target, rfl⟩ := Native.Value.coerce_error failed
              exact .notCoerced answer value returns found target rfl unwrapped declared enabled
                failed
            · cases failed
          · cases failed

namespace World

theorem setOverrides_error {reference : ProxyRef} {overrides : OverrideMap} {failure : Failure}
    {before after : World σ}
    (finished : World.setOverrides reference overrides before = some (.error failure, after)) :
    after = before := by
  cases Operation.setOverrides_does finished
  rfl

theorem validate_error {overrides : OverrideMap} {policy : FinalPolicy} {methods : List String}
    {failure : Failure} {before after : World σ}
    (finished : World.validate overrides policy methods before = some (.error failure, after)) :
    after = before := by
  cases Operation.validate_does finished
  rfl

theorem call_error {depth : Nat} {handle : Host.Handle} {context : Host.ObjectId}
    {arguments : List Host.Value} {failure : Failure} {before after : World σ}
    (finished : (World.environment depth).call handle context arguments before =
      some (.error failure, after)) :
    (failure = .unknownCallback handle ∧ before.registry.find? handle = none ∧ after = before) ∨
      ∃ text, failure = .callback handle text := by
  rw [← Chronicle.forget_chronicler] at finished
  rcases told : (World.chronicler depth).call handle context arguments before with ⟨result, history⟩
  have same : result = some (.error failure, after) := by
    rw [← finished]
    exact (congrArg (·.1) told).symm
  subst same
  rcases Chronicle.call_cases told with ⟨absent, unknown, kept, -⟩ |
    ⟨inner, body, result, -, live, -, replied, -⟩
  · cases unknown
    exact .inl ⟨rfl, absent, kept⟩
  · cases result with
    | ok value => cases replied
    | error text =>
        cases replied
        exact .inr ⟨text, rfl⟩

/-- A failed invocation fails before its callback starts, or by its callback. -/
theorem Course.failure_cases {depth : Nat} {handler : Handler σ} {call : Native.Call}
    {before after : World σ} {failure : Failure} {history : History σ}
    (course : Course depth handler call before (.error failure) after history) :
    (failure.kind ∈ ["arity", "marshal", "unknown_callback", "final_method"] ∧
        history = [] ∧ before.SameState after) ∨
      ∃ (inner : Nat) (activation : Activation σ),
        handler.settings.route (before.boundProxy? handler) call =
            .dispatched activation.handle activation.context ∧
        before.registry.find? activation.handle = some activation.body ∧
        activation.Finishes inner ∧ history = activation.history inner ∧
        activation.Causes handler.settings call failure := by
  generalize ended : Except.error failure = outcome at course
  cases course with
  | unintercepted reason _ _ kept => cases ended
  | rejected _ _ kept =>
      cases ended
      exact .inl ⟨by simp [Failure.kind], rfl, kept⟩
  | notWrapped _ _ cause _ _ refused kept =>
      cases ended
      refine .inl ⟨?_, rfl, kept⟩
      rcases Native.Value.marshalAll_error refused with rfl | ⟨position, declared, found, rfl⟩
      · simp [Failure.kind]
      · simp [Failure.kind]
  | notLive handle _ _ _ _ _ _ kept =>
      cases ended
      exact .inl ⟨by simp [Failure.kind], rfl, kept⟩
  | activated inner activation _ _ routed _ live _ finishes _ =>
      exact .inr ⟨inner, activation, routed, live, finishes, rfl,
        activation.causes_of_conclude_error ended.symm⟩

/-- Whether a body ran can be read off the kind of a failure, and where none ran the
world is as before. -/
theorem failures_tell_progress (depth : Nat) (before : World σ) :
    (∀ reference call handler failure after,
      before.handler? reference = some handler → handler.marshaler = .standard →
      World.invoke (World.environment depth) reference call before =
        some (.error failure, after) →
      let history := (World.invoke (World.chronicler depth) reference call before).2
      (failure.kind ∈ ["arity", "marshal", "unknown_callback", "final_method"] ∧
          history = [] ∧ before.SameState after) ∨
        (failure.kind ∈ ["callback", "unmarshal"] ∧
          ∃ (inner : Nat) (activation : Activation σ),
            Overridden (before.boundProxy? handler) call.method (.callback activation.handle)
              activation.context ∧
            before.registry.find? activation.handle = some activation.body ∧
            activation.Finishes inner ∧ history = activation.history inner ∧
            activation.Causes handler.settings call failure)) ∧
      (∀ reference overrides failure after,
        World.setOverrides reference overrides before = some (.error failure, after) →
          after = before) ∧
      (∀ overrides policy methods failure after,
        World.validate overrides policy methods before = some (.error failure, after) →
          after = before) ∧
      ∀ handle context arguments failure after,
        (World.environment depth).call handle context arguments before =
            some (.error failure, after) →
          failure.kind = "unknown_callback" → after = before := by
  refine ⟨?_, fun _ _ _ _ => setOverrides_error, fun _ _ _ _ _ => validate_error, ?_⟩
  · intro reference call handler failure after present standard finished history
    rcases (invoke_course present standard finished).failure_cases with early |
      ⟨inner, activation, routed, live, finishes, same, causes⟩
    · exact .inl early
    · exact .inr ⟨causes.kind_mem, inner, activation,
        (Settings.route_eq_dispatched_iff.mp routed).1, live, finishes, same, causes⟩
  · intro handle context arguments failure after finished kind
    rcases call_error finished with ⟨-, -, kept⟩ | ⟨text, rfl⟩
    · exact kept
    · exact absurd kind (by simp [Failure.kind])

/-- Calls a callback that is not live, and fails with the text of the failure. -/
def relay : Callback Unit := fun _ context arguments =>
  .perform (.call ⟨9⟩ context arguments) fun answer =>
    .done (answer.mapError Failure.message)

private theorem relay_fails :
    ∃ after, World.invoke (World.environment 2) ⟨0⟩ .greeting (hosting relay) =
      some (.error (.callback ⟨1⟩ (Failure.unknownCallback ⟨9⟩).message), after) :=
  ⟨_, rfl⟩

theorem failures_tell_progress_relay :
    ∃ handler afterCall afterAssignment afterCheck afterLookup,
      (hosting relay).handler? ⟨0⟩ = some handler ∧ handler.marshaler = .standard ∧
      World.invoke (World.environment 2) ⟨0⟩ .greeting (hosting relay) =
        some (.error (.callback ⟨1⟩ (Failure.unknownCallback ⟨9⟩).message), afterCall) ∧
      (∃ (inner : Nat) (activation : Activation Unit),
        (hosting relay).registry.find? activation.handle = some activation.body ∧
        activation.Finishes inner ∧
        (World.invoke (World.chronicler 2) ⟨0⟩ .greeting (hosting relay)).2 =
          activation.history inner ∧
        activation.Causes handler.settings .greeting
          (.callback ⟨1⟩ (Failure.unknownCallback ⟨9⟩).message)) ∧
      World.setOverrides ⟨0⟩ .empty (hosting relay) =
        some (.error .overridesAlreadySet, afterAssignment) ∧ afterAssignment = (hosting relay) ∧
      World.validate (.ofList [("greet", .callback ⟨1⟩)]) .reject ["greet"] (hosting relay) =
        some (.error (.finalMethod "greet"), afterCheck) ∧ afterCheck = (hosting relay) ∧
      (World.environment 2).call ⟨9⟩ ⟨7⟩ [] (hosting relay) =
        some (.error (.unknownCallback ⟨9⟩), afterLookup) ∧ afterLookup = (hosting relay) := by
  obtain ⟨invocations, assignments, checks, lookups⟩ := failures_tell_progress 2 (hosting relay)
  obtain ⟨afterCall, called⟩ := relay_fails
  have assigned : World.setOverrides ⟨0⟩ .empty (hosting relay) =
      some (.error .overridesAlreadySet, _) := rfl
  have checked : World.validate (.ofList [("greet", .callback ⟨1⟩)]) .reject ["greet"]
      (hosting relay) = some (.error (.finalMethod "greet"), _) := rfl
  have looked : (World.environment 2).call ⟨9⟩ ⟨7⟩ [] (hosting relay) =
      some (.error (.unknownCallback ⟨9⟩), _) := rfl
  have present : (hosting relay).handler? ⟨0⟩ = some { proxy := some ⟨0⟩ } := rfl
  refine ⟨_, afterCall, _, _, _, present, rfl, called, ?_, assigned,
    assignments _ _ _ _ assigned, checked, checks _ _ _ _ _ checked, looked,
    lookups _ _ _ _ _ looked rfl⟩
  rcases invocations _ _ _ _ _ present rfl called with ⟨early, -⟩ |
    ⟨-, inner, activation, -, live, finishes, told, causes⟩
  · exact absurd early (by simp [Failure.kind])
  · exact ⟨inner, activation, live, finishes, told, causes⟩

end World

end Interception
