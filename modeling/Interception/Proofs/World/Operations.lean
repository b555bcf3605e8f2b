import Interception.Proofs.World.Invoke

/-!
# Operations without calls

All that the steps of host code do which run no callback: what they answer, and
what they change.
-/

set_option autoImplicit false

namespace Interception

variable {σ : Type}

/-- A step that ends and runs no callback. -/
inductive Operation.Does (before : World σ) :
    (operation : Operation σ) → operation.Answer → World σ → Prop where
  | unregister (handle : Host.Handle) :
      Does before (.unregister handle) (before.registry.contains handle)
        { before with registry := before.registry.unregister handle }
  | contains (handle : Host.Handle) :
      Does before (.contains handle) (before.registry.contains handle) before
  | callbackCount : Does before .callbackCount before.registry.size before
  | invocationCount : Does before .invocationCount before.invocations before
  | newProxy (proxy : Proxy) :
      Does before (.newProxy proxy) ⟨before.proxies.length⟩
        { before with proxies := before.proxies ++ [proxy] }
  | assigned (reference : ProxyRef) (overrides : OverrideMap) (proxy assigned : Proxy)
      (present : before.proxy? reference = some proxy)
      (accepted : proxy.assign overrides = .ok assigned) :
      Does before (.setOverrides reference overrides) (.ok ())
        { before with proxies := before.proxies.set reference.index assigned }
  | notAssigned (reference : ProxyRef) (overrides : OverrideMap) (proxy : Proxy)
      (failure : Failure) (present : before.proxy? reference = some proxy)
      (refused : proxy.assign overrides = .error failure) :
      Does before (.setOverrides reference overrides) (.error failure) before
  | inspectProxy (reference : ProxyRef) (proxy : Proxy)
      (present : before.proxy? reference = some proxy) :
      Does before (.inspectProxy reference) proxy before
  | newHandler (handler : Handler σ) :
      Does before (.newHandler handler) ⟨before.handlers.length⟩
        { before with handlers := before.handlers ++ [handler] }
  | bound (reference : HandlerRef) (proxyRef : ProxyRef) (handler : Handler σ) (proxy : Proxy)
      (present : before.handler? reference = some handler)
      (known : before.proxy? proxyRef = some proxy) :
      Does before (.bind reference proxyRef) ()
        (World.retraced (·.report (.bound proxy.className handler.proxy.isSome))
          { before with handlers :=
              before.handlers.set reference.index { handler with proxy := some proxyRef } })
  | inspectHandler (reference : HandlerRef) (handler : Handler σ)
      (present : before.handler? reference = some handler) :
      Does before (.inspectHandler reference) (handler, before.boundProxy? handler) before
  | coerce (value : Native.Value) (target : Native.Ty) :
      Does before (.coerce value target) (value.coerce target).outcome
        (before.retraced (·.reportAll ((value.coerce target).visits.map .converting)))
  | validated (overrides : OverrideMap) (policy : FinalPolicy) (methods ignored : List String)
      (checked : overrides.validate policy methods = .ok ignored) :
      Does before (.validate overrides policy methods) (.ok ())
        (before.retraced (·.reportAll (ignored.map .overrideIgnored)))
  | notValidated (overrides : OverrideMap) (policy : FinalPolicy) (methods : List String)
      (failure : Failure) (checked : overrides.validate policy methods = .error failure) :
      Does before (.validate overrides policy methods) (.error failure) before

namespace Operation

theorem setOverrides_does {reference : ProxyRef} {overrides : OverrideMap}
    {answer : Except Failure Unit} {before after : World σ}
    (ran : World.setOverrides reference overrides before = some (answer, after)) :
    (Operation.setOverrides reference overrides).Does before answer after := by
  rw [World.setOverrides] at ran
  obtain ⟨proxy, present, ran⟩ := Option.bind_eq_some_iff.mp ran
  cases accepted : proxy.assign overrides with
  | ok assigned =>
      rw [accepted] at ran
      cases ran
      exact .assigned reference overrides proxy assigned present accepted
  | error failure =>
      rw [accepted] at ran
      cases ran
      exact .notAssigned reference overrides proxy failure present accepted

private theorem of_lift_bind {α β : Type} {value? : Option α} {next : α → Run σ β}
    {world after : World σ} {result : β}
    (ran : (StateT.lift value? >>= next) world = some (result, after)) :
    ∃ value, value? = some value ∧ next value world = some (result, after) := by
  cases value? with
  | none => cases ran
  | some value => exact ⟨value, rfl, ran⟩

private theorem bind_does {reference : HandlerRef} {proxyRef : ProxyRef} {answer : Unit}
    {before after : World σ} (ran : World.bind reference proxyRef before = some (answer, after)) :
    (Operation.bind reference proxyRef).Does before answer after := by
  change (StateT.lift (before.handler? reference) >>= fun handler =>
    StateT.lift (before.proxy? proxyRef) >>= fun proxy => (do
      set { before with
        handlers := before.handlers.set reference.index { handler with proxy := some proxyRef } }
      Reporting.report (.bound proxy.className handler.proxy.isSome) : Run σ Unit)) before = _
    at ran
  obtain ⟨handler, present, ran⟩ := of_lift_bind ran
  obtain ⟨proxy, known, ran⟩ := of_lift_bind ran
  cases ran
  exact .bound reference proxyRef handler proxy present known

theorem validate_does {overrides : OverrideMap} {policy : FinalPolicy}
    {methods : List String} {answer : Except Failure Unit} {before after : World σ}
    (ran : World.validate overrides policy methods before = some (answer, after)) :
    (Operation.validate overrides policy methods).Does before answer after := by
  rw [World.validate_apply] at ran
  cases checked : overrides.validate policy methods with
  | error failure =>
      rw [checked] at ran
      cases ran
      exact .notValidated overrides policy methods failure checked
  | ok ignored =>
      rw [checked] at ran
      cases ran
      exact .validated overrides policy methods ignored checked

theorem run_does {operation : Operation σ} (quiet : operation.calls = false)
    {environment : CallbackEnvironment (Run σ)} {before after : World σ}
    {answer : operation.Answer}
    (ran : operation.run environment before = some (answer, after)) :
    operation.Does before answer after := by
  cases operation with
  | call handle context arguments => cases quiet
  | invoke reference request => cases quiet
  | unregister handle =>
      cases ran
      exact .unregister handle
  | contains handle =>
      cases ran
      exact .contains handle
  | callbackCount =>
      cases ran
      exact .callbackCount
  | invocationCount =>
      cases ran
      exact .invocationCount
  | newProxy proxy =>
      cases ran
      exact .newProxy proxy
  | setOverrides reference overrides => exact setOverrides_does ran
  | inspectProxy reference =>
      change (StateT.lift (before.proxy? reference) : Run σ Proxy) before = _ at ran
      obtain ⟨proxy, present, ran⟩ := Option.bind_eq_some_iff.mp ran
      cases ran
      exact .inspectProxy reference _ present
  | newHandler handler =>
      cases ran
      exact .newHandler handler
  | bind reference proxyRef => exact bind_does ran
  | inspectHandler reference =>
      change (StateT.lift (before.handler? reference) >>= fun handler =>
        pure (handler, before.boundProxy? handler) : Run σ _) before = _ at ran
      obtain ⟨handler, present, ran⟩ := of_lift_bind ran
      cases ran
      exact .inspectHandler reference handler present
  | coerce value target =>
      change (reportCoercion value target : Run σ _) before = _ at ran
      rw [World.reportCoercion_apply] at ran
      cases ran
      exact .coerce value target
  | validate overrides policy methods => exact validate_does ran

end Operation

end Interception
