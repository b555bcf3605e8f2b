import Interception.Proofs.Conversion.Outcomes
import Interception.Proofs.Conversion.RoundTrip
import Interception.Proofs.World.Frame

/-!
# Arguments that come back

A callback that ends with one of its arguments gives the native caller that argument
again, wherever its type mentions no class and is the declared result type.
-/

set_option autoImplicit false

namespace Interception

variable {σ : Type}

namespace World

/-- The world in which the callback of a forwarded call starts. -/
def entering (world : World σ) (call : Native.Call) (handle : Host.Handle) (count : Nat) :
    World σ :=
  ((world.retraced (·.enter call.method)).retraced
    (·.report (.dispatched call.method handle count))).counted

/-- A call that is forwarded to a live callback by a handler with the standard marshaler. -/
structure Forwarding (before : World σ) (reference : HandlerRef) (call : Native.Call) where
  handler : Handler σ
  handle : Host.Handle
  context : Host.ObjectId
  arguments : List Host.Value
  body : Callback σ
  present : before.handler? reference = some handler
  standard : handler.marshaler = .standard
  forwards : before.Forwards handler call handle context arguments
  live : before.registry.find? handle = some body

/-- The body of the callback ends like this, with calls below it nested at most `inner`
deep. -/
def Forwarding.Ends {before : World σ} {reference : HandlerRef} {call : Native.Call}
    (forwarding : Forwarding before reference call) (inner : Nat)
    (result : Except String Host.Value) (left : World σ) : Prop :=
  (forwarding.body forwarding.handle forwarding.context forwarding.arguments).run
    (World.environment inner)
    (before.entering call forwarding.handle forwarding.arguments.length) = some (result, left)

/-- An invocation ends where its callback does. -/
theorem Forwarding.invoke {inner : Nat} {before left : World σ} {reference : HandlerRef}
    {call : Native.Call} (forwarding : Forwarding before reference call)
    {result : Except String Host.Value} (ends : forwarding.Ends inner result left) :
    ∃ after, World.invoke (World.environment (inner + 1)) reference call before =
        some ((forwarding.handler.settings.conclude call
          (result.mapError (.callback forwarding.handle))).outcome, after) ∧
      left.SameState after := by
  obtain ⟨handler, handle, context, arguments, body, present, standard, forwards, live⟩ :=
    forwarding
  change (body handle context arguments).run (World.environment inner)
    (before.entering call handle arguments.length) = some (result, left) at ends
  rw [← Chronicle.run_program] at ends
  rcases told : (body handle context arguments).run (World.chronicler inner)
    (before.entering call handle arguments.length) with ⟨outcome, inside⟩
  rw [told] at ends
  obtain rfl : outcome = some (result, left) := ends
  have here : ((before.retraced (·.enter call.method)).retraced
      (·.report (.dispatched call.method handle arguments.length))).registry.find? handle =
        some body := live
  rw [entering] at told
  rw [← Chronicle.run_invoke, Chronicle.invoke_apply _ present standard,
    Chronicle.intercept_apply, forwards.routed, follow,
    Chronicle.dispatch_wrapped _ forwards.wrapped, Chronicle.chronicler_call,
    Chronicle.start_live _ here, told]
  exact ⟨_, rfl, rfl, rfl, rfl, rfl, rfl⟩

/-- A call has an argument at an index whose type mentions no class and is declared for
the result too. -/
structure Returnable (call : Native.Call) (index : Nat) (declared : Native.Ty)
    (value : Native.Value) : Prop where
  objectFree : declared.objectFree = true
  parameter : call.parameters[index]? = some declared
  argument : call.arguments[index]? = some value
  returns : call.returns = some declared

/-- What a class-free type accepts comes back up to the sign of zeros, through the
conversions alone and through a call. -/
theorem argument_comes_back :
    (∀ (declared : Native.Ty) (value : Native.Value) (index : Nat),
      declared.objectFree = true → declared.accepts value = true →
      ∃ host native, value.marshal declared index = .ok host ∧ host.toNative = .ok native ∧
        (native.coerce declared).outcome = .ok value.withPositiveZeros) ∧
    ∀ (before : World σ) (reference : HandlerRef) (call : Native.Call)
      (forwarding : Forwarding before reference call),
      forwarding.handler.settings.coerceReturns = true →
      ∀ index declared value, Returnable call index declared value →
      ∀ inner answer left, forwarding.arguments[index]? = some answer →
        forwarding.Ends inner (.ok answer) left →
        ∃ after, World.invoke (World.environment (inner + 1)) reference call before =
          some (.ok value.withPositiveZeros, after) := by
  constructor
  · intro declared value index objectFree accepted
    obtain ⟨native, back, coerced⟩ := Native.Value.accepted_returns objectFree accepted
    exact ⟨value.toHost, native, by rw [Native.Value.marshal, if_pos accepted], back, coerced⟩
  · intro before reference call forwarding enabled index declared value returnable inner answer
      left answered ends
    obtain ⟨accepted, marshaled⟩ := Native.Value.marshalAll_ok_at forwarding.forwards.wrapped
      returnable.parameter returnable.argument
    obtain rfl := Option.some.inj (marshaled.symm.trans answered)
    obtain ⟨native, back, coerced⟩ :=
      Native.Value.accepted_returns returnable.objectFree accepted
    obtain ⟨after, finished, -⟩ := forwarding.invoke ends
    refine ⟨after, finished.trans ?_⟩
    simp only [Except.mapError, Settings.conclude, back, returnable.returns, enabled, reduceIte,
      coerced]

def echo : Callback Unit := fun _ _ arguments =>
  .done (.ok (arguments.headD .null))

/-- A negative zero below two arrays, next to a missing array. -/
def nestedZero : Native.Value :=
  .array [.array [.float .double (.signed true 0 (Nat.zero_le _))], .null]

def echoing : Native.Call where
  method := "greet"
  parameters := [.array (.array (.float .double))]
  arguments := [nestedZero]
  returns := some (.array (.array (.float .double)))

/-- The callback of the greeter is asked to give its argument back. -/
def forwardingEcho : Forwarding (hosting echo) ⟨0⟩ echoing where
  handler := { proxy := some ⟨0⟩ }
  handle := ⟨1⟩
  context := ⟨7⟩
  arguments := [nestedZero.toHost]
  body := echo
  present := rfl
  standard := rfl
  forwards := ⟨⟨_, _, rfl, rfl, rfl, rfl⟩, nofun, rfl⟩
  live := rfl

theorem argument_comes_back_echo :
    (Native.Ty.array (.array (.float .double))).objectFree = true ∧
    (Native.Ty.array (.array (.float .double))).accepts nestedZero = true ∧
    (∃ host native, nestedZero.marshal (.array (.array (.float .double))) 0 = .ok host ∧
      host.toNative = .ok native ∧
      (native.coerce (.array (.array (.float .double)))).outcome =
        .ok (.array [.array [.float .double .zero], .null])) ∧
    forwardingEcho.handler.settings.coerceReturns = true ∧
    Returnable echoing 0 (.array (.array (.float .double))) nestedZero ∧
    forwardingEcho.arguments[0]? = some nestedZero.toHost ∧
    ∃ left after, forwardingEcho.Ends 0 (.ok nestedZero.toHost) left ∧
      World.invoke (World.environment 1) ⟨0⟩ echoing (hosting echo) =
        some (.ok (.array [.array [.float .double .zero], .null]), after) := by
  obtain ⟨conversions, invocations⟩ := @argument_comes_back Unit
  have returnable : Returnable echoing 0 (.array (.array (.float .double))) nestedZero :=
    ⟨rfl, rfl, rfl, rfl⟩
  have ends : forwardingEcho.Ends 0 (.ok nestedZero.toHost)
      ((hosting echo).entering echoing ⟨1⟩ 1) := rfl
  obtain ⟨after, finished⟩ :=
    invocations _ _ _ forwardingEcho rfl _ _ _ returnable _ _ _ rfl ends
  exact ⟨rfl, rfl, conversions _ nestedZero 0 rfl rfl, rfl, returnable, rfl, _, after, ends,
    finished⟩

end World

end Interception
