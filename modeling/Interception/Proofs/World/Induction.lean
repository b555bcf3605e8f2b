import Interception.Proofs.Invocation.Closed
import Interception.Proofs.World.History

/-!
# Induction on runs

What runs are made of, whoever runs: a look at the world, a conversion of a
marshaler, a write of host code, a registration, an operation with its answer, the
start and the end of a callback. A property that holds of these, and of what is put
together from runs with the property, holds of the run of every program, however
deep its calls are nested.

A property may hold of an operation only together with the answer that is told of
it; such a property goes along the steps of host code. One that holds of the parts
of an operation as well is hereditary.
-/

set_option autoImplicit false

namespace Interception

variable {σ : Type}

/-- The property goes along the steps of host code. The calls below an operation may
be taken to have it already. -/
structure Chronicle.Stepwise (property : {α : Type} → Chronicle σ α → Prop) : Prop where
  pure {α : Type} (value : α) : property (Pure.pure value : Chronicle σ α)
  bind {α β : Type} {first : Chronicle σ α} {next : α → Chronicle σ β} (holds : property first)
    (goesOn : ∀ value, property (next value)) : property (first >>= next)
  look : property (silent get : Chronicle σ (World σ))
  exhausted {α : Type} : property (silent (StateT.lift none) : Chronicle σ α)
  write (state : σ) : property (silent
    (modify fun world => { world with premises := { world.premises with state } }) :
      Chronicle σ Unit)
  registering (body : Callback σ) : property (Hosting.registering body : Chronicle σ _)
  performing (depth : Nat) (operation : Operation σ)
    (answers : ∀ handle context arguments,
      property ((World.chronicler depth).call handle context arguments)) :
    property (Hosting.performing operation (operation.run (World.chronicler depth)))
  starting (handle : Host.Handle) (context : Host.ObjectId) (arguments : List Host.Value) :
    property (Hosting.starting handle context arguments : Chronicle σ _)
  ended (handle : Host.Handle) (result : Except String Host.Value) :
    property (note (.ended handle result) : Chronicle σ Unit)

namespace Chronicle.Stepwise

variable {property : {α : Type} → Chronicle σ α → Prop} (stepwise : Stepwise @property)

include stepwise

theorem run {depth : Nat}
    (answers : ∀ handle context arguments,
      property ((World.chronicler depth).call handle context arguments))
    (program : Program σ) : property (program.run (World.chronicler depth)) := by
  induction program with
  | done result => exact stepwise.pure result
  | read next ih => exact stepwise.bind stepwise.look fun world => ih _
  | write state next ih => exact stepwise.bind (stepwise.write state) fun _ => ih
  | register body next _ ih => exact stepwise.bind (stepwise.registering body) ih
  | perform operation next ih =>
      exact stepwise.bind (stepwise.performing depth operation answers) ih

theorem call (depth : Nat) (handle : Host.Handle) (context : Host.ObjectId)
    (arguments : List Host.Value) :
    property ((World.chronicler depth).call handle context arguments) := by
  induction depth generalizing handle context arguments with
  | zero => exact stepwise.exhausted
  | succ inner ih =>
      refine stepwise.bind (stepwise.starting handle context arguments) fun found => ?_
      cases found with
      | none => exact stepwise.pure _
      | some body =>
          refine stepwise.bind (stepwise.run ih _) fun result => ?_
          exact stepwise.bind (stepwise.ended handle result) fun _ => stepwise.pure _

theorem program (depth : Nat) (program : Program σ) :
    property (program.run (World.chronicler depth)) :=
  stepwise.run (stepwise.call depth) program

end Chronicle.Stepwise

/-- A call has every closed property that conversions have and its callback has. -/
theorem Closed.invoke {property : {α : Type} → Chronicle σ α → Prop}
    (closed : Closed (m := Chronicle σ) @property)
    (look : property (Chronicle.silent get : Chronicle σ (World σ)))
    (lift : ∀ {α : Type} (value? : Option α),
      property (Chronicle.silent (StateT.lift value?) : Chronicle σ α))
    (conversion : ∀ {α : Type} (conversion : Conversion σ α),
      property (Chronicle.premises.carry conversion))
    {environment : CallbackEnvironment (Chronicle σ)}
    (answers : ∀ handle context arguments, property (environment.call handle context arguments))
    (reference : HandlerRef) (call : Native.Call) :
    property (World.invoke environment reference call) := by
  refine closed.bind look fun world => ?_
  refine closed.bind (lift _) fun handler => ?_
  exact closed.intercept (fun _ _ => conversion _) (fun _ => conversion _)
    (fun _ _ => conversion _) answers _ _ _

structure Chronicle.Hereditary (property : {α : Type} → Chronicle σ α → Prop) : Prop where
  pure {α : Type} (value : α) : property (Pure.pure value : Chronicle σ α)
  bind {α β : Type} {first : Chronicle σ α} {next : α → Chronicle σ β} (holds : property first)
    (goesOn : ∀ value, property (next value)) : property (first >>= next)
  look : property (silent get : Chronicle σ (World σ))
  lift {α : Type} (value? : Option α) : property (silent (StateT.lift value?) : Chronicle σ α)
  conversion {α : Type} (conversion : Conversion σ α) : property (premises.carry conversion)
  write (state : σ) : property (silent
    (modify fun world => { world with premises := { world.premises with state } }) :
      Chronicle σ Unit)
  registering (body : Callback σ) : property (Hosting.registering body : Chronicle σ _)
  operation (operation : Operation σ) (environment : CallbackEnvironment (Run σ))
    (quiet : operation.calls = false) : property (silent (operation.run environment))
  performing (depth : Nat) (operation : Operation σ)
    (holds : property (operation.run (World.chronicler depth))) :
    property (Hosting.performing operation (operation.run (World.chronicler depth)))
  starting (handle : Host.Handle) (context : Host.ObjectId) (arguments : List Host.Value) :
    property (Hosting.starting handle context arguments : Chronicle σ _)
  ended (handle : Host.Handle) (result : Except String Host.Value) :
    property (note (.ended handle result) : Chronicle σ Unit)

namespace Chronicle.Hereditary

variable {property : {α : Type} → Chronicle σ α → Prop} (hereditary : Hereditary @property)

include hereditary

theorem closed : Closed (m := Chronicle σ) @property where
  pure := hereditary.pure
  map _ _ holds := hereditary.bind holds fun _ => hereditary.pure _
  bind := hereditary.bind
  report event := hereditary.conversion (Reporting.report event)
  enter method := hereditary.conversion (Reporting.enter method)
  close := hereditary.conversion Reporting.close

theorem invoke {environment : CallbackEnvironment (Chronicle σ)}
    (answers : ∀ handle context arguments, property (environment.call handle context arguments))
    (reference : HandlerRef) (call : Native.Call) :
    property (World.invoke environment reference call) :=
  hereditary.closed.invoke hereditary.look hereditary.lift hereditary.conversion answers
    reference call

theorem step {environment : CallbackEnvironment (Chronicle σ)}
    (answers : ∀ handle context arguments, property (environment.call handle context arguments))
    (operation : Operation σ) : property (operation.run environment) := by
  cases calls : operation.calls with
  | false =>
      rw [run_of_quiet calls]
      exact hereditary.operation operation _ calls
  | true =>
      cases operation with
      | call handle context arguments => exact answers handle context arguments
      | invoke reference request => exact hereditary.invoke answers reference request
      | _ => cases calls

theorem stepwise : Stepwise @property where
  pure := hereditary.pure
  bind := hereditary.bind
  look := hereditary.look
  exhausted := hereditary.lift none
  write := hereditary.write
  registering := hereditary.registering
  performing depth operation answers :=
    hereditary.performing depth operation (hereditary.step answers operation)
  starting := hereditary.starting
  ended := hereditary.ended

theorem invocation (depth : Nat) (reference : HandlerRef) (call : Native.Call) :
    property (World.invoke (World.chronicler depth) reference call) :=
  hereditary.invoke (hereditary.stepwise.call depth) reference call

end Chronicle.Hereditary

end Interception
