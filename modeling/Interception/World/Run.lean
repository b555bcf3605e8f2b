import Interception.Invocation
import Interception.World.Basic

/-!
# Running host programs

Programs run on a world. Calling a callback counts it and runs the body that is
registered at that moment, to its end, on the same world; only its text is kept
of a body that fails. Since bodies can call again without bound, running takes
the depth of calls that is allowed; a run that needs more has no outcome.

There is one way to run a program, for every kind of computation that can take
steps on a world. It is told the moments of the run, to which plain runs pay no heed.
-/

set_option autoImplicit false

namespace Interception

inductive Moment (σ : Type) where
  /-- The body of a callback is about to run. It counts as started already. -/
  | started (handle : Host.Handle) (context : Host.ObjectId) (arguments : List Host.Value)
      (body : Callback σ)
  | ended (handle : Host.Handle) (result : Except String Host.Value)
  | registered (handle : Host.Handle) (body : Callback σ)
  | performed (operation : Operation σ) (answer : operation.Answer)

/-- Computations that take steps on a world and are told the moments of a run. -/
class Hosting (σ : outParam Type) (m : Type → Type) where
  step : {α : Type} → Run σ α → m α
  note : Moment σ → m Unit

instance {σ : Type} : Hosting σ (Run σ) where
  step run := run
  note _ := pure ()

section

open Hosting (step note)

variable {σ : Type} {m : Type → Type} [Monad m] [Reporting m] [Hosting σ m]

/-- Intercepts a call at a handler: handler and binding are those of this moment. -/
def World.invoke (environment : CallbackEnvironment m) (reference : HandlerRef)
    (call : Native.Call) : m (Except Failure Native.Value) := do
  let world ← step get
  let handler ← step (StateT.lift (world.handler? reference))
  intercept (handler.marshaler.lift fun conversion => step (World.onPremises conversion))
    environment handler.settings (world.boundProxy? handler) call

def Operation.run (environment : CallbackEnvironment m) :
    (operation : Operation σ) → m operation.Answer
  | .unregister handle => step (World.unregister handle)
  | .contains handle => step do return (← get).registry.contains handle
  | .callbackCount => step do return (← get).registry.size
  | .invocationCount => step do return (← get).invocations
  | .call handle context arguments => environment.call handle context arguments
  | .newProxy proxy => step (World.newProxy proxy)
  | .setOverrides proxy overrides => step (World.setOverrides proxy overrides)
  | .inspectProxy proxy => step do (← get).proxy? proxy
  | .newHandler handler => step (World.newHandler handler)
  | .bind handler proxy => step (World.bind handler proxy)
  | .inspectHandler reference => step do
      let world ← get
      let handler ← world.handler? reference
      pure (handler, world.boundProxy? handler)
  | .invoke handler request => World.invoke environment handler request
  | .coerce value target => step (reportCoercion value target)
  | .validate overrides policy methods => step (World.validate overrides policy methods)

namespace Hosting

def registering (body : Callback σ) : m Host.Handle := do
  let handle ← step (World.register body)
  note (.registered handle body)
  pure handle

def performing (operation : Operation σ) (answering : m operation.Answer) :
    m operation.Answer := do
  let answer ← answering
  note (.performed operation answer)
  pure answer

/-- Counts a callback as started, if it is live. -/
def starting (handle : Host.Handle) (context : Host.ObjectId) (arguments : List Host.Value) :
    m (Option (Callback σ)) := do
  let world ← step get
  match world.registry.find? handle with
  | none => pure none
  | some body =>
      step (modify fun world => { world with invocations := world.invocations + 1 })
      note (.started handle context arguments body)
      pure (some body)

end Hosting

/-- Runs a program to its end, with calls of callbacks left to an environment. -/
def Program.run (environment : CallbackEnvironment m) :
    Program σ → m (Except String Host.Value)
  | .done result => pure result
  | .read next => do
      let world ← step get
      (next world.premises.state).run environment
  | .write state next => do
      step (modify fun world => { world with premises := { world.premises with state } })
      next.run environment
  | .register body next => do
      let handle ← Hosting.registering body
      (next handle).run environment
  | .perform operation next => do
      let answer ← Hosting.performing operation (operation.run environment)
      (next answer).run environment

/-- Calls a live callback, with calls inside its body left to an environment. The
callback counts as started before its body runs. -/
def World.start (inner : CallbackEnvironment m) (handle : Host.Handle)
    (context : Host.ObjectId) (arguments : List Host.Value) :
    m (Except Failure Host.Value) := do
  match ← Hosting.starting handle context arguments with
  | none => pure (.error (.unknownCallback handle))
  | some body =>
      let result ← (body handle context arguments).run inner
      note (.ended handle result)
      pure (result.mapError (.callback handle))

/-- The environment in which calls of callbacks are nested at most `depth` deep. -/
def CallbackEnvironment.nested : Nat → CallbackEnvironment m
  | 0 => ⟨fun _ _ _ => step (StateT.lift none)⟩
  | depth + 1 => ⟨fun handle context arguments =>
      World.start (CallbackEnvironment.nested depth) handle context arguments⟩

end

/-- The environment of plain runs. -/
def World.environment {σ : Type} : Nat → CallbackEnvironment (Run σ) :=
  CallbackEnvironment.nested

end Interception
