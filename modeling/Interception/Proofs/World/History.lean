import Interception.Proofs.Invocation.Transport
import Interception.World.Run

/-!
# Histories of runs

A run tells its history: which callbacks were started and ended, which were
registered, and which operations were performed, each with the world right after
it. The history is kept also of a run that has no outcome. Telling it leaves the
run as it is.
-/

set_option autoImplicit false

namespace Interception

/-- Moments in order, each with the world right after it. -/
abbrev History (σ : Type) := List (Moment σ × World σ)

/-- Runs that tell their history. -/
def Chronicle (σ : Type) (α : Type) : Type :=
  World σ → Option (α × World σ) × History σ

namespace Chronicle

variable {σ α β : Type}

instance : Monad (Chronicle σ) where
  pure value := fun world => (some (value, world), [])
  bind first next := fun world =>
    match first world with
    | (none, history) => (none, history)
    | (some (value, middle), history) =>
        let rest := next value middle
        (rest.1, history ++ rest.2)

/-- A run in which nothing happens that its history would tell. -/
def silent (run : Run σ α) : Chronicle σ α :=
  fun world => (run world, [])

def note (moment : Moment σ) : Chronicle σ Unit :=
  fun world => (some ((), world), [(moment, world)])

instance : Hosting σ (Chronicle σ) where
  step := silent
  note := note

instance : Reporting (Chronicle σ) where
  report event := silent (Reporting.report event)
  enter method := silent (Reporting.enter method)
  close := silent Reporting.close

theorem bind_apply (first : Chronicle σ α) (next : α → Chronicle σ β) (world : World σ) :
    (first >>= next) world =
      match first world with
      | (none, history) => (none, history)
      | (some (value, middle), history) =>
          ((next value middle).1, history ++ (next value middle).2) :=
  rfl

theorem step_bind_apply (run : Run σ α) (next : α → Chronicle σ β) (world : World σ) :
    (Hosting.step run >>= next : Chronicle σ β) world =
      match run world with
      | none => (none, [])
      | some (value, middle) => next value middle := by
  show (match (run world, ([] : History σ)) with
    | (none, history) => (none, history)
    | (some (value, middle), history) =>
        ((next value middle).1, history ++ (next value middle).2)) = _
  cases run world <;> rfl

def forgetting : Transport (Chronicle σ) (Run σ) where
  carry chronicle := fun world => (chronicle world).1
  carry_pure _ := rfl
  carry_map change computation := by
    funext world
    rcases ran : computation world with ⟨_ | ⟨value, middle⟩, history⟩
    · simp [Functor.map, StateT.map, ran]
    · simp [Functor.map, StateT.map, ran]
      rfl
  carry_bind first next := by
    funext world
    rcases ran : first world with ⟨_ | ⟨value, middle⟩, history⟩ <;>
      simp [bind, StateT.bind, ran]
  carry_report _ := rfl
  carry_enter _ := rfl
  carry_close := rfl

@[simp] theorem forget_step (run : Run σ α) :
    forgetting.carry (Hosting.step run) = (Hosting.step run : Run σ α) :=
  rfl

@[simp] theorem forget_note (moment : Moment σ) :
    forgetting.carry (Hosting.note moment) = (Hosting.note moment : Run σ Unit) :=
  rfl

/-- Carries the computations of a marshaler into runs that tell their history. -/
def premises : Transport (Conversion σ) (Chronicle σ) where
  carry conversion := silent (World.onPremises conversion)
  carry_pure _ := rfl
  carry_map _ _ := rfl
  carry_bind _ _ := rfl
  carry_report _ := rfl
  carry_enter _ := rfl
  carry_close := rfl

end Chronicle

/-! ## Runs that tell their history -/

variable {σ : Type}

/-- Whether a step can run callbacks. -/
def Operation.calls : Operation σ → Bool
  | .call .. | .invoke .. => true
  | _ => false

/-- Only operations that can run callbacks have a history. -/
theorem Chronicle.run_of_quiet {operation : Operation σ} (quiet : operation.calls = false)
    (environment : CallbackEnvironment (Chronicle σ)) :
    operation.run environment = silent (operation.run (World.environment 0)) := by
  cases operation with
  | call handle context arguments => cases quiet
  | invoke reference request => cases quiet
  | _ => rfl

/-- The environment that tells what happens in it, with calls nested at most
`depth` deep. -/
def World.chronicler : Nat → CallbackEnvironment (Chronicle σ) :=
  CallbackEnvironment.nested

/-! ## Telling changes nothing -/

namespace Chronicle

theorem forget_invoke (environment : CallbackEnvironment (Chronicle σ)) (reference : HandlerRef)
    (call : Native.Call) :
    forgetting.carry (World.invoke environment reference call) =
      World.invoke (environment.lift forgetting.carry) reference call := by
  simp only [World.invoke, forgetting.carry_bind, forget_step, forgetting.carry_intercept]
  rfl

theorem forget_operation (environment : CallbackEnvironment (Chronicle σ))
    (operation : Operation σ) :
    forgetting.carry (operation.run environment) =
      operation.run (environment.lift forgetting.carry) := by
  cases operation with
  | invoke handler request => exact forget_invoke environment handler request
  | _ => rfl

theorem forget_program (environment : CallbackEnvironment (Chronicle σ)) (program : Program σ) :
    forgetting.carry (program.run environment) =
      program.run (environment.lift forgetting.carry) := by
  induction program with
  | done result => rfl
  | read next ih => simp [Program.run, forgetting.carry_bind, ih]
  | write state next ih => simp [Program.run, forgetting.carry_bind, ih]
  | register body next _ ih =>
      simp [Program.run, Hosting.registering, forgetting.carry_bind, forgetting.carry_pure, ih]
  | perform operation next ih =>
      simp [Program.run, Hosting.performing, forgetting.carry_bind, forgetting.carry_pure,
        forget_operation, ih]

theorem forget_start (inner : CallbackEnvironment (Chronicle σ)) (handle : Host.Handle)
    (context : Host.ObjectId) (arguments : List Host.Value) :
    forgetting.carry (World.start inner handle context arguments) =
      World.start (inner.lift forgetting.carry) handle context arguments := by
  simp only [World.start, Hosting.starting, forgetting.carry_bind, forget_step, bind_assoc]
  congr 1
  funext world
  cases world.registry.find? handle with
  | none => rfl
  | some body =>
      simp [forgetting.carry_bind, forgetting.carry_pure, forget_program]

theorem chronicler_call (inner : Nat) (handle : Host.Handle) (context : Host.ObjectId)
    (arguments : List Host.Value) :
    (World.chronicler (inner + 1)).call handle context arguments =
      (World.start (World.chronicler inner) handle context arguments : Chronicle σ _) :=
  rfl

theorem forget_chronicler (depth : Nat) :
    (World.chronicler depth).lift forgetting.carry = (World.environment depth :
      CallbackEnvironment (Run σ)) := by
  induction depth with
  | zero => rfl
  | succ depth ih =>
      have calls (handle : Host.Handle) (context : Host.ObjectId) (arguments : List Host.Value) :
          forgetting.carry ((World.chronicler (depth + 1)).call handle context arguments) =
            (World.environment (depth + 1) : CallbackEnvironment (Run σ)).call handle context
              arguments := by
        rw [chronicler_call, forget_start, ih]
        rfl
      simp only [CallbackEnvironment.lift, calls]

theorem run_program (depth : Nat) (program : Program σ) (world : World σ) :
    (program.run (World.chronicler depth) world).1 =
      program.run (World.environment depth) world := by
  rw [← forget_chronicler, ← forget_program]
  rfl

theorem run_invoke (depth : Nat) (reference : HandlerRef) (call : Native.Call)
    (world : World σ) :
    (World.invoke (World.chronicler depth) reference call world).1 =
      World.invoke (World.environment depth) reference call world := by
  rw [← forget_chronicler, ← forget_invoke]
  rfl

end Chronicle

end Interception
