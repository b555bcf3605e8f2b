import Interception.Session.Programs
import Interception.World.Run

/-!
# Sessions

A session runs steps one after another on one world. Each step leaves a row: its
answer, the journal and the events of its run, and the count of callbacks started
so far. A step that fails does not end the session.
-/

set_option autoImplicit false

namespace Interception.Session

variable {ρ : Type}

/-- Calls may be nested this deep. -/
def callDepth : Nat :=
  1000000

structure Row (ρ : Type) where
  answer : Answer ρ
  journal : List Record
  invocations : UInt64
  trace : List TraceEntry

def Step.answering (step : Step ρ) : Program (Desk ρ) :=
  step.program fun answer =>
    change (fun desk => { desk with answer := some answer }) (.done (.ok .null))

abbrev SessionWorld (ρ : Type) := World (Desk ρ)

def start : SessionWorld ρ where
  premises := { state := {} }

def fresh (world : SessionWorld ρ) : SessionWorld ρ :=
  let desk := { world.premises.state with journal := [], answer := none }
  { world with premises := ⟨desk, {}⟩ }

/-- Runs one step. A step without outcome leaves the world as it was. -/
def perform (step : Step ρ) (world : SessionWorld ρ) : Row ρ × SessionWorld ρ :=
  let before := fresh world
  match (step.answering.run (World.environment callDepth)).run before with
  | none => (⟨.unreadable "the step has no outcome", [], before.invocations, []⟩, before)
  | some (_, after) =>
      let desk := after.premises.state
      (⟨desk.answer.getD .nothing, desk.journal, after.invocations,
        after.premises.trace.entries⟩, after)

/-- Runs steps in order. -/
def performAll : List (Step ρ) → SessionWorld ρ → List (Row ρ) × SessionWorld ρ
  | [], world => ([], world)
  | step :: steps, world =>
      let (row, next) := perform step world
      let (rows, last) := performAll steps next
      (row :: rows, last)

end Interception.Session
