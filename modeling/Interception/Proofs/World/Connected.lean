import Interception.Proofs.World.Activation
import Interception.Proofs.World.Induction
import Interception.Proofs.World.Operations

/-!
# Connected histories

Each moment of a history leads from the world of the moment before to its own. What
happens between two moments touches only what a marshaler can touch, so everything
else in a world can be read off the history of a run, at each of its moments.
-/

set_option autoImplicit false

namespace Interception

variable {σ α β : Type}

namespace History

def moments (history : History σ) : List (Moment σ) :=
  history.map (·.1)

/-- The world of the last moment, or the one that the history begins with. -/
def latest (start : World σ) : History σ → World σ
  | [] => start
  | (_, point) :: rest => latest point rest

theorem moments_append (earlier later : History σ) :
    moments (earlier ++ later) = moments earlier ++ moments later :=
  List.map_append

theorem latest_snoc (start : World σ) (earlier : History σ) (moment : Moment σ)
    (point : World σ) : latest start (earlier ++ [(moment, point)]) = point := by
  induction earlier generalizing start with
  | nil => rfl
  | cons first earlier ih => exact ih first.2

end History

namespace World

/-- What a moment tells of the world before it and the world right after it. -/
inductive Tells (before : World σ) : Moment σ → World σ → Prop where
  | started (handle : Host.Handle) (context : Host.ObjectId) (arguments : List Host.Value)
      (body : Callback σ) (after : World σ)
      (live : before.registry.find? handle = some body) (counted : before.counted.Alike after) :
      Tells before (.started handle context arguments body) after
  | ended (handle : Host.Handle) (result : Except String Host.Value) (after : World σ)
      (kept : before.Alike after) : Tells before (.ended handle result) after
  | registered (body : Callback σ) (after : World σ)
      (added : Alike { before with registry := before.registry.register body } after) :
      Tells before (.registered before.registry.nextHandle body) after
  /-- A step without calls changes what it does; it has found the premises changed. -/
  | answered (operation : Operation σ) (answer : operation.Answer) (start after : World σ)
      (here : before.Alike start) (does : operation.Does start answer after) :
      Tells before (.performed operation answer) after
  /-- What a call changed was told before its answer. -/
  | called (operation : Operation σ) (answer : operation.Answer) (after : World σ)
      (calls : operation.calls = true) (kept : before.Alike after) :
      Tells before (.performed operation answer) after

theorem Tells.of_alike {before start after : World σ} {moment : Moment σ}
    (here : before.Alike start) (tells : start.Tells moment after) : before.Tells moment after := by
  cases tells with
  | started handle context arguments body _ live counted =>
      obtain ⟨_, rfl⟩ := here
      obtain ⟨premises, rfl⟩ := counted
      exact .started handle context arguments body _ live ⟨premises, rfl⟩
  | ended handle result _ kept => exact .ended handle result _ (here.trans kept)
  | registered body _ added =>
      obtain ⟨_, rfl⟩ := here
      obtain ⟨premises, rfl⟩ := added
      exact .registered body _ ⟨premises, rfl⟩
  | answered operation answer found _ there does =>
      exact .answered operation answer found _ (here.trans there) does
  | called operation answer _ calls kept =>
      exact .called operation answer _ calls (here.trans kept)

/-- The answer of a step without calls, and its effect, are those of the step. -/
theorem Tells.does {before after : World σ} {operation : Operation σ} {answer : operation.Answer}
    (tells : before.Tells (.performed operation answer) after) (quiet : operation.calls = false) :
    ∃ start, before.Alike start ∧ operation.Does start answer after := by
  cases tells with
  | answered _ _ start _ here does => exact ⟨start, here, does⟩
  | called _ _ _ calls =>
      rw [quiet] at calls
      cases calls

/-- A history that leads from one world to another. -/
inductive Connects : World σ → History σ → World σ → Prop where
  | done {before after : World σ} (kept : before.Alike after) : Connects before [] after
  | told {before middle after : World σ} {moment : Moment σ} {rest : History σ}
      (tells : before.Tells moment middle) (goesOn : Connects middle rest after) :
      Connects before ((moment, middle) :: rest) after

namespace Connects

theorem refl (world : World σ) : world.Connects [] world :=
  .done (.refl world)

theorem single {before after : World σ} {moment : Moment σ}
    (tells : before.Tells moment after) : before.Connects [(moment, after)] after :=
  .told tells (.refl after)

theorem of_alike {before start after : World σ} {history : History σ}
    (here : before.Alike start) (connects : start.Connects history after) :
    before.Connects history after := by
  cases connects with
  | done kept => exact .done (here.trans kept)
  | told tells goesOn => exact .told (tells.of_alike here) goesOn

theorem append {before middle after : World σ} {earlier later : History σ}
    (first : before.Connects earlier middle) (second : middle.Connects later after) :
    before.Connects (earlier ++ later) after := by
  induction first with
  | done kept => exact second.of_alike kept
  | told tells _ ih => exact .told tells (ih second)

theorem split {before after : World σ} {earlier later : History σ}
    (connects : before.Connects (earlier ++ later) after) :
    ∃ middle, before.Connects earlier middle ∧ middle.Connects later after := by
  induction earlier generalizing before with
  | nil => exact ⟨before, .refl before, connects⟩
  | cons first earlier ih =>
      cases connects with
      | told tells goesOn =>
          obtain ⟨middle, connected, rest⟩ := ih goesOn
          exact ⟨middle, .told tells connected, rest⟩

/-- Each moment tells of the world that the history before it leads to. -/
theorem tells {before after point : World σ} {earlier later : History σ} {moment : Moment σ}
    (connects : before.Connects (earlier ++ (moment, point) :: later) after) :
    ∃ middle, before.Connects earlier middle ∧ middle.Tells moment point ∧
      point.Connects later after := by
  obtain ⟨middle, connected, rest⟩ := connects.split
  cases rest with
  | told tells goesOn => exact ⟨middle, connected, tells, goesOn⟩

theorem latest {before after : World σ} {history : History σ}
    (connects : before.Connects history after) : (history.latest before).Alike after := by
  induction connects with
  | done kept => exact kept
  | told _ _ ih => exact ih

theorem to_alike {before after here : World σ} {history : History σ}
    (connects : before.Connects history after) (alike : after.Alike here) :
    before.Connects history here := by
  have goesOn := connects.append (.done alike)
  rwa [List.append_nil] at goesOn

/-- What is left of a history leads on from the world of its last moment so far. -/
theorem from_latest {before after : World σ} {earlier later : History σ}
    (connects : before.Connects (earlier ++ later) after) :
    (earlier.latest before).Connects later after := by
  obtain ⟨middle, leads, goesOn⟩ := connects.split
  exact goesOn.of_alike leads.latest

/-- The first part of a history leads to the world of its last moment. -/
theorem to_latest {before after : World σ} {earlier later : History σ}
    (connects : before.Connects (earlier ++ later) after) :
    before.Connects earlier (earlier.latest before) := by
  obtain ⟨middle, leads, -⟩ := connects.split
  exact leads.to_alike leads.latest.symm

end Connects

end World

namespace Chronicle

/-- The history of the run leads from its first world to its last one, if there is
one. -/
def Connected (computation : Chronicle σ α) : Prop :=
  ∀ world, ∃ last, world.Connects (computation world).2 last ∧
    ∀ value after, (computation world).1 = some (value, after) → after = last

theorem Connected.bind {first : Chronicle σ α} {next : α → Chronicle σ β}
    (connected : Connected first) (goesOn : ∀ value, Connected (next value)) :
    Connected (first >>= next) := by
  intro world
  obtain ⟨last, connects, ends⟩ := connected world
  rw [bind_apply]
  rcases ran : first world with ⟨_ | ⟨value, middle⟩, history⟩
  · rw [ran] at connects
    exact ⟨last, connects, nofun⟩
  · rw [ran] at connects ends
    obtain rfl := ends value middle rfl
    obtain ⟨final, rest, finishes⟩ := goesOn value middle
    exact ⟨final, connects.append rest, finishes⟩

/-- Each moment of the run tells of the world that the moments before it lead to. -/
theorem Connected.at_moment {computation : Chronicle σ α} (connected : Connected computation)
    {world point : World σ} {earlier later : History σ} {moment : Moment σ}
    (told : (computation world).2 = earlier ++ (moment, point) :: later) :
    ∃ before, world.Connects earlier before ∧ before.Tells moment point := by
  obtain ⟨last, connects, -⟩ := connected world
  rw [told] at connects
  obtain ⟨before, leads, tells, -⟩ := connects.tells
  exact ⟨before, leads, tells⟩

/-- A run that tells nothing has to keep everything but the premises. -/
theorem Connected.silent {run : Run σ α}
    (kept : ∀ world value after, run world = some (value, after) → world.Alike after) :
    Connected (Chronicle.silent run) := by
  intro world
  rcases ran : run world with _ | ⟨value, after⟩
  · exact ⟨world, .refl world, by simp [Chronicle.silent, ran]⟩
  · refine ⟨after, .done (kept world value after ran), ?_⟩
    rintro _ _ same
    rw [Chronicle.silent, ran] at same
    cases same
    rfl

theorem Connected.pure (value : α) : Connected (Pure.pure value : Chronicle σ α) := by
  refine fun world => ⟨world, .refl world, ?_⟩
  rintro _ _ ⟨⟩
  rfl

end Chronicle

end Interception
