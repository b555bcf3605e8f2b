import Interception.Proofs.World.Nested
import Interception.Proofs.World.Registry

/-!
# Callbacks over whole runs

A run that begins with no callbacks numbers them as they are registered. At each of
its moments, inside calls as well as outside of them, the live callbacks are those
that were registered and not removed since, and calls run these or fail.
-/

set_option autoImplicit false

namespace Interception

variable {σ : Type}

namespace World.Connects

/-- What holds of the registry at the beginning goes on to hold with what is told. -/
theorem reflects {before after : World σ} {history : History σ}
    (connects : before.Connects history after) {told : List (Moment σ)}
    (reflects : before.registry.Reflects told)
    (few : registrations (told ++ history.moments) < UInt64.size - 1) :
    after.registry.Reflects (told ++ history.moments) := by
  induction connects generalizing told with
  | done kept => simpa [History.moments, kept.registry] using reflects
  | @told _ middle _ moment rest tells _ ih =>
      have split : told ++ History.moments ((moment, middle) :: rest) =
          (told ++ [moment]) ++ History.moments rest := by simp [History.moments]
      rw [split] at few ⊢
      refine ih (tells.reflects reflects ?_) few
      rw [registrations_append] at few
      omega

end World.Connects

/-! ## What is live -/

/-- A registry that holds the callbacks which are live after what was told. -/
structure Registry.Holds (registry : Registry σ) (told : List (Moment σ)) : Prop where
  found : ∀ handle body, registry.find? handle = some body ↔ Live told handle body
  contained : ∀ handle, registry.contains handle = true ↔ ∃ body, Live told handle body
  counted : ∃ handles : List Host.Handle, handles.Nodup ∧ handles.length = registry.size ∧
    ∀ handle, handle ∈ handles ↔ ∃ body, Live told handle body

theorem Registry.Reflects.holds {registry : Registry σ} {told : List (Moment σ)}
    (reflects : registry.Reflects told) : registry.Holds told where
  found := reflects.found
  contained handle := by
    rw [registry.contains_iff]
    exact exists_congr (reflects.found handle)
  counted := by
    refine ⟨registry.live.map (·.1), reflects.distinct, List.length_map _, fun handle => ?_⟩
    rw [registry.mem_handles_iff]
    exact exists_congr (reflects.found handle)

/-- How a call through a handle is answered, and what is told of it: the body that is
live under the handle runs, or none does. -/
structure Answered (told : List (Moment σ)) (handle : Host.Handle) (context : Host.ObjectId)
    (arguments : List Host.Value) (reply : Except Failure Host.Value) (inside : History σ) :
    Prop where
  live : ∀ body, Live told handle body → ∃ inner entry result left,
    let activation : Activation σ := ⟨handle, context, arguments, body, entry, result, left⟩
    activation.Finishes inner ∧ reply = activation.reply ∧ inside = activation.history inner
  unknown : (∀ body, ¬ Live told handle body) →
    reply = .error (.unknownCallback handle) ∧ inside = []
  gone : .performed (.unregister handle) true ∈ told →
    reply = .error (.unknownCallback handle) ∧ inside = []

theorem answered_of_call {depth : Nat} {handle : Host.Handle} {context : Host.ObjectId}
    {arguments : List Host.Value} {start after : World σ} {reply : Except Failure Host.Value}
    {inside : History σ} {told : List (Moment σ)} (reflects : start.registry.Reflects told)
    (asked : (World.chronicler depth).call handle context arguments start =
      (some (reply, after), inside)) :
    Answered told handle context arguments reply inside := by
  rcases Chronicle.call_cases asked with ⟨absent, rfl, -, rfl⟩ |
    ⟨inner, body, result, -, present, finishes, rfl, rfl⟩
  · refine ⟨fun body live => ?_, fun _ => ⟨rfl, rfl⟩, fun _ => ⟨rfl, rfl⟩⟩
    rw [(reflects.found handle body).mpr live] at absent
    cases absent
  · have here := (reflects.found handle body).mp present
    refine ⟨fun other live => ?_, fun dead => absurd here (dead body),
      fun removed => absurd here ((reflects.gone handle removed).2 body)⟩
    rw [(reflects.found handle other).mpr live] at present
    cases present
    exact ⟨inner, _, result, _, finishes, rfl, rfl⟩

/-! ## Whole runs -/

/-- What one moment of a run tells of the callbacks, after what the run told before. -/
structure World.Tracks (start : World σ) (earlier : History σ) (moment : Moment σ)
    (point : World σ) : Prop where
  holds : point.registry.Holds (earlier.moments ++ [moment])
  unchanged : moment.changesRegistry = false →
    point.registry = (earlier.latest start).registry
  numbered : ∀ handle body, moment = .registered handle body →
    handle.raw.toNat = registrations earlier.moments + 1
  removed : ∀ handle (answer : Bool), moment = .performed (.unregister handle) answer →
    (answer = true ↔ ∃ body, Live earlier.moments handle body)
  looked : ∀ handle (answer : Bool), moment = .performed (.contains handle) answer →
    (answer = true ↔ ∃ body, Live earlier.moments handle body)
  counted : ∀ answer : Nat, moment = .performed .callbackCount answer →
    ∃ handles : List Host.Handle, handles.Nodup ∧ handles.length = answer ∧
      ∀ handle, handle ∈ handles ↔ ∃ body, Live earlier.moments handle body
  started : ∀ handle context arguments body, moment = .started handle context arguments body →
    Live earlier.moments handle body
  gone : ∀ handle, .performed (.unregister handle) true ∈ earlier.moments ++ [moment] →
    ∀ body, ¬ Live (earlier.moments ++ [moment]) handle body
  called : ∀ handle context arguments (answer : Except Failure Host.Value),
    moment = .performed (.call handle context arguments) answer →
      ∃ depth prior inside began, earlier = prior ++ inside ∧ (prior.latest start).Alike began ∧
        (World.chronicler depth).call handle context arguments began =
          (some (answer, point), inside) ∧
        Answered prior.moments handle context arguments answer inside
  /-- An invocation that is forwarded asks for a callback in the same way. -/
  invoked : ∀ reference call (answer : Except Failure Native.Value),
    moment = .performed (.invoke reference call) answer →
      ∃ depth prior inside began handler, earlier = prior ++ inside ∧
        (prior.latest start).Alike began ∧
        World.invoke (World.chronicler depth) reference call began =
          (some (answer, point), inside) ∧
        began.handler? reference = some handler ∧
        ∀ handle context arguments,
          handler.settings.route (began.boundProxy? handler) call = .dispatched handle context →
          (handler.marshaler.wrapArguments call.parameters call.arguments
            (began.retraced (·.enter call.method)).premises).1 = .ok arguments →
          ∃ reply, Answered prior.moments handle context arguments reply inside ∧
            ∀ failure, reply = .error failure → answer = .error failure

namespace World

/-- What is told right before a moment, and of the operations that led to it, tells
the callbacks at that moment. -/
theorem Tells.tracks {start before point : World σ} {earlier : History σ} {moment : Moment σ}
    (tells : before.Tells moment point) (leads : start.Connects earlier before)
    (known : ∀ prior inside began, earlier = prior ++ inside → start.Connects prior began →
      began.registry.Reflects prior.moments)
    (few : registrations (earlier.moments ++ [moment]) < UInt64.size - 1)
    (encloses : ∀ operation answer, moment = .performed operation answer →
      ∃ depth began prior inside, earlier = prior ++ inside ∧ start.Connects prior began ∧
        operation.run (World.chronicler depth) began = (some (answer, point), inside)) :
    start.Tracks earlier moment point := by
  have here : before.registry.Reflects earlier.moments :=
    known earlier [] before (List.append_nil _).symm leads
  have now : point.registry.Reflects (earlier.moments ++ [moment]) := tells.reflects here few
  exact {
    holds := now.holds
    unchanged := fun unchanged => by
      rw [tells.registry, Registry.after_of_unchanged _ unchanged, leads.latest.registry]
    numbered := by
      rintro handle body rfl
      rw [tells.registered_handle]
      exact here.next
    removed := by
      rintro handle answer rfl
      rw [tells.unregister_answer]
      exact here.holds.contained handle
    looked := by
      rintro handle answer rfl
      rw [tells.contains_answer]
      exact here.holds.contained handle
    counted := by
      rintro answer rfl
      rw [tells.callbackCount_answer]
      exact here.holds.counted
    started := by
      rintro handle context arguments body rfl
      exact (here.found handle body).mp tells.started_live
    gone := fun handle removed => (now.gone handle removed).2
    called := by
      rintro handle context arguments answer rfl
      obtain ⟨depth, began, prior, inside, rfl, connects, ran⟩ :=
        encloses (.call handle context arguments) answer rfl
      exact ⟨depth, prior, inside, began, rfl, connects.latest, ran,
        answered_of_call (known prior inside began rfl connects) ran⟩
    invoked := by
      rintro reference call answer rfl
      obtain ⟨depth, began, prior, inside, rfl, connects, ran⟩ :=
        encloses (.invoke reference call) answer rfl
      obtain ⟨handler, present⟩ := Chronicle.handler_of_invoke ran
      refine ⟨depth, prior, inside, began, handler, rfl, connects.latest, ran, present, ?_⟩
      intro handle context arguments routed wrapped
      obtain ⟨asked, reply, left, alike, answered, failing⟩ :=
        (Chronicle.invoke_passage present ran).asks routed wrapped
      have reflects := known prior inside began rfl connects
      exact ⟨reply, answered_of_call (alike.registry ▸ reflects) answered, failing⟩ }

/-- In a run that begins without callbacks, every moment tells of the callbacks what
follows from the moments before it. -/
theorem callbacks_tracked (depth : Nat) (program : Program σ) (start : World σ)
    (empty : start.registry = {})
    (few : registrations (program.run (World.chronicler depth) start).2.moments <
      UInt64.size - 1) :
    let history := (program.run (World.chronicler depth) start).2
    (∀ earlier moment point later, history = earlier ++ (moment, point) :: later →
      start.Tracks earlier moment point) ∧
    ∀ result after, program.run (World.environment depth) start = some (result, after) →
      after.registry.Holds history.moments := by
  intro history
  obtain ⟨connected, encloses⟩ := Chronicle.recounts_stepwise.program depth program
  obtain ⟨last, connects, ends⟩ := connected start
  change start.Connects history last at connects
  have fewBefore (earlier later : History σ) (split : history = earlier ++ later) :
      registrations earlier.moments < UInt64.size - 1 := by
    have bound : registrations history.moments < UInt64.size - 1 := few
    rw [split, History.moments_append, registrations_append] at bound
    omega
  have known (earlier later : History σ) (here : World σ) (split : history = earlier ++ later)
      (leads : start.Connects earlier here) : here.registry.Reflects earlier.moments := by
    have begins : start.registry.Reflects [] := empty ▸ .start
    exact leads.reflects begins (fewBefore earlier later split)
  refine ⟨fun earlier moment point later split => ?_, fun result after ran => ?_⟩
  · have through : start.Connects (earlier ++ (moment, point) :: later) last := split ▸ connects
    obtain ⟨before, leads, tells, -⟩ := through.tells
    refine tells.tracks leads (fun prior inside began same => ?_) ?_ ?_
    · exact known prior (inside ++ (moment, point) :: later) began (by rw [split, same]; simp)
    · have few := fewBefore (earlier ++ [(moment, point)]) later (by rw [split]; simp)
      rwa [History.moments_append] at few
    · rintro operation answer rfl
      exact encloses start earlier operation answer point later split
  · obtain rfl := ends result after (by rw [Chronicle.run_program, ran])
    exact (known history [] after (List.append_nil _).symm connects).holds

/-- Unregisters itself. -/
def leaving : Callback Unit := fun handle _ _ =>
  .perform (.unregister handle) fun _ => .done (.ok .null)

/-- Calls a callback that leaves twice, with another one registered in between. -/
def turnover : Program Unit :=
  .register leaving fun first =>
    .perform (.call first ⟨7⟩ []) fun _ =>
      .register leaving fun _ =>
        .perform (.call first ⟨7⟩ []) fun _ => .done (.ok .null)

theorem callbacks_tracked_turnover :
    let start : World Unit := { premises := { state := () } }
    let history := (turnover.run (World.chronicler 1) start).2
    start.registry = {} ∧ registrations history.moments < UInt64.size - 1 ∧
    (∃ (earlier : History Unit) (point : World Unit) (later : History Unit),
      history = earlier ++ (.registered ⟨2⟩ leaving, point) :: later ∧
      registrations earlier.moments + 1 = 2) ∧
    ∃ (earlier : History Unit) (point : World Unit),
      history = earlier ++
        [(.performed (.call ⟨1⟩ ⟨7⟩ []) (.error (.unknownCallback ⟨1⟩)), point)] ∧
      Moment.performed (.unregister ⟨1⟩) true ∈ earlier.moments ∧
      ∃ prior inside, earlier = prior ++ inside ∧
        Answered prior.moments ⟨1⟩ ⟨7⟩ [] (.error (.unknownCallback ⟨1⟩)) inside := by
  intro start history
  have few : registrations history.moments < UInt64.size - 1 := by
    show 2 < UInt64.size - 1
    decide
  obtain ⟨tracks, -⟩ := callbacks_tracked 1 turnover start rfl few
  have second : ∃ (earlier : History Unit) (point : World Unit) (later : History Unit),
      history = earlier ++ (.registered ⟨2⟩ leaving, point) :: later :=
    ⟨[_, _, _, _, _], _, _, rfl⟩
  have unknown : ∃ (earlier : History Unit) (point : World Unit), history = earlier ++
        [(.performed (.call ⟨1⟩ ⟨7⟩ []) (.error (.unknownCallback ⟨1⟩)), point)] ∧
      Moment.performed (.unregister ⟨1⟩) true ∈ earlier.moments :=
    ⟨[_, _, _, _, _, _], _, rfl, .tail _ (.tail _ (.head _))⟩
  obtain ⟨before, point, later, numbered⟩ := second
  obtain ⟨earlier, last, answered, removed⟩ := unknown
  refine ⟨rfl, few, ⟨before, point, later, numbered, ?_⟩, earlier, last, answered, removed, ?_⟩
  · exact ((tracks _ _ _ _ numbered).numbered ⟨2⟩ leaving rfl).symm
  · obtain ⟨-, prior, inside, -, split, -, -, said⟩ :=
      (tracks _ _ _ _ answered).called ⟨1⟩ ⟨7⟩ [] _ rfl
    exact ⟨prior, inside, split, said⟩

end World

end Interception
