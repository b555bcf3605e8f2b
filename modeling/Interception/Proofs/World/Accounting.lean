import Interception.Proofs.World.Nested

/-!
# How many callbacks were started

The count of invocations is that of the bodies which were started, up to the size of
the counter: at every moment of a run, inside calls as well as outside of them, and
whatever becomes of the bodies. A call that starts no body adds nothing.
-/

set_option autoImplicit false

namespace Interception

variable {σ : Type}

def Moment.starts : Moment σ → Bool
  | .started .. => true
  | _ => false

def starts (told : List (Moment σ)) : Nat :=
  told.countP Moment.starts

theorem starts_append (earlier later : List (Moment σ)) :
    starts (earlier ++ later) = starts earlier + starts later :=
  List.countP_append

/-! ## What a moment adds to the count -/

theorem World.Alike.invocations {left right : World σ} (alike : left.Alike right) :
    left.invocations = right.invocations := by
  obtain ⟨_, rfl⟩ := alike
  rfl

theorem Operation.Does.invocations {operation : Operation σ} {answer : operation.Answer}
    {before after : World σ} (does : operation.Does before answer after) :
    after.invocations = before.invocations := by
  cases does <;> rfl

theorem World.Tells.invocations {before after : World σ} {moment : Moment σ}
    (tells : before.Tells moment after) :
    after.invocations = before.invocations + UInt64.ofNat (starts [moment]) := by
  have unchanged (world : World σ) : world.invocations = world.invocations + UInt64.ofNat 0 :=
    (UInt64.add_zero _).symm
  cases tells with
  | started _ _ _ _ _ _ counted => exact counted.invocations.symm
  | ended _ _ _ kept => exact kept.invocations ▸ unchanged before
  | registered _ _ added => exact added.invocations ▸ unchanged before
  | answered _ _ _ _ here does =>
      rw [does.invocations, ← here.invocations]
      exact unchanged before
  | called _ _ _ _ kept => exact kept.invocations ▸ unchanged before

/-- The induction is on the history: each of its moments adds what it adds. -/
theorem World.Connects.invocations {before after : World σ} {history : History σ}
    (connects : before.Connects history after) :
    after.invocations = before.invocations + UInt64.ofNat (starts history.moments) := by
  induction connects with
  | done kept =>
      rw [← kept.invocations]
      exact (UInt64.add_zero _).symm
  | @told _ middle _ moment rest tells _ ih =>
      have split : History.moments ((moment, middle) :: rest) = [moment] ++ rest.moments := rfl
      rw [ih, tells.invocations, split, starts_append, UInt64.ofNat_add, UInt64.add_assoc]

theorem World.Connects.count {before after : World σ} {history : History σ}
    (connects : before.Connects history after) :
    after.invocations.toNat =
      (before.invocations.toNat + starts history.moments) % UInt64.size := by
  rw [connects.invocations, UInt64.toNat_add, UInt64.toNat_ofNat', Nat.add_mod_mod]

theorem World.Tells.invocationCount_answer {before after : World σ} {answer : UInt64}
    (tells : before.Tells (.performed .invocationCount answer) after) :
    answer = before.invocations := by
  obtain ⟨start, here, does⟩ := tells.does rfl
  cases does
  exact here.invocations.symm

/-! ## What a call adds to the count -/

/-- A call at a handler that starts no callback: it is not intercepted, it is refused,
its arguments cannot be wrapped, or what it is forwarded to is not live. -/
inductive World.Idle (world : World σ) (handler : Handler σ) (call : Native.Call) : Prop where
  | unintercepted (reason : Reason)
      (routed : handler.settings.route (world.boundProxy? handler) call = .unintercepted reason)
  | rejected (routed : handler.settings.route (world.boundProxy? handler) call = .rejected)
  | notWrapped (failure : Failure)
      (refused : (handler.marshaler.wrapArguments call.parameters call.arguments
        (world.retraced (·.enter call.method)).premises).1 = .error failure)
  | notLive (handle : Host.Handle) (context : Host.ObjectId)
      (routed : handler.settings.route (world.boundProxy? handler) call =
        .dispatched handle context)
      (absent : world.registry.find? handle = none)

theorem Activation.starts_history (activation : Activation σ) (depth : Nat) :
    starts (activation.history depth).moments =
      starts (activation.program.run (World.chronicler depth) activation.entry).2.moments
        + 1 := by
  have ended : starts [(.ended activation.handle activation.result : Moment σ)] = 0 := rfl
  rw [history, List.cons_append, ← List.singleton_append, History.moments_append,
    History.moments_append, starts_append, starts_append, Nat.add_comm]
  rfl

/-- What a call adds to the count, where its history is the one inside: nothing, or the
one body that it starts and what is started in there. -/
structure World.Contributes (began : World σ) (idle : Prop) (inside : History σ) : Prop where
  nothing : idle → inside = []
  body : ¬ idle → ∃ (inner : Nat) (activation : Activation σ),
    began.registry.find? activation.handle = some activation.body ∧
      activation.Finishes inner ∧ inside = activation.history inner ∧
      starts inside.moments = starts (activation.program.run (World.chronicler inner)
        activation.entry).2.moments + 1

theorem Chronicle.call_contributes {depth : Nat} {handle : Host.Handle}
    {context : Host.ObjectId} {arguments : List Host.Value} {began after : World σ}
    {reply : Except Failure Host.Value} {inside : History σ}
    (finished : (World.chronicler depth).call handle context arguments began =
      (some (reply, after), inside)) :
    began.Contributes (began.registry.find? handle = none) inside := by
  rcases call_cases finished with ⟨absent, -, -, rfl⟩ |
    ⟨inner, body, result, -, live, finishes, -, rfl⟩
  · exact ⟨fun _ => rfl, fun present => absurd absent present⟩
  · refine ⟨fun absent => ?_, fun _ => ⟨inner, _, live, finishes, rfl, ?_⟩⟩
    · rw [live] at absent
      cases absent
    · exact Activation.starts_history _ inner

theorem World.Passage.contributes {depth : Nat} {handler : Handler σ} {call : Native.Call}
    {began after : World σ} {outcome : Except Failure Native.Value} {inside : History σ}
    (passage : Passage (World.chronicler depth) handler call began outcome after inside) :
    began.Contributes (began.Idle handler call) inside := by
  cases passage with
  | unintercepted reason routed =>
      exact ⟨fun _ => rfl, fun busy => absurd (.unintercepted reason routed) busy⟩
  | rejected routed => exact ⟨fun _ => rfl, fun busy => absurd (.rejected routed) busy⟩
  | notWrapped _ _ failure _ _ refused =>
      exact ⟨fun _ => rfl, fun busy => absurd (.notWrapped failure (congrArg (·.1) refused)) busy⟩
  | answered handle context arguments _ _ _ _ _ _ routed wrapped answered _ =>
      have asked := Chronicle.call_contributes answered
      refine ⟨fun idle => ?_, fun busy => ?_⟩
      · cases idle with
        | unintercepted reason other =>
            rw [routed] at other
            cases other
        | rejected other =>
            rw [routed] at other
            cases other
        | notWrapped failure refused =>
            rw [wrapped] at refused
            cases refused
        | notLive _ _ other absent =>
            rw [routed] at other
            cases other
            exact asked.nothing absent
      · exact asked.body fun absent => busy (.notLive handle context routed absent)

/-! ## Whole runs -/

/-- What one moment of a run tells of the count, after what the run told before. -/
structure World.Counts (start : World σ) (earlier : History σ) (moment : Moment σ)
    (point : World σ) : Prop where
  counted : point.invocations.toNat =
    (start.invocations.toNat + starts (earlier.moments ++ [moment])) % UInt64.size
  looked : ∀ answer : UInt64, moment = .performed .invocationCount answer →
    answer.toNat = (start.invocations.toNat + starts earlier.moments) % UInt64.size
  called : ∀ handle context arguments (answer : Except Failure Host.Value),
    moment = .performed (.call handle context arguments) answer →
      ∃ depth prior inside began, earlier = prior ++ inside ∧ (prior.latest start).Alike began ∧
        (World.chronicler depth).call handle context arguments began =
          (some (answer, point), inside) ∧
        began.Contributes (began.registry.find? handle = none) inside
  invoked : ∀ reference call (answer : Except Failure Native.Value),
    moment = .performed (.invoke reference call) answer →
      ∃ depth prior inside began handler, earlier = prior ++ inside ∧
        (prior.latest start).Alike began ∧
        World.invoke (World.chronicler depth) reference call began =
          (some (answer, point), inside) ∧
        began.handler? reference = some handler ∧
        began.Contributes (began.Idle handler call) inside

namespace World

/-- Throughout a run, the count is that of the bodies which were started in it. -/
theorem invocations_counted (depth : Nat) (program : Program σ) (start : World σ) :
    let history := (program.run (World.chronicler depth) start).2
    (∀ earlier moment point later, history = earlier ++ (moment, point) :: later →
      start.Counts earlier moment point) ∧
    ∀ result after, program.run (World.environment depth) start = some (result, after) →
      after.invocations.toNat =
        (start.invocations.toNat + starts history.moments) % UInt64.size := by
  intro history
  have recounts := Chronicle.recounts_stepwise.program depth program
  refine ⟨?moments, ?ended⟩
  case moments =>
    intro earlier moment point later split
    obtain ⟨before, leads, tells, encloses⟩ := recounts.at_moment split
    refine ⟨?_, ?_, ?_, ?_⟩
    · have through := (leads.append (.single tells)).count
      rwa [History.moments_append] at through
    · rintro answer rfl
      rw [tells.invocationCount_answer]
      exact leads.count
    · rintro handle context arguments answer rfl
      obtain ⟨inner, began, prior, inside, rfl, connects, ran⟩ :=
        encloses (.call handle context arguments) answer rfl
      exact ⟨inner, prior, inside, began, rfl, connects.latest, ran,
        Chronicle.call_contributes ran⟩
    · rintro reference call answer rfl
      obtain ⟨inner, began, prior, inside, rfl, connects, ran⟩ :=
        encloses (.invoke reference call) answer rfl
      obtain ⟨handler, present⟩ := Chronicle.handler_of_invoke ran
      exact ⟨inner, prior, inside, began, handler, rfl, connects.latest, ran, present,
        (Chronicle.invoke_passage present ran).contributes⟩
  case ended =>
    intro result after ran
    obtain ⟨last, connects, ends⟩ := recounts.connected start
    obtain rfl := ends result after (by rw [Chronicle.run_program, ran])
    exact connects.count

/-- Asks for the count, and fails. -/
def census : Callback Unit := fun _ _ _ =>
  .perform .invocationCount fun _ => .done (.error "counted")

/-- Calls a callback that fails and one that was never registered, and asks for the
count. -/
def survey : Program Unit :=
  .register census fun handle =>
    .perform (.call handle ⟨7⟩ []) fun _ =>
      .perform (.call ⟨9⟩ ⟨7⟩ []) fun _ =>
        .perform .invocationCount fun _ => .done (.ok .null)

/-- The count wraps with the next callback that is started. -/
def brimming : World Unit where
  invocations := 0xFFFFFFFFFFFFFFFF
  premises := { state := () }

theorem invocations_counted_survey :
    let history := (survey.run (World.chronicler 1) brimming).2
    (∃ (earlier : History Unit) (point : World Unit) (later : History Unit),
      history = earlier ++ (.performed .invocationCount (0 : UInt64), point) :: later ∧
      starts earlier.moments = 1 ∧
      (0 : UInt64).toNat = (brimming.invocations.toNat + 1) % UInt64.size) ∧
    ∃ (earlier : History Unit) (point : World Unit) (later : History Unit)
      (prior inside : History Unit) (began : World Unit),
      history = earlier ++
        (.performed (.call ⟨9⟩ ⟨7⟩ []) (.error (.unknownCallback ⟨9⟩)), point) :: later ∧
      earlier = prior ++ inside ∧ (prior.latest brimming).Alike began ∧
      (began.registry.find? ⟨9⟩ = none → inside = []) ∧
      point.invocations.toNat = (brimming.invocations.toNat + 1) % UInt64.size := by
  intro history
  obtain ⟨counts, -⟩ := invocations_counted 1 survey brimming
  have asked : ∃ (earlier : History Unit) (point : World Unit) (later : History Unit),
      history = earlier ++ (.performed .invocationCount (0 : UInt64), point) :: later ∧
      starts earlier.moments = 1 := by
    refine ⟨[_, _], _, [_, _, _, _], rfl, ?_⟩
    rfl
  have unknown : ∃ (earlier : History Unit) (point : World Unit) (later : History Unit),
      history = earlier ++
        (.performed (.call ⟨9⟩ ⟨7⟩ []) (.error (.unknownCallback ⟨9⟩)), point) :: later ∧
      starts (earlier.moments ++
        [.performed (.call ⟨9⟩ ⟨7⟩ []) (.error (.unknownCallback ⟨9⟩))]) = 1 := by
    refine ⟨[_, _, _, _, _], _, [_], rfl, ?_⟩
    rfl
  obtain ⟨before, point, later, told, once⟩ := asked
  obtain ⟨earlier, left, rest, refused, still⟩ := unknown
  refine ⟨⟨before, point, later, told, once, ?_⟩, ?_⟩
  · have looked := (counts _ _ _ _ told).looked 0 rfl
    rwa [once] at looked
  · obtain ⟨-, prior, inside, began, split, alike, -, adds⟩ :=
      (counts _ _ _ _ refused).called ⟨9⟩ ⟨7⟩ [] _ rfl
    have counted := (counts _ _ _ _ refused).counted
    rw [still] at counted
    exact ⟨earlier, left, rest, prior, inside, began, refused, split, alike, adds.nothing, counted⟩

end World

end Interception
