import Interception.Proofs.World.Connected
import Interception.Proofs.World.Frame

/-!
# What runs add to a trace

A run adds lines to the trace. None of them stands above the spans that were open
when the run began, and these are open again when it ends; the failures among the
lines are those of the invocations that it made. Both are shown of every run at
once, for any relation between traces that goes along reports and closed spans.

Marshalers that are not of this library have to do their part: they close the spans
that they enter, and leave it to invocations to report failures.
-/

set_option autoImplicit false

namespace Interception

variable {σ α β : Type}

/-! ## Lines below the open spans -/

def TraceEntry.spans : TraceEntry → List String
  | .event spans _ => spans
  | .entered spans => spans
  | .closed spans => spans

def TraceEntry.failed : TraceEntry → Bool
  | .event _ (.failed ..) => true
  | _ => false

namespace Trace

@[simp] theorem spans_enter (method : String) (trace : Trace) :
    (trace.enter method).spans = trace.spans ++ [method] :=
  rfl

/-- The later trace adds the lines below the spans that are open, and these are open
again after them. -/
structure Extends (before after : Trace) (lines : List TraceEntry) : Prop where
  entries : after.entries = before.entries ++ lines
  spans : after.spans = before.spans
  below : ∀ line ∈ lines, before.spans <+: line.spans

theorem Extends.refl (trace : Trace) : trace.Extends trace [] :=
  ⟨(List.append_nil _).symm, rfl, nofun⟩

theorem Extends.trans {first second third : Trace} {earlier later : List TraceEntry}
    (left : first.Extends second earlier) (right : second.Extends third later) :
    first.Extends third (earlier ++ later) where
  entries := by rw [right.entries, left.entries, List.append_assoc]
  spans := right.spans.trans left.spans
  below line added := by
    rcases List.mem_append.mp added with before | after
    · exact left.below line before
    · exact left.spans ▸ right.below line after

theorem Extends.report (event : Event) (trace : Trace) :
    trace.Extends (trace.report event) [.event trace.spans event] where
  entries := trace.entries_report event
  spans := rfl
  below line added := by
    obtain rfl := List.mem_singleton.mp added
    exact List.prefix_refl _

theorem Extends.reportAll (events : List Event) (trace : Trace) :
    trace.Extends (trace.reportAll events) (events.map (.event trace.spans)) := by
  induction events generalizing trace with
  | nil => exact .refl trace
  | cons event events ih => exact (Extends.report event trace).trans (ih (trace.report event))

/-- What is added below a span of its own is added between its two ends. -/
theorem Extends.enclosed {method : String} {before after : Trace} {lines : List TraceEntry}
    (inside : (before.enter method).Extends after lines) :
    before.Extends after.close
      (.entered (before.spans ++ [method]) :: lines ++ [.closed (before.spans ++ [method])]) where
  entries := by
    rw [entries_close, inside.entries, entries_enter, inside.spans]
    simp [enter]
  spans := by simp [close, inside.spans, enter]
  below line added := by
    have above : before.spans <+: before.spans ++ [method] := List.prefix_append _ _
    rw [List.mem_append, List.mem_cons, List.mem_singleton] at added
    rcases added with (rfl | within) | rfl
    · exact above
    · exact above.trans (inside.below line within)
    · exact above

def failures (trace : Trace) : Nat :=
  trace.entries.countP TraceEntry.failed

end Trace

/-! ## Relations that count failures -/

def Event.failures : Event → Nat
  | .failed .. => 1
  | _ => 0

/-- A relation between traces that goes along reports and closed spans, with the
number of failures that are reported on the way. -/
structure Trace.Tally (relation : Nat → Trace → Trace → Prop) : Prop where
  refl (trace : Trace) : relation 0 trace trace
  trans {first second third : Trace} {earlier later : Nat} (left : relation earlier first second)
    (right : relation later second third) : relation (earlier + later) first third
  report (event : Event) (trace : Trace) : relation event.failures trace (trace.report event)
  enclosed {method : String} {before after : Trace} {count : Nat}
    (inside : relation count (before.enter method) after) : relation count before after.close

theorem Trace.tally_extends :
    Tally fun _ before after => ∃ lines, Trace.Extends before after lines where
  refl trace := ⟨[], .refl trace⟩
  trans := by
    rintro _ _ _ _ _ ⟨earlier, left⟩ ⟨later, right⟩
    exact ⟨earlier ++ later, left.trans right⟩
  report event trace := ⟨_, .report event trace⟩
  enclosed := by
    rintro _ _ _ _ ⟨lines, inside⟩
    exact ⟨_, inside.enclosed⟩

theorem Trace.tally_failures :
    Tally fun count before after => after.failures = before.failures + count where
  refl _ := rfl
  trans left right := by rw [right, left, Nat.add_assoc]
  report event trace := by
    cases event <;> simp [failures, TraceEntry.failed, Event.failures]
  enclosed inside := by
    simpa [failures, TraceEntry.failed] using inside

theorem Trace.Tally.reportAll {relation : Nat → Trace → Trace → Prop}
    (tally : Tally relation) (event : α → Event) (faultless : ∀ item, (event item).failures = 0)
    (items : List α) (trace : Trace) :
    relation 0 trace (trace.reportAll (items.map event)) := by
  induction items generalizing trace with
  | nil => exact tally.refl trace
  | cons item items ih =>
      have first := tally.report (event item) trace
      rw [faultless item] at first
      exact tally.trans first (ih _)

/-! ## Marshalers -/

/-- The conversion leads between related traces. -/
def Conversion.Keeps (relation : Trace → Trace → Prop) (conversion : Conversion σ α) : Prop :=
  ∀ premises, relation premises.trace (conversion premises).2.trace

structure Marshaler.Keeps (relation : Trace → Trace → Prop)
    (marshaler : Marshaler (Conversion σ)) : Prop where
  wrapArguments (parameters : List Native.Ty) (arguments : List Native.Value) :
    Conversion.Keeps relation (marshaler.wrapArguments parameters arguments)
  unwrap (value : Host.Value) : Conversion.Keeps relation (marshaler.unwrap value)
  coerce (value : Native.Value) (target : Native.Ty) :
    Conversion.Keeps relation (marshaler.coerce value target)

section

variable {relation : Nat → Trace → Trace → Prop} (tally : Trace.Tally relation)

include tally

theorem Conversion.Keeps.bind {first : Conversion σ α} {next : α → Conversion σ β}
    (keeps : Conversion.Keeps (relation 0) first)
    (goesOn : ∀ value, Conversion.Keeps (relation 0) (next value)) :
    Conversion.Keeps (relation 0) (first >>= next) :=
  fun premises => tally.trans (keeps premises) (goesOn _ _)

/-- What a marshaler keeps, it keeps while it brings a call to its end. -/
theorem Marshaler.Keeps.conclude {marshaler : Marshaler (Conversion σ)}
    (keeps : marshaler.Keeps (relation 0)) (settings : Settings) (call : Native.Call)
    (reply : Except Failure Host.Value) :
    Conversion.Keeps (relation 0) (marshaler.conclude settings call reply) := by
  have kept {α : Type} (value : α) : Conversion.Keeps (relation 0) (pure value : Conversion σ α) :=
    fun premises => tally.refl premises.trace
  cases reply with
  | error failure => exact kept _
  | ok answer =>
      refine .bind tally (keeps.unwrap answer) fun unwrapped => ?_
      cases unwrapped with
      | error failure => exact kept _
      | ok value =>
          cases call.returns with
          | none => exact kept _
          | some returns =>
              cases settings.coerceReturns with
              | false => exact kept _
              | true => exact keeps.coerce value returns

theorem Marshaler.standard_keeps :
    (Marshaler.standard : Marshaler (Conversion σ)).Keeps (relation 0) where
  wrapArguments _ _ premises := tally.refl premises.trace
  unwrap _ premises := tally.refl premises.trace
  coerce value target premises := by
    show relation 0 _ ((reportCoercion value target : Conversion σ _) premises).2.trace
    rw [Conversion.reportCoercion_apply]
    exact tally.reportAll .converting (fun _ => rfl) _ _

end

/-- All marshalers of handlers in the world keep the relation. -/
def World.Keeps (relation : Trace → Trace → Prop) (world : World σ) : Prop :=
  ∀ reference handler, world.handler? reference = some handler → handler.marshaler.Keeps relation

theorem World.Keeps.before {relation : Trace → Trace → Prop} {before after : World σ}
    (keeps : after.Keeps relation) (reached : before.Reaches after) : before.Keeps relation := by
  intro reference handler present
  obtain ⟨later, there, -, same⟩ := reached.handler_kept present
  exact same ▸ keeps reference later there

theorem World.keeps_of_standard {relation : Nat → Trace → Trace → Prop}
    (tally : Trace.Tally relation) {world : World σ}
    (standard : ∀ handler ∈ world.handlers, handler.marshaler = .standard) :
    world.Keeps (relation 0) := by
  intro reference handler present
  rw [standard handler (List.mem_of_getElem? present)]
  exact Marshaler.standard_keeps tally

/-! ## Runs -/

/-- Whether the moment is the end of an invocation that failed. -/
def Moment.failsInvocation : Moment σ → Bool
  | .performed (.invoke _ _) (.error _) => true
  | _ => false

def refusals (told : List (Moment σ)) : Nat :=
  told.countP Moment.failsInvocation

theorem refusals_append (earlier later : List (Moment σ)) :
    refusals (earlier ++ later) = refusals earlier + refusals later :=
  List.countP_append

section

variable {relation : Nat → Trace → Trace → Prop} (tally : Trace.Tally relation)

include tally

theorem Operation.Does.related {operation : Operation σ} {answer : operation.Answer}
    {before after : World σ} (does : operation.Does before answer after) :
    relation 0 before.premises.trace after.premises.trace := by
  cases does with
  | bound _ _ handler proxy => exact tally.report (.bound proxy.className handler.proxy.isSome) _
  | coerce => exact tally.reportAll .converting (fun _ => rfl) _ _
  | validated => exact tally.reportAll .overrideIgnored (fun _ => rfl) _ _
  | _ => exact tally.refl _

/-- An invocation reports its own failure, besides what its callback does. -/
theorem World.Passage.related {environment : CallbackEnvironment (Chronicle σ)}
    {reference : HandlerRef} {call : Native.Call} {handler : Handler σ} {before after : World σ}
    {outcome : Except Failure Native.Value} {inside : History σ}
    (passage : Passage environment handler call before outcome after inside)
    (keeps : handler.marshaler.Keeps (relation 0))
    (answers : ∀ handle context arguments asked reply left,
      environment.call handle context arguments asked = (some (reply, left), inside) →
        left.handlers = after.handlers →
          relation (refusals inside.moments) asked.premises.trace left.premises.trace) :
    relation (refusals (inside.moments ++ [.performed (.invoke reference call) outcome]))
      before.premises.trace after.premises.trace := by
  have ended (trace : Trace) :
      relation (refusals [(.performed (.invoke reference call) outcome : Moment σ)]) trace
        (trace.reportAll (call.ending outcome)) := by
    have completed := tally.report (.completed call.method) trace
    cases outcome with
    | ok value => exact completed
    | error failure => exact tally.trans completed (tally.report (.failed call.method failure) _)
  rw [refusals_append]
  cases passage with
  | unintercepted reason =>
      exact tally.enclosed (tally.report (.unintercepted call.method reason) _)
  | rejected => exact tally.enclosed (tally.report (.failed call.method _) _)
  | notWrapped handle context failure premises routed refused =>
      have wraps := keeps.wrapArguments call.parameters call.arguments
        (before.retraced (·.enter call.method)).premises
      rw [refused] at wraps
      exact tally.enclosed (tally.trans wraps (ended _))
  | answered handle context arguments premises reply left _ concluded _ routed wrapped answered
      concludes =>
      have wraps := keeps.wrapArguments call.parameters call.arguments
        (before.retraced (·.enter call.method)).premises
      rw [wrapped] at wraps
      have dispatches := tally.report (.dispatched call.method handle arguments.length)
        premises.trace
      have asks := answers handle context arguments _ reply left answered rfl
      have concluding := keeps.conclude tally handler.settings call reply left.premises
      rw [concludes] at concluding
      have inside := tally.trans (tally.trans wraps dispatches) (tally.trans asks concluding)
      have whole := tally.enclosed (tally.trans inside (ended _))
      simpa [Event.failures] using whole

end

theorem refusals_of_quiet {operation : Operation σ} (quiet : operation.calls = false)
    (answer : operation.Answer) : refusals [.performed operation answer] = 0 := by
  cases operation with
  | call | invoke => cases quiet
  | _ => rfl

namespace Chronicle

/-- A run that leads between traces which are related by the number of invocations
that fail in it. -/
structure Traced (relation : Nat → Trace → Trace → Prop) {γ : Type}
    (computation : Chronicle σ γ) : Prop where
  advances : Advances computation
  traced : ∀ world value after, (computation world).1 = some (value, after) →
    after.Keeps (relation 0) →
      relation (refusals (computation world).2.moments) world.premises.trace
        after.premises.trace

variable {relation : Nat → Trace → Trace → Prop} (tally : Trace.Tally relation)

include tally

theorem Traced.silent {run : Run σ α} (reaching : run.Reaching)
    (same : ∀ world value after, run world = some (value, after) →
      after.premises.trace = world.premises.trace) : Traced relation (Chronicle.silent run) := by
  refine ⟨.silent reaching, fun world value after ran _ => ?_⟩
  rw [same world value after ran]
  exact tally.refl _

theorem Traced.pure (value : α) : Traced relation (Pure.pure value : Chronicle σ α) := by
  refine ⟨.pure value, ?_⟩
  rintro world _ _ ⟨⟩ _
  exact tally.refl _

theorem Traced.bind {first : Chronicle σ α} {next : α → Chronicle σ β}
    (traced : Traced relation first) (goesOn : ∀ value, Traced relation (next value)) :
    Traced relation (first >>= next) := by
  refine ⟨.bind traced.advances fun value => (goesOn value).advances, ?_⟩
  intro world result after ran keeps
  rw [bind_apply] at ran ⊢
  have here := traced.traced world
  rcases started : first world with ⟨_ | ⟨value, middle⟩, history⟩
  · rw [started] at ran
    cases ran
  rw [started] at ran here
  have reached : middle.Reaches after := (goesOn value).advances.reaches ran
  show relation (refusals (History.moments (history ++ (next value middle).2))) _ _
  rw [History.moments_append, refusals_append]
  exact tally.trans (here value middle rfl (keeps.before reached))
    ((goesOn value).traced middle result after ran keeps)

omit tally in
theorem Traced.performing {operation : Operation σ} {step : Chronicle σ operation.Answer}
    (advances : Advances step)
    (related : ∀ world answer after history, step world = (some (answer, after), history) →
      after.Keeps (relation 0) →
        relation (refusals (history.moments ++ [.performed operation answer]))
          world.premises.trace after.premises.trace) :
    Traced relation (Hosting.performing operation step) := by
  refine ⟨.bind advances fun _ => .bind (.note _) fun _ => .pure _, ?_⟩
  intro world answer after ran keeps
  rw [Hosting.performing, bind_apply] at ran ⊢
  rcases told : step world with ⟨_ | ⟨value, left⟩, history⟩
  · rw [told] at ran
    cases ran
  rw [told] at ran
  cases ran
  show relation (refusals (History.moments (history ++ [(.performed operation answer, after)]))) _ _
  rw [History.moments_append]
  exact related world answer after history told keeps

theorem traced_invoke {depth : Nat}
    (answers : ∀ handle context arguments,
      Traced relation ((World.chronicler depth).call handle context arguments : Chronicle σ _))
    {reference : HandlerRef} {call : Native.Call} {before after : World σ}
    {outcome : Except Failure Native.Value} {history : History σ}
    (ran : World.invoke (World.chronicler depth) reference call before =
      (some (outcome, after), history)) (keeps : after.Keeps (relation 0)) :
    relation (refusals (history.moments ++ [.performed (.invoke reference call) outcome]))
      before.premises.trace after.premises.trace := by
  obtain ⟨handler, present⟩ := handler_of_invoke ran
  have advances : Advances (World.invoke (World.chronicler depth) reference call :
    Chronicle σ _) := advances_hereditary.invocation depth reference call
  have reached : before.Reaches after := advances.reaches (congrArg (·.1) ran)
  refine (invoke_passage present ran).related tally
    (keeps.before reached reference handler present) ?_
  intro handle context arguments asked reply left answered same
  have asks := (answers handle context arguments).traced asked reply left
  rw [answered] at asks
  refine asks rfl fun reference handler there => keeps reference handler ?_
  rwa [World.handler?, ← same]

theorem traced_stepwise : Stepwise (@Traced σ relation) where
  pure := Traced.pure tally
  bind := Traced.bind tally
  look := .silent tally .get (by
    rintro world _ _ ⟨⟩
    rfl)
  exhausted := .silent tally (.lift none) nofun
  write state := .silent tally (.write state) (by
    rintro world _ _ ⟨⟩
    rfl)
  registering body := by
    refine ⟨advances_hereditary.registering body, ?_⟩
    rintro world _ _ ⟨⟩ -
    exact tally.report (.callbackRegistered _) _
  performing depth operation answers := by
    have advances : Advances (operation.run (World.chronicler depth)) :=
      advances_hereditary.step (advances_hereditary.stepwise.call depth) operation
    refine .performing advances fun world answer after history ran keeps => ?_
    cases calls : operation.calls with
    | false =>
        rw [run_of_quiet calls, Chronicle.silent, Prod.mk.injEq] at ran
        obtain ⟨ran, rfl⟩ := ran
        show relation (refusals [.performed operation answer]) _ _
        rw [refusals_of_quiet calls]
        exact (Operation.run_does calls ran).related tally
    | true =>
        cases operation with
        | call handle context arguments =>
            have asks := (answers handle context arguments).traced world answer after
            change (World.chronicler depth).call handle context arguments world = _ at ran
            rw [ran] at asks
            rw [refusals_append]
            exact asks rfl keeps
        | invoke reference call => exact traced_invoke tally answers ran keeps
        | _ => cases calls
  starting handle context arguments := by
    refine ⟨advances_hereditary.starting handle context arguments, ?_⟩
    intro world found after ran keeps
    cases live : world.registry.find? handle with
    | none =>
        rw [starting_absent live] at ran ⊢
        cases ran
        exact tally.refl _
    | some body =>
        rw [starting_live live] at ran ⊢
        cases ran
        exact tally.refl _
  ended handle result := by
    refine ⟨advances_hereditary.ended handle result, ?_⟩
    rintro world _ _ ⟨⟩ -
    exact tally.refl _

end Chronicle

end Interception
