import Interception.Proofs.World.Connected

/-!
# Operations inside a run

Every operation that host code performs and that ends, at whatever depth, is that
operation on a world of its own, the one that the history before it leads to: the
history of the run contains its history, up to the moment in which its answer is
known.
-/

set_option autoImplicit false

namespace Interception.Chronicle

variable {σ α β : Type}

/-- The history of a run contains, before the answer of each operation, the history
of that operation. -/
def Encloses (computation : Chronicle σ α) : Prop :=
  ∀ world earlier operation answer after later,
    (computation world).2 = earlier ++ (.performed operation answer, after) :: later →
    ∃ depth start prior inside, earlier = prior ++ inside ∧ world.Connects prior start ∧
      operation.run (World.chronicler depth) start = (some (answer, after), inside)

/-- The history of a run contains, before the answer of each invocation, the history
of that invocation. -/
def Accounts (computation : Chronicle σ α) : Prop :=
  ∀ world earlier reference call answer after later,
    (computation world).2 =
      earlier ++ (.performed (.invoke reference call) answer, after) :: later →
    ∃ depth before inside, inside <:+ earlier ∧
      World.invoke (World.chronicler depth) reference call before =
        (some (answer, after), inside)

structure Recounts (computation : Chronicle σ α) : Prop where
  connected : Connected computation
  encloses : Encloses computation

theorem Encloses.accounts {computation : Chronicle σ α} (encloses : Encloses computation) :
    Accounts computation := by
  intro world earlier reference call answer after later told
  obtain ⟨depth, start, prior, inside, rfl, -, ran⟩ :=
    encloses world earlier (.invoke reference call) answer after later told
  exact ⟨depth, start, inside, List.suffix_append prior inside, ran⟩

/-- What a moment of a run tells, and of an answer, the operation that it is of: all of it
on worlds that the moments before lead to. -/
theorem Recounts.at_moment {computation : Chronicle σ α} (recounts : Recounts computation)
    {world point : World σ} {earlier later : History σ} {moment : Moment σ}
    (told : (computation world).2 = earlier ++ (moment, point) :: later) :
    ∃ before, world.Connects earlier before ∧ before.Tells moment point ∧
      ∀ operation answer, moment = .performed operation answer →
        ∃ depth began prior inside, earlier = prior ++ inside ∧ world.Connects prior began ∧
          operation.run (World.chronicler depth) began = (some (answer, point), inside) := by
  obtain ⟨before, leads, tells⟩ := recounts.connected.at_moment told
  refine ⟨before, leads, tells, ?_⟩
  intro operation answer performed
  subst performed
  exact recounts.encloses world earlier operation answer point later told

theorem encloses_of_unperformed {computation : Chronicle σ α}
    (unperformed : ∀ world operation answer after,
      (.performed operation answer, after) ∉ (computation world).2) : Encloses computation := by
  intro world earlier operation answer after later told
  exact absurd (told ▸ List.mem_append_right earlier List.mem_cons_self)
    (unperformed world operation answer after)

theorem Recounts.silent {run : Run σ α}
    (kept : ∀ world value after, run world = some (value, after) → world.Alike after) :
    Recounts (Chronicle.silent run) :=
  ⟨.silent kept, encloses_of_unperformed fun _ _ _ _ => List.not_mem_nil⟩

theorem Recounts.pure (value : α) : Recounts (Pure.pure value : Chronicle σ α) :=
  ⟨.pure value, encloses_of_unperformed fun _ _ _ _ => List.not_mem_nil⟩

theorem Recounts.look : Recounts (Chronicle.silent get : Chronicle σ (World σ)) := by
  refine .silent ?_
  rintro world _ _ ⟨⟩
  exact .refl world

theorem Recounts.lift (value? : Option α) :
    Recounts (Chronicle.silent (StateT.lift value?) : Chronicle σ α) := by
  refine .silent fun world value after ran => ?_
  obtain ⟨_, _, ran⟩ := Option.bind_eq_some_iff.mp ran
  cases ran
  exact .refl world

theorem Recounts.conversion (conversion : Conversion σ α) :
    Recounts (premises.carry conversion) := by
  refine .silent ?_
  rintro world _ _ ⟨⟩
  exact ⟨_, rfl⟩

theorem Recounts.bind {first : Chronicle σ α} {next : α → Chronicle σ β}
    (recounts : Recounts first) (goesOn : ∀ value, Recounts (next value)) :
    Recounts (first >>= next) := by
  refine ⟨recounts.connected.bind fun value => (goesOn value).connected, ?_⟩
  intro world earlier operation answer after later told
  rw [bind_apply] at told
  have here := recounts.encloses world
  obtain ⟨last, connects, ends⟩ := recounts.connected world
  rcases ran : first world with ⟨_ | ⟨value, middle⟩, history⟩
  · rw [ran] at told here
    exact here earlier operation answer after later told
  rw [ran] at told here connects ends
  obtain rfl := ends value middle rfl
  have beyond (shift : History σ)
      (rest : (next value middle).2 = shift ++ (.performed operation answer, after) :: later) :
      ∃ depth start prior inside, history ++ shift = prior ++ inside ∧
        world.Connects prior start ∧
        operation.run (World.chronicler depth) start = (some (answer, after), inside) := by
    obtain ⟨depth, start, prior, inside, rfl, leads, found⟩ :=
      (goesOn value).encloses middle shift operation answer after later rest
    exact ⟨depth, start, history ++ prior, inside, (List.append_assoc ..).symm,
      connects.append leads, found⟩
  rcases List.append_eq_append_iff.mp told with ⟨shift, rfl, rest⟩ | ⟨shift, split, rest⟩
  · exact beyond shift rest
  · cases shift with
    | nil =>
        obtain rfl : history = earlier := by simpa using split
        simpa using beyond [] rest.symm
    | cons told shift =>
        obtain ⟨rfl, -⟩ := List.cons.inj rest
        exact here earlier operation answer after shift split

theorem recounts_closed : Closed (m := Chronicle σ) (@Recounts σ) where
  pure := Recounts.pure
  map _ _ holds := holds.bind fun _ => .pure _
  bind := Recounts.bind
  report event := .conversion (Reporting.report event)
  enter method := .conversion (Reporting.enter method)
  close := .conversion Reporting.close

/-- The answer of an operation comes right after its history. -/
theorem performing_encloses {depth : Nat} {operation : Operation σ}
    (encloses : Encloses (operation.run (World.chronicler depth))) :
    Encloses (Hosting.performing operation (operation.run (World.chronicler depth))) := by
  intro world earlier other answer after later told
  rw [Hosting.performing, bind_apply] at told
  have here := encloses world
  rcases ran : operation.run (World.chronicler depth) world
    with ⟨_ | ⟨value, middle⟩, history⟩
  · rw [ran] at told here
    exact here earlier other answer after later told
  rw [ran] at told here
  change history ++ [(.performed operation value, middle)] = _ at told
  rcases List.eq_nil_or_concat later with rfl | ⟨later, last, rfl⟩
  · obtain ⟨rfl, same⟩ := List.append_inj' told rfl
    cases same
    exact ⟨depth, world, [], history, rfl, .refl world, ran⟩
  · rw [List.concat_eq_append, ← List.cons_append, ← List.append_assoc] at told
    exact here earlier other answer after later (List.append_inj' told rfl).1

theorem performing_connected {depth : Nat} {operation : Operation σ}
    (connected : operation.calls = true →
      Connected (operation.run (World.chronicler depth))) :
    Connected (Hosting.performing operation (operation.run (World.chronicler depth))) := by
  intro world
  cases calls : operation.calls with
  | true =>
      obtain ⟨last, connects, ends⟩ := connected calls world
      rw [Hosting.performing, bind_apply]
      rcases ran : operation.run (World.chronicler depth) world
        with ⟨_ | ⟨answer, after⟩, history⟩
      · rw [ran] at connects
        refine ⟨last, connects, ?_⟩
        rintro _ _ ⟨⟩
      · rw [ran] at connects ends
        obtain rfl := ends answer after rfl
        refine ⟨after, connects.append ?_, ?_⟩
        · exact .single (.called operation answer after calls (.refl _))
        · rintro _ _ ⟨⟩
          rfl
  | false =>
      rw [Hosting.performing, run_of_quiet calls, bind_apply, Chronicle.silent]
      rcases ran : operation.run (World.environment 0) world with _ | ⟨answer, after⟩
      · refine ⟨world, .refl world, ?_⟩
        rintro _ _ ⟨⟩
      · have does := Operation.run_does calls ran
        refine ⟨after, .single (.answered operation answer world after (.refl _) does), ?_⟩
        rintro _ _ ⟨⟩
        rfl

theorem recounts_stepwise : Stepwise (@Recounts σ) where
  pure := Recounts.pure
  bind := Recounts.bind
  look := Recounts.look
  exhausted := Recounts.lift none
  write state := by
    refine .silent ?_
    rintro world _ _ ⟨⟩
    exact ⟨_, rfl⟩
  registering body := by
    refine ⟨fun world => ⟨_, .single (.registered body _ ⟨_, rfl⟩), ?_⟩,
      encloses_of_unperformed ?_⟩
    · rintro _ _ ⟨⟩
      rfl
    · rintro world operation answer after told
      cases List.mem_singleton.mp told
  performing depth operation answers := by
    have recounts (calls : operation.calls = true) :
        Recounts (operation.run (World.chronicler depth)) := by
      cases operation with
      | call handle context arguments => exact answers handle context arguments
      | invoke reference request =>
          exact recounts_closed.invoke .look .lift .conversion answers reference request
      | _ => cases calls
    refine ⟨performing_connected fun calls => (recounts calls).connected, performing_encloses ?_⟩
    cases calls : operation.calls with
    | true => exact (recounts calls).encloses
    | false =>
        rw [run_of_quiet calls]
        exact encloses_of_unperformed fun _ _ _ _ => List.not_mem_nil
  starting handle context arguments := by
    refine ⟨fun world => ?_, encloses_of_unperformed fun world => ?_⟩
    · cases live : world.registry.find? handle with
      | none =>
          rw [starting_absent live]
          refine ⟨world, .refl world, ?_⟩
          rintro _ _ ⟨⟩
          rfl
      | some body =>
          rw [starting_live live]
          refine ⟨_, .single (.started handle context arguments body _ live (.refl _)), ?_⟩
          rintro _ _ ⟨⟩
          rfl
    · intro operation answer after told
      cases live : world.registry.find? handle with
      | none =>
          rw [starting_absent live] at told
          cases told
      | some body =>
          rw [starting_live live] at told
          cases List.mem_singleton.mp told
  ended handle result := by
    refine ⟨fun world => ⟨world, .single (.ended handle result world (.refl _)), ?_⟩,
      encloses_of_unperformed ?_⟩
    · rintro _ _ ⟨⟩
      rfl
    · rintro world operation answer after told
      cases List.mem_singleton.mp told

theorem recounts_invocation (depth : Nat) (reference : HandlerRef) (call : Native.Call) :
    Recounts (World.invoke (World.chronicler depth) reference call : Chronicle σ _) :=
  recounts_closed.invoke .look .lift .conversion (recounts_stepwise.call depth) reference call

theorem accounts_invocation (depth : Nat) (reference : HandlerRef) (call : Native.Call) :
    Accounts (World.invoke (World.chronicler depth) reference call : Chronicle σ _) :=
  (recounts_invocation depth reference call).encloses.accounts

end Interception.Chronicle
