import Interception.Inspection
import Interception.Session.Desk

/-!
# Scripts as programs

Each step is a host program that goes on with its answer, and each body one that
goes on with what it gives or with the text it fails with.
-/

set_option autoImplicit false

namespace Interception.Session

variable {ρ : Type}

structure Frame where
  self : Host.Handle
  context : Host.ObjectId
  arguments : List Host.Value

/-- Goes on with the content of a slot. An empty slot ends the step. -/
def withSlot {α : Type} (slots : Desk ρ → List (String × α)) (name : String)
    (missing : Answer ρ → Program (Desk ρ)) (next : α → Program (Desk ρ)) :
    Program (Desk ρ) :=
  .read fun desk =>
    match (slots desk).lookup name with
    | some content => next content
    | none => missing (.unreadable ("nothing is named " ++ name))

def withInstance (name : String) (missing : Answer ρ → Program (Desk ρ))
    (next : Native.Object → Program (Desk ρ)) : Program (Desk ρ) :=
  .read fun desk =>
    match desk.directory.find? name with
    | some reference => next reference
    | none => missing (.unreadable ("nothing is named " ++ name))

def change (update : Desk ρ → Desk ρ) (next : Program (Desk ρ)) : Program (Desk ρ) :=
  .read fun desk => .write (update desk) next

def Answer.ofOutcome : Except Failure Native.Value → Answer ρ
  | .ok value => .native value
  | .error failure => .failed failure

/-- What a body gives that has run a step: a native value as the host sees it, and
null for any other answer. -/
def Answer.given : Answer ρ → Except String Host.Value
  | .failed failure => .error failure.message
  | .unreadable cause => .error cause
  | .native value => .ok value.toHost
  | _ => .ok .null

mutual

def Step.program : Step ρ → (Answer ρ → Program (Desk ρ)) → Program (Desk ρ)
  | .located step, next => .read fun desk => (step desk.directory).program next
  | .after first second, next => first.program fun _ => second.program next
  | .answer answer, next => next answer
  | .declare name className payload, next =>
      change (fun desk =>
        let reference := ⟨desk.directory.freshId, className, payload⟩
        { desk with directory := desk.directory.add name reference })
        (next .nothing)
  | .declareAgain source name, next =>
      withInstance source next fun reference =>
        change (fun desk => { desk with directory := desk.directory.add name reference })
          (next .nothing)
  | .compareInstances left right, next =>
      withInstance left next fun left =>
        withInstance right next fun right => next (.identical (left == right))
  | .describeInstance name, next =>
      withInstance name next fun reference => next (.instance reference)
  | .register body, next =>
      .register
        (fun self context arguments =>
          change (Desk.note (.callback self context arguments))
            (body.program ⟨self, context, arguments⟩ .done))
        fun handle => next (.registered handle)
  | .unregister handle, next =>
      .perform (.unregister handle) fun changed => next (.done changed)
  | .contains handle, next =>
      .perform (.contains handle) fun present => next (.found present)
  | .countCallbacks, next => .perform .callbackCount fun count => next (.callbacks count)
  | .call handle context arguments, next =>
      .perform (.call handle context arguments) fun
        | .ok value => next (.host value)
        | .error failure => next (.failed failure)
  | .collect map pairs, next =>
      let overrides := OverrideMap.collect pairs
      change (fun desk => { desk with maps := (map, overrides) :: desk.maps })
        (next (.overrides overrides))
  | .insert map method override, next =>
      withSlot Desk.maps map next fun overrides =>
        let (previous, updated) := overrides.exchange method override
        change (fun desk => { desk with maps := (map, updated) :: desk.maps })
          (next (.replaced previous updated))
  | .extend map method override, next =>
      withSlot Desk.maps map next fun overrides =>
        let updated := overrides.insert method override
        change (fun desk => { desk with maps := (map, updated) :: desk.maps })
          (next (.overrides updated))
  | .lookUp map method, next =>
      withSlot Desk.maps map next fun overrides => next (.entry (overrides.get? method))
  | .describeMap map, next =>
      withSlot Desk.maps map next fun overrides => next (.mapping overrides)
  | .compareMaps left right, next =>
      withSlot Desk.maps left next fun left =>
        withSlot Desk.maps right next fun right => next (.equal (left == right))
  | .validate map policy methods, next =>
      withSlot Desk.maps map next fun overrides =>
        .perform (.validate overrides policy methods) fun
          | .ok () => next .valid
          | .error failure => next (.failed failure)
  | .newProxy proxy className hostObject none, next =>
      .perform (.newProxy ⟨className, hostObject, none⟩) fun reference =>
        change (fun desk => { desk with proxies := (proxy, reference) :: desk.proxies })
          (next .nothing)
  | .newProxy proxy className hostObject (some map), next =>
      withSlot Desk.maps map next fun overrides =>
        .perform (.newProxy ⟨className, hostObject, some overrides⟩) fun reference =>
          change (fun desk => { desk with proxies := (proxy, reference) :: desk.proxies })
            (next .nothing)
  | .setOverrides proxy map, next =>
      withSlot Desk.proxies proxy next fun reference =>
        withSlot Desk.maps map next fun overrides =>
          .perform (.setOverrides reference overrides) fun
            | .ok () => next .assigned
            | .error failure => next (.failed failure)
  | .describeProxy proxy, next =>
      withSlot Desk.proxies proxy next fun reference =>
        .perform (.inspectProxy reference) fun proxy => next (.proxy proxy)
  | .newHandler handler none settings marshaler, next =>
      .perform (.newHandler ⟨none, settings, marshaler.marshaler⟩) fun reference =>
        change (fun desk => { desk with handlers := (handler, reference) :: desk.handlers })
          (next .nothing)
  | .newHandler handler (some proxy) settings marshaler, next =>
      withSlot Desk.proxies proxy next fun proxy =>
        .perform (.newHandler ⟨some proxy, settings, marshaler.marshaler⟩) fun reference =>
          change (fun desk => { desk with handlers := (handler, reference) :: desk.handlers })
            (next .nothing)
  | .bind handler proxy, next =>
      withSlot Desk.handlers handler next fun handler =>
        withSlot Desk.proxies proxy next fun proxy =>
          .perform (.bind handler proxy) fun () => next .nothing
  | .describeHandler handler, next =>
      withSlot Desk.handlers handler next fun reference =>
        .perform (.inspectHandler reference) fun (handler, proxy) =>
          next (.handler handler.settings proxy)
  | .inspectHandler handler, next =>
      withSlot Desk.handlers handler next fun reference =>
        .perform (.inspectHandler reference) fun (handler, proxy) =>
          next (.inspection (Inspection.handler handler.settings proxy))
  | .invoke handler call, next =>
      withSlot Desk.handlers handler next fun reference =>
        .perform (.invoke reference call) fun outcome => next (.ofOutcome outcome)
  | .coerce value target, next =>
      .perform (.coerce value target) fun outcome => next (.ofOutcome outcome)

def Body.program :
    Body ρ → Frame → (Except String Host.Value → Program (Desk ρ)) → Program (Desk ρ)
  | .located body, frame, next => .read fun desk => (body desk.directory).program frame next
  | .give value, _, next => next (.ok value)
  | .fail text, _, next => next (.error text)
  | .echo, frame, next => next (.ok (.array frame.arguments))
  | .argument index, frame, next => next (.ok (frame.arguments[index]?.getD .undefined))
  | .argumentCount, frame, next => next (.ok (.ofInt frame.arguments.length))
  | .context, frame, next => next (.ok (.object frame.context))
  | .contextNumber, frame, next => next (.ok (.ofInt frame.context.raw.toNat))
  | .argumentKinds, frame, next =>
      next (.ok (.array (frame.arguments.map fun value => .string value.kind.name)))
  | .register body, _, next =>
      .register
        (fun self context arguments =>
          change (Desk.note (.callback self context arguments))
            (body.program ⟨self, context, arguments⟩ .done))
        fun handle => next (.ok (.callback handle))
  | .unregisterSelf, frame, next =>
      .perform (.unregister frame.self) fun changed => next (.ok (.boolean changed))
  | .call handle, frame, next =>
      .perform (.call handle frame.context frame.arguments) fun
        | .ok value => next (.ok value)
        | .error failure => next (.error failure.message)
  | .both first second, frame, next =>
      first.program frame fun
        | .ok _ => second.program frame next
        | .error text => next (.error text)
  | .step step, _, next => step.program fun answer => next answer.given

end

end Interception.Session
