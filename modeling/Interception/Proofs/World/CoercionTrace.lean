import Interception.Proofs.Conversion.Walk
import Interception.Proofs.World.Traces

/-!
# The trace of a coercion

A coercion that runs in a world adds to the trace one line for each pair that its walk
reports, in the order of the walk, and changes nothing else. If a pair does not fit, its
line is the last one.
-/

set_option autoImplicit false

namespace Interception

open Native.Value (Fits Becomes pairs)

variable {σ : Type}

def Event.ofPair (pair : Native.Value × Native.Ty) : Event :=
  .converting ⟨pair.1.kind, pair.2⟩

theorem Event.converting_reports (met : List (Native.Value × Native.Ty)) :
    (Native.Value.reports met).map converting =
      (met.filter Native.Value.reported).map ofPair :=
  List.map_map

namespace World

/-- After a walk along the pairs, the trace has their reports below the spans that are
open, and nothing else is different. -/
structure Reports (met : List (Native.Value × Native.Ty)) (before after : World σ) : Prop where
  state : before.SameState after
  trace : before.premises.trace.Extends after.premises.trace
    ((met.filter Native.Value.reported).map (.event before.premises.trace.spans <| .ofPair ·))

theorem reports_retraced (met : List (Native.Value × Native.Ty)) (world : World σ) :
    world.Reports met
      (world.retraced (·.reportAll ((Native.Value.reports met).map .converting))) := by
  refine ⟨⟨rfl, rfl, rfl, rfl, rfl⟩, ?_⟩
  have extended := Trace.Extends.reportAll ((met.filter Native.Value.reported).map .ofPair)
    world.premises.trace
  rw [List.map_map] at extended
  rw [Event.converting_reports]
  exact extended

/-- All pairs that are met fit, and are reported, or the walk ends at the first one that
does not fit. -/
theorem coercion_walks_in_order (target : Native.Ty) (value : Native.Value) (world : World σ) :
    ∃ outcome after,
      (reportCoercion value target : Run σ _) world = some (outcome, after) ∧
      ((∃ result, outcome = .ok result) ↔ ∀ pair ∈ pairs target value, Fits pair.1 pair.2) ∧
      (∀ result, outcome = .ok result →
        Becomes target value result ∧ world.Reports (pairs target value) after) ∧
      (∀ failure, outcome = .error failure →
        ∃ before found declared rest, pairs target value = before ++ (found, declared) :: rest ∧
          (∀ pair ∈ before, Fits pair.1 pair.2) ∧ ¬ Fits found declared ∧
          failure = .unmarshal found.kind declared.name ∧
          world.Reports (before ++ [(found, declared)]) after) ∧
      ∀ pair, (Event.ofPair pair).fields =
        [("message", .text "coercing return value"), ("event", .text "type_conversion"),
          ("from", .text pair.1.kind.name), ("to", .text pair.2.name)] := by
  refine ⟨_, _, reportCoercion_apply value target world, ?_⟩
  rcases Native.Value.coerce_walks target value with ⟨fits, ⟨result, ended⟩, visits⟩ |
    ⟨before, found, declared, rest, split, fits, misfit, ended, visits⟩
  · refine ⟨⟨fun _ => fits, fun _ => ⟨result, ended⟩⟩, ?_, ?_, fun _ => rfl⟩
    · intro result coerced
      rw [visits]
      exact ⟨Native.Value.becomes_of_coerce coerced, reports_retraced _ world⟩
    · intro failure failed
      rw [ended] at failed
      cases failed
  · refine ⟨⟨?_, fun all => ?_⟩, ?_, ?_, fun _ => rfl⟩
    · rintro ⟨result, coerced⟩
      rw [ended] at coerced
      cases coerced
    · have member : (found, declared) ∈ pairs target value := by
        rw [split]
        exact List.mem_append_right _ List.mem_cons_self
      exact absurd (all _ member) misfit
    · intro result coerced
      rw [ended] at coerced
      cases coerced
    · intro failure failed
      rw [ended] at failed
      cases failed
      rw [visits]
      exact ⟨before, found, declared, rest, split, fits, misfit, rfl, reports_retraced _ world⟩

/-- Two nulls at different depths, and a text where a number is declared. -/
def rows : Native.Value :=
  .array [.array [.integer .int .zero, .null], .null, .array [.string "two", .boolean true]]

/-- The text is named, not an array around it, and what stands right of it is not met. -/
theorem coercion_walks_in_order_misfit :
    let table : Native.Ty := .array (.array (.integer .int))
    let world : World Unit := { premises := { state := () } }
    ∃ after before rest,
      (reportCoercion rows table : Run Unit _) world =
        some (.error (.unmarshal .string "int"), after) ∧
      pairs table rows = before ++ (.string "two", .integer .int) :: rest ∧
      (∀ pair ∈ before, Fits pair.1 pair.2) ∧ ¬ Fits (.string "two") (.integer .int) ∧
      after.premises.trace.events =
        [(.array, .array (.array (.integer .int))), (.array, .array (.integer .int)),
          (.int, .integer .int), (.array, .array (.integer .int)),
          (.string, .integer .int)].map fun (found, declared) =>
            ([], .converting ⟨found, declared⟩) := by
  intro table world
  obtain ⟨outcome, after, ran, -, -, fails, -⟩ := coercion_walks_in_order table rows world
  obtain rfl : outcome = .error (.unmarshal .string "int") :=
    congrArg Prod.fst (Option.some.inj ran.symm)
  obtain ⟨before, found, declared, rest, split, fits, misfit, named, -⟩ := fails _ rfl
  have texts : ∀ pair ∈ pairs table rows, pair.1.kind = .string →
      pair = (.string "two", .integer .int) := by
    simp [table, rows, pairs, Native.Value.pairsAll, Native.Value.kind]
  have member : (found, declared) ∈ pairs table rows := by
    rw [split]
    exact List.mem_append_right _ List.mem_cons_self
  obtain ⟨rfl, rfl⟩ := Prod.mk.inj (texts _ member (Failure.unmarshal.inj named).1.symm)
  refine ⟨after, before, rest, ran, split, fits, misfit, ?_⟩
  obtain rfl : after = _ := congrArg Prod.snd (Option.some.inj ran.symm)
  rfl

end World

end Interception
