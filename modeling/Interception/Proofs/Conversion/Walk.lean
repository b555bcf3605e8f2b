import Interception.Proofs.Conversion.Acceptance
import Interception.Proofs.Conversion.HostNumbers

/-!
# The walk of a coercion

Coercion meets pairs of value and type, a pair before the pairs inside it and these from
left to right. It ends at the first pair that does not fit, whatever stands around it, and
reports the pairs on its way up to there. Where all pairs fit, the result has an array for
each array that met an array type, with the results of its items in their places.
-/

set_option autoImplicit false

namespace Interception.Native.Value

/-! ## Pairs -/

mutual

/-- The pairs that coercion meets. Only an array that meets an array type is taken
apart. -/
def pairs (target : Ty) (value : Value) : List (Value × Ty) :=
  match value, target with
  | .array items, .array element => (.array items, .array element) :: pairsAll element items
  | value, target => [(value, target)]

def pairsAll (element : Ty) : List Value → List (Value × Ty)
  | [] => []
  | item :: items => pairs element item ++ pairsAll element items

end

/-- A value fits a type if it can be converted by itself, whatever is inside it. -/
inductive Fits : Value → Ty → Prop where
  | void {value : Value} : Fits value .void
  | null {target : Ty} : Fits .null target
  | object {value : Value} {className : String} : Fits value (.object className)
  | array {items : List Value} {element : Ty} : Fits (.array items) (.array element)
  | boolean {value : Bool} : Fits (.boolean value) .boolean
  | part {value : Value} {width : Width} {exact : Rat} :
      value.toRat? = some exact → width.Holds (towardZero exact) → Fits value (.integer width)
  | rounded {width : Width} {integer : SizedInt width} {precision : Precision} :
      Fits (.integer width integer) (.float precision)
  | float {source precision : Precision} {number : Binary source} :
      Fits (.float source number) (.float precision)
  | char {character : Char} : Fits (.char character) .char
  | letter {text : String} {character : Char} :
      text.toList = [character] → Fits (.string text) .char
  | code {width : Width} {integer : SizedInt width} {code : Nat} :
      integer.toInt = code → code.isValidChar → Fits (.integer width integer) .char
  | string {text : String} : Fits (.string text) .string
  | text {character : Char} : Fits (.char character) .string

/-- Voids and nulls are met without a report. -/
def reported : Value × Ty → Bool
  | (_, .void) => false
  | (.null, _) => false
  | _ => true

def reports (met : List (Value × Ty)) : List Visit :=
  (met.filter reported).map fun pair => ⟨pair.1.kind, pair.2⟩

/-- What a value becomes at a type: item by item where an array meets an array type, and
by itself elsewhere. -/
def Becomes : Ty → Value → Value → Prop
  | .array element, .array items, result =>
      ∃ results, result = .array results ∧ List.Forall₂ (Becomes element) items results
  | target, value, result => (value.coerce target).outcome = .ok result

theorem reports_append (first rest : List (Value × Ty)) :
    reports (first ++ rest) = reports first ++ reports rest := by
  simp [reports]

/-! ## Fitting pairs -/

theorem fits_of_toChar? {value : Value} {character : Char}
    (taken : value.toChar? = some character) : Fits value .char := by
  cases value with
  | char character => exact .char
  | string text =>
      rw [toChar?] at taken
      split at taken
      · rename_i only single
        exact .letter single
      · cases taken
  | integer width integer =>
      obtain ⟨code, same, valid, -⟩ := toChar?_integer_eq_some_iff.mp taken
      exact .code same valid
  | _ => cases taken

theorem fits_of_narrow? {value result : Value} {target : Ty}
    (narrowed : value.narrow? target = some result) : Fits value target := by
  cases target with
  | void => exact .void
  | object className => exact .object
  | array element => cases narrowed
  | boolean =>
      cases value with
      | boolean value => exact .boolean
      | _ => cases narrowed
  | integer width =>
      obtain ⟨exact, known, inRange, -⟩ := narrow?_integer_eq_some_iff.mp narrowed
      exact .part known inRange
  | float precision =>
      have numeric : value.toDouble? ≠ none := by
        intro missing
        cases precision <;> simp [narrow?, missing] at narrowed
      cases value with
      | integer width integer => exact .rounded
      | float source number => exact .float
      | _ => exact absurd rfl numeric
  | char =>
      obtain ⟨character, taken, -⟩ := Option.map_eq_some_iff.mp narrowed
      exact fits_of_toChar? taken
  | string =>
      cases value with
      | string text => exact .string
      | char character => exact .text
      | _ => cases narrowed

theorem narrow?_of_fits {value : Value} {target : Ty} (fits : Fits value target)
    (present : value ≠ .null) (filled : target ≠ .void)
    (apart : ∀ items element, value = .array items → target ≠ .array element) :
    ∃ result, value.narrow? target = some result := by
  cases fits with
  | void => exact absurd rfl filled
  | null => exact absurd rfl present
  | array => exact absurd rfl (apart _ _ rfl)
  | object => exact ⟨_, rfl⟩
  | boolean => exact ⟨_, rfl⟩
  | part known inRange => exact ⟨_, narrow?_integer_eq_some_iff.mpr ⟨_, known, inRange, rfl⟩⟩
  | @rounded width integer precision => cases precision <;> exact ⟨_, rfl⟩
  | @float source precision number => cases source <;> cases precision <;> exact ⟨_, rfl⟩
  | char => exact ⟨_, rfl⟩
  | letter single => exact ⟨_, by rw [narrow?, toChar?, single, Option.map_some]⟩
  | code same valid =>
      have taken := toChar?_integer_eq_some_iff.mpr ⟨_, same, valid, rfl⟩
      exact ⟨_, by rw [narrow?, taken, Option.map_some]⟩
  | string => exact ⟨_, rfl⟩
  | text => exact ⟨_, rfl⟩

/-! ## Walks -/

/-- A walk along pairs: it reports all of them and has a result, if they all fit; else it
reports them up to the first one that does not fit and fails with that one. -/
def Walks {α : Type} (met : List (Value × Ty)) (walk : Coercion α) : Prop :=
  ((∀ pair ∈ met, Fits pair.1 pair.2) ∧ (∃ result, walk.outcome = .ok result) ∧
      walk.visits = reports met) ∨
    ∃ before found declared after, met = before ++ (found, declared) :: after ∧
      (∀ pair ∈ before, Fits pair.1 pair.2) ∧ ¬ Fits found declared ∧
      walk.outcome = .error (.unmarshal found.kind declared.name) ∧
      walk.visits = reports (before ++ [(found, declared)])

namespace Walks

variable {α β : Type} {met rest : List (Value × Ty)}

theorem settled (value : α) : Walks [] (.settled value) :=
  .inl ⟨nofun, ⟨value, rfl⟩, rfl⟩

theorem map (change : α → β) {walk : Coercion α} (walks : Walks met walk) :
    Walks met (walk.map change) := by
  rcases walks with ⟨fits, ⟨result, ended⟩, visits⟩ |
    ⟨before, found, declared, after, split, fits, misfit, ended, visits⟩
  · exact .inl ⟨fits, ⟨change result, by rw [Coercion.map, ended]; rfl⟩, visits⟩
  · exact .inr ⟨before, found, declared, after, split, fits, misfit,
      by rw [Coercion.map, ended]; rfl, visits⟩

theorem andThen {first : Coercion α} {next : α → Coercion β} (walks : Walks met first)
    (continues : ∀ result, first.outcome = .ok result → Walks rest (next result)) :
    Walks (met ++ rest) (first.andThen next) := by
  rw [Coercion.andThen]
  rcases walks with ⟨fits, ⟨result, ended⟩, visits⟩ |
    ⟨before, found, declared, after, split, fits, misfit, ended, visits⟩
  · simp only [ended, Coercion.joined_eq_append]
    rcases continues result ended with ⟨restFits, restEnded, restVisits⟩ |
      ⟨before, found, declared, after, split, restFits, misfit, restEnded, restVisits⟩
    · refine .inl ⟨List.forall_mem_append.mpr ⟨fits, restFits⟩, restEnded, ?_⟩
      rw [visits, restVisits, reports_append]
    · refine .inr ⟨met ++ before, found, declared, after, ?_,
        List.forall_mem_append.mpr ⟨fits, restFits⟩, misfit, restEnded, ?_⟩
      · rw [split, List.append_assoc]
      · rw [visits, restVisits, List.append_assoc, ← reports_append]
  -- The second walk does not take place, and its pairs stand behind the misfit.
  · simp only [ended]
    refine .inr ⟨before, found, declared, after ++ rest, ?_, fits, misfit, rfl, visits⟩
    rw [split, List.append_assoc, List.cons_append]

theorem visit {items : List Value} {element : Ty} {walk : Coercion α}
    (walks : Walks met walk) :
    Walks ((.array items, .array element) :: met) (walk.visit ⟨.array, .array element⟩) := by
  have first (met : List (Value × Ty)) : reports ((.array items, .array element) :: met) =
      ⟨.array, .array element⟩ :: reports met := rfl
  rcases walks with ⟨fits, ended, visits⟩ |
    ⟨before, found, declared, after, split, fits, misfit, ended, visits⟩
  · refine .inl ⟨List.forall_mem_cons.mpr ⟨.array, fits⟩, ended, ?_⟩
    rw [Coercion.visit, visits, first]
  · refine .inr ⟨(.array items, .array element) :: before, found, declared, after, ?_,
      List.forall_mem_cons.mpr ⟨.array, fits⟩, misfit, ended, ?_⟩
    · rw [split, List.cons_append]
    · rw [Coercion.visit, visits, List.cons_append, first]

end Walks

theorem reported_of_filled {value : Value} {target : Ty} (present : value ≠ .null)
    (filled : target ≠ .void) : reported (value, target) = true := by
  cases target with
  | void => exact absurd rfl filled
  | _ =>
      cases value with
      | null => exact absurd rfl present
      | _ => rfl

theorem settled_walks {value : Value} {target : Ty} (fits : Fits value target)
    (quiet : reported (value, target) = false) (result : Value) :
    Walks [(value, target)] (.settled result) := by
  refine .inl ⟨List.forall_mem_singleton.mpr fits, ⟨result, rfl⟩, ?_⟩
  simp [Coercion.settled, reports, quiet]

theorem narrow_walks {value : Value} {target : Ty} (present : value ≠ .null)
    (filled : target ≠ .void)
    (apart : ∀ items element, value = .array items → target ≠ .array element) :
    Walks [(value, target)] (value.narrow target) := by
  have shown : reports [(value, target)] = [⟨value.kind, target⟩] := by
    simp [reports, reported_of_filled present filled]
  cases narrowed : value.narrow? target with
  | none =>
      refine .inr ⟨[], value, target, [], rfl, nofun, fun fits => ?_, ?_, ?_⟩
      · obtain ⟨result, some⟩ := narrow?_of_fits fits present filled apart
        cases narrowed.symm.trans some
      · rw [narrow, narrowed]
      · rw [narrow, List.nil_append, shown]
  | some result =>
      refine .inl ⟨?_, ⟨result, narrow_ok_iff.mpr narrowed⟩, ?_⟩
      · exact List.forall_mem_singleton.mpr (fits_of_narrow? narrowed)
      · rw [narrow, shown]

theorem coerceAll_walks {element : Ty}
    (each : ∀ item, Walks (pairs element item) (coerce element item)) (items : List Value) :
    Walks (pairsAll element items) (coerceAll element items) := by
  induction items with
  | nil => exact .settled []
  | cons item items ih =>
      rw [pairsAll, coerceAll]
      exact (each item).andThen fun first _ => ih.map (first :: ·)

theorem coerce_walks (target : Ty) (value : Value) :
    Walks (pairs target value) (value.coerce target) := by
  -- Pairs inside an array have its element type.
  induction target generalizing value with
  | array element ih =>
      cases value with
      | null => exact settled_walks .null rfl _
      | array items => exact ((coerceAll_walks ih items).map Value.array).visit
      | _ => exact narrow_walks (by simp) (by simp) (by simp)
  | void => cases value <;> exact settled_walks .void rfl _
  | _ =>
      cases value with
      | null => exact settled_walks .null rfl _
      | _ => exact narrow_walks (by simp) (by simp) (by simp)

/-! ## Results -/

theorem becomes_of_coerce {target : Ty} {value result : Value}
    (coerced : (value.coerce target).outcome = .ok result) : Becomes target value result := by
  induction target generalizing value result with
  | array element ih =>
      cases value with
      | array items =>
          rw [Becomes]
          obtain ⟨results, listed, rfl⟩ := ok_of_map coerced
          exact ⟨results, rfl, (coerceAll_ok listed).imp fun _ _ => ih⟩
      | _ => exact coerced
  | _ => exact coerced

end Interception.Native.Value
