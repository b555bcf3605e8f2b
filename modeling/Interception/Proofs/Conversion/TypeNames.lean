import Interception.Proofs.Conversion.Walk

/-!
# Names of types

A type is written as a name, in failures and in events. A class is written as itself, so it
shares its name with another type exactly when it is called like a built-in type or like an
array. Where no class is, a name stands for one type only, and the failure of a coercion
tells which part of the declared type was not met.
-/

set_option autoImplicit false

namespace Interception.Native

namespace Ty

def builtinNames : List String :=
  ["void", "boolean", "byte", "short", "int", "long", "float", "double", "char", "string"]

/-- A class name that is no name of a built-in type and does not end like that of an array. -/
structure Unreserved (className : String) : Prop where
  notBuiltin : className ∉ builtinNames
  notArray : ∀ start, className ≠ start ++ "[]"

/-- The class in the type, if there is one, has an unreserved name. -/
def WellNamed : Ty → Prop
  | .object className => Unreserved className
  | .array element => element.WellNamed
  | .void | .boolean | .integer _ | .float _ | .char | .string => True

/-! ## Built-in types -/

/-- The types that are neither classes nor arrays, in the order of their names. -/
def builtins : List Ty :=
  [.void, .boolean, .integer .byte, .integer .short, .integer .int, .integer .long,
    .float .single, .float .double, .char, .string]

theorem names_builtins : builtins.map name = builtinNames := rfl

theorem builtin_cases (type : Ty) :
    type ∈ builtins ∨ (∃ className, type = .object className) ∨
      ∃ element, type = .array element := by
  cases type with
  | object className => exact .inr (.inl ⟨className, rfl⟩)
  | array element => exact .inr (.inr ⟨element, rfl⟩)
  | integer width => cases width <;> exact .inl (by decide)
  | float precision => cases precision <;> exact .inl (by decide)
  | _ => exact .inl (by decide)

theorem mem_builtins {type : Ty} (noClass : ∀ className, type ≠ .object className)
    (noArray : ∀ element, type ≠ .array element) : type ∈ builtins := by
  obtain builtin | ⟨className, same⟩ | ⟨element, same⟩ := type.builtin_cases
  · exact builtin
  · exact absurd same (noClass className)
  · exact absurd same (noArray element)

theorem name_mem_builtinNames {type : Ty} (builtin : type ∈ builtins) :
    type.name ∈ builtinNames :=
  names_builtins ▸ List.mem_map_of_mem builtin

theorem builtin_name_injective :
    ∀ left ∈ builtins, ∀ right ∈ builtins, left.name = right.name → left = right := by
  decide

theorem last_of_builtinNames : ∀ name ∈ builtinNames, name.toList.getLast? ≠ some ']' := by
  decide

theorem ne_bracketed {name : String} (last : name.toList.getLast? ≠ some ']') (start : String) :
    name ≠ start ++ "[]" := by
  rintro rfl
  refine last ?_
  rw [String.toList_append, List.getLast?_append_of_ne_nil _ (by decide)]
  rfl

theorem builtinName_ne_bracketed {name : String} (builtin : name ∈ builtinNames)
    (start : String) : name ≠ start ++ "[]" :=
  ne_bracketed (last_of_builtinNames name builtin) start

/-! ## Shared names -/

/-- Another type is written like a class just if its name is reserved. -/
theorem shares_name_iff {className : String} :
    (∃ type : Ty, type ≠ .object className ∧ type.name = className) ↔ ¬ Unreserved className := by
  constructor
  · rintro ⟨type, other, rfl⟩ unreserved
    obtain builtin | ⟨className, rfl⟩ | ⟨element, rfl⟩ := type.builtin_cases
    · exact unreserved.notBuiltin (name_mem_builtinNames builtin)
    · exact other rfl
    · exact unreserved.notArray element.name rfl
  · intro reserved
    by_cases builtin : className ∈ builtinNames
    · rw [← names_builtins, List.mem_map] at builtin
      obtain ⟨type, listed, named⟩ := builtin
      refine ⟨type, ?_, named⟩
      rintro rfl
      simp [builtins] at listed
    · obtain ⟨start, bracketed⟩ : ∃ start, className = start ++ "[]" := by
        refine Classical.byContradiction fun none => reserved ⟨builtin, fun start same => ?_⟩
        exact none ⟨start, same⟩
      exact ⟨.array (.object start), nofun, bracketed.symm⟩

theorem eq_object_of_name {type : Ty} {className : String} (unreserved : Unreserved className)
    (same : type.name = className) : type = .object className :=
  Decidable.byContradiction fun other => shares_name_iff.mp ⟨type, other, same⟩ unreserved

theorem eq_builtin_of_name {left right : Ty} (builtin : left ∈ builtins)
    (rightNamed : right.WellNamed) (same : left.name = right.name) : left = right := by
  obtain otherBuiltin | ⟨className, rfl⟩ | ⟨element, rfl⟩ := right.builtin_cases
  · exact builtin_name_injective left builtin right otherBuiltin same
  · exact eq_object_of_name rightNamed same
  · exact absurd same (builtinName_ne_bracketed (name_mem_builtinNames builtin) element.name)

theorem name_injective {left right : Ty} (leftNamed : left.WellNamed)
    (rightNamed : right.WellNamed) (same : left.name = right.name) : left = right := by
  -- Arrays are written as their elements, with the same brackets behind.
  induction left generalizing right with
  | object className => exact (eq_object_of_name leftNamed same.symm).symm
  | array element ih =>
      obtain builtin | ⟨className, rfl⟩ | ⟨other, rfl⟩ := right.builtin_cases
      · exact (eq_builtin_of_name builtin leftNamed same.symm).symm
      · exact eq_object_of_name rightNamed same
      · have elements : element.name = other.name := (String.append_left_inj "[]").mp same
        have otherNamed : other.WellNamed := rightNamed
        rw [ih leftNamed otherNamed elements]
  | _ => exact eq_builtin_of_name (mem_builtins nofun nofun) rightNamed same

end Ty

/-! ## Types in failures -/

namespace Value

theorem pairsAll_eq_flatMap (element : Ty) (items : List Value) :
    pairsAll element items = items.flatMap (pairs element) := by
  induction items with
  | nil => rfl
  | cons item items ih => rw [pairsAll, ih, List.flatMap_cons]

/-- What a value meets on its way into a well-named type is well-named. -/
theorem wellNamed_of_mem_pairs {target : Ty} (named : target.WellNamed) {value : Value}
    {pair : Value × Ty} (met : pair ∈ pairs target value) : pair.2.WellNamed := by
  induction target generalizing value with
  | array element ih =>
      have elementNamed : element.WellNamed := named
      cases value with
      | array items =>
          rw [pairs, List.mem_cons, pairsAll_eq_flatMap, List.mem_flatMap] at met
          obtain rfl | ⟨item, -, inside⟩ := met
          · exact named
          · exact ih elementNamed inside
      | _ =>
          obtain rfl := List.mem_singleton.mp met
          exact named
  | _ =>
      cases value <;>
        · obtain rfl := List.mem_singleton.mp met
          exact named

end Value

/-- Well-named types of one name are the same. The text that a failed coercion has of the
type that was not met is therefore the name of that type, and of no other well-named one. -/
theorem type_names_unambiguous :
    (∀ left right : Ty, left.WellNamed → right.WellNamed → left.name = right.name →
      left = right) ∧
    ∀ (target : Ty) (value : Value) (kind : Kind) (text : String), target.WellNamed →
      (value.coerce target).outcome = .error (.unmarshal kind text) →
      ∃ before found declared after,
        value.pairs target = before ++ (found, declared) :: after ∧
        (∀ pair ∈ before, pair.1.Fits pair.2) ∧ ¬ found.Fits declared ∧ found.kind = kind ∧
        declared.WellNamed ∧
        ∀ type : Ty, type.WellNamed → (type.name = text ↔ type = declared) := by
  refine ⟨fun left right leftNamed rightNamed => Ty.name_injective leftNamed rightNamed, ?_⟩
  intro target value kind text named failed
  obtain ⟨-, ⟨result, coerced⟩, -⟩ |
    ⟨before, found, declared, after, split, fits, misfit, ended, -⟩ := value.coerce_walks target
  · cases failed.symm.trans coerced
  · obtain ⟨rfl, rfl⟩ := Failure.unmarshal.inj (Except.error.inj (ended.symm.trans failed))
    have met : (found, declared) ∈ value.pairs target :=
      split ▸ List.mem_append_right before List.mem_cons_self
    have declaredNamed : declared.WellNamed := Value.wellNamed_of_mem_pairs named met
    refine ⟨before, found, declared, after, split, fits, misfit, rfl, declaredNamed, ?_⟩
    intro type typeNamed
    exact ⟨Ty.name_injective typeNamed declaredNamed, fun same => same ▸ rfl⟩

/-- A class of rows, and a text in the place of a row of numbers. -/
theorem type_names_unambiguous_rows :
    let records : Ty := .array (.object "a.Row")
    let table : Ty := .array (.array (.integer .int))
    let rows : Value := .array [.array [.null], .string "rows"]
    records.WellNamed ∧ (∀ type : Ty, type.WellNamed → type.name = "a.Row[]" → type = records) ∧
    table.WellNamed ∧ (rows.coerce table).outcome = .error (.unmarshal .string "int[]") ∧
    ∀ type : Ty, type.WellNamed → (type.name = "int[]" ↔ type = .array (.integer .int)) := by
  intro records table rows
  obtain ⟨injective, identified⟩ := type_names_unambiguous
  have recordsNamed : records.WellNamed := ⟨by decide, Ty.ne_bracketed (by decide)⟩
  have failed : (rows.coerce table).outcome = .error (.unmarshal .string "int[]") := rfl
  obtain ⟨-, -, declared, -, -, -, -, -, -, only⟩ :=
    identified table rows .string "int[]" trivial failed
  obtain rfl : Ty.array (.integer .int) = declared := (only (.array (.integer .int)) trivial).mp rfl
  refine ⟨recordsNamed, ?_, trivial, failed, only⟩
  intro type typeNamed same
  exact injective type records typeNamed recordsNamed same

end Interception.Native
