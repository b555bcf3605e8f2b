import Interception.Proofs.Conversion.Positions
import Mathlib.Algebra.Order.Ring.Abs

/-!
# Argument lists

Arguments reach the host together or not at all. Their number is looked at first, then
they are taken in order, and the first one that its declared type does not accept is
reported, as a whole and with the whole of its type. What reaches the host is made of
what both sides have: each host value stands for the argument in its place and for
nothing else.
-/

set_option autoImplicit false

namespace Interception.Native.Value

/-! ## What the host gets -/

theorem toHost_eq_bigint_iff {value : Value} {integer : SizedInt .long} :
    value.toHost = .bigint integer ↔
      value = .integer .long integer ∧ 2 ^ 53 - 1 < |integer.toInt| := by
  have beyond (other : SizedInt .long) :
      2 ^ 53 - 1 < |other.toInt| ↔ ¬ (other.toInt.natAbs : Int) ≤ largestSafeInteger := by
    rw [Int.natCast_natAbs, not_le, largestSafeInteger]
  cases value with
  | integer width other =>
      cases width with
      | long =>
          rw [toHost, beyond]
          split
          · rename_i safe
            refine iff_of_false (by simp [Host.Value.ofInt]) fun other => ?_
            obtain ⟨same, large⟩ := other
            cases same
            exact large safe
          · rename_i large
            constructor
            · intro same
              cases same
              exact ⟨rfl, large⟩
            · intro same
              cases same.1
              rfl
      | byte | short | int => simp [toHost, Host.Value.ofInt]
  | float precision number => cases precision <;> simp [toHost]
  | _ => simp [toHost]

/-- Nothing that is at home with the host alone comes out of a native value. -/
theorem toHost_native (value : Value) :
    value.toHost ≠ .undefined ∧ (∀ handle, value.toHost ≠ .callback handle) ∧
      ∀ id, value.toHost ≠ .object id := by
  cases value with
  | integer width integer =>
      cases width with
      | long =>
          rw [toHost]
          split <;> simp [Host.Value.ofInt]
      | byte | short | int => simp [toHost, Host.Value.ofInt]
  | float precision number => cases precision <;> simp [toHost]
  | _ => simp [toHost]

/-! ## Which argument is refused -/

/-- Each declared type accepts the argument at its position. -/
def AllAccepted (parameters : List Ty) (arguments : List Value) : Prop :=
  ∀ (index : Nat) (declared : Ty) (value : Value), parameters[index]? = some declared →
    arguments[index]? = some value → declared.accepts value = true

/-- The argument at the index is the first that its declared type does not accept. -/
structure FirstRefused (parameters : List Ty) (arguments : List Value) (index : Nat)
    (declared : Ty) (value : Value) : Prop where
  parameter : parameters[index]? = some declared
  argument : arguments[index]? = some value
  refused : declared.accepts value = false
  earlier : AllAccepted (parameters.take index) (arguments.take index)

/-- No argument before the first refused one is refused. -/
theorem FirstRefused.not_before {parameters : List Ty} {arguments : List Value}
    {index other : Nat} {declared misfit : Ty} {value item : Value}
    (first : FirstRefused parameters arguments index declared value)
    (second : FirstRefused parameters arguments other misfit item) : ¬ other < index := by
  intro before
  have taken := first.earlier other misfit item
    ((List.getElem?_take_of_lt before).trans second.parameter)
    ((List.getElem?_take_of_lt before).trans second.argument)
  rw [second.refused] at taken
  cases taken

theorem FirstRefused.unique {parameters : List Ty} {arguments : List Value} {index other : Nat}
    {declared misfit : Ty} {value item : Value}
    (first : FirstRefused parameters arguments index declared value)
    (second : FirstRefused parameters arguments other misfit item) :
    index = other ∧ declared = misfit ∧ value = item := by
  have same : index = other :=
    Nat.le_antisymm (not_lt.mp (first.not_before second)) (not_lt.mp (second.not_before first))
  subst same
  exact ⟨rfl, Option.some.inj (first.parameter.symm.trans second.parameter),
    Option.some.inj (first.argument.symm.trans second.argument)⟩

theorem FirstRefused.not_allAccepted {parameters : List Ty} {arguments : List Value}
    {index : Nat} {declared : Ty} {value : Value}
    (first : FirstRefused parameters arguments index declared value) :
    ¬ AllAccepted parameters arguments := by
  intro accepted
  have taken := accepted index declared value first.parameter first.argument
  rw [first.refused] at taken
  cases taken

theorem allAccepted_cons {declared : Ty} {value : Value} {parameters : List Ty}
    {arguments : List Value} (first : declared.accepts value = true)
    (rest : AllAccepted parameters arguments) :
    AllAccepted (declared :: parameters) (value :: arguments) := by
  intro index other item parameter argument
  cases index with
  | zero =>
      cases parameter
      cases argument
      exact first
  | succ index => exact rest index other item parameter argument

/-- Arguments in equal number to their types are all accepted and marshaled one by one,
or there is a first one that is refused, under its number. -/
theorem marshalFrom_cases (start : Nat) {parameters : List Ty} {arguments : List Value}
    (lengths : parameters.length = arguments.length) :
    (AllAccepted parameters arguments ∧
        marshalFrom start (parameters.zip arguments) = .ok (arguments.map toHost)) ∨
      ∃ index declared value, FirstRefused parameters arguments index declared value ∧
        marshalFrom start (parameters.zip arguments) =
          .error (.marshal (start + index) declared value.kind) := by
  induction parameters generalizing start arguments with
  | nil =>
      obtain rfl := List.eq_nil_of_length_eq_zero lengths.symm
      exact .inl ⟨nofun, rfl⟩
  | cons declared parameters ih =>
      cases arguments with
      | nil => cases lengths
      | cons value arguments =>
          have rest := ih (start + 1) (Nat.succ_inj.mp lengths)
          rw [List.zip_cons_cons, marshalFrom, marshal]
          cases accepted : declared.accepts value with
          | false =>
              exact .inr ⟨0, declared, value, ⟨rfl, rfl, accepted, nofun⟩, rfl⟩
          | true =>
              rcases rest with ⟨all, marshaled⟩ | ⟨index, misfit, refused, first, failed⟩
              · refine .inl ⟨allAccepted_cons accepted all, ?_⟩
                rw [marshaled]
                rfl
              · refine .inr ⟨index + 1, misfit, refused, ⟨first.parameter, first.argument,
                  first.refused, allAccepted_cons accepted first.earlier⟩, ?_⟩
                rw [failed, Nat.add_assoc, Nat.add_comm 1]
                rfl

/-- The three ends of marshaling an argument list. -/
theorem marshalAll_cases (parameters : List Ty) (arguments : List Value) :
    (parameters.length ≠ arguments.length ∧ marshalAll parameters arguments =
        .error (.arity parameters.length arguments.length)) ∨
      parameters.length = arguments.length ∧
        ((AllAccepted parameters arguments ∧
            marshalAll parameters arguments = .ok (arguments.map toHost)) ∨
          ∃ index declared value, FirstRefused parameters arguments index declared value ∧
            marshalAll parameters arguments = .error (.marshal index declared value.kind)) := by
  by_cases lengths : parameters.length = arguments.length
  · refine .inr ⟨lengths, ?_⟩
    have cases := marshalFrom_cases 0 lengths
    simp only [Nat.zero_add] at cases
    rwa [marshalAll, if_pos lengths]
  · exact .inl ⟨lengths, by rw [marshalAll, if_neg lengths]⟩

/-- Argument lists are marshaled if they are as long as the lists of their types and each
type accepts its argument; else the difference in length or the first misfit is reported.
Each host value is made from the argument in its place alone. It holds nothing, at any
depth, that is at home with the host alone, and an integer just for each long that is too
large to be safe as a number. -/
theorem arguments_marshaled_together (parameters : List Ty) (arguments : List Value) :
    ((∃ hosts, marshalAll parameters arguments = .ok hosts) ↔
      parameters.length = arguments.length ∧ AllAccepted parameters arguments) ∧
    (∀ failure, marshalAll parameters arguments = .error failure ↔
      (parameters.length ≠ arguments.length ∧
          failure = .arity parameters.length arguments.length) ∨
        parameters.length = arguments.length ∧
          ∃ index declared value, FirstRefused parameters arguments index declared value ∧
            failure = .marshal index declared value.kind) ∧
    ∀ hosts, marshalAll parameters arguments = .ok hosts →
      hosts.length = arguments.length ∧
      (∀ index : Nat, hosts[index]? = arguments[index]?.map toHost) ∧
      ∀ (index : Nat) (position : Position) (part : Host.Value),
        hosts[index]?.bind (·.at? position) = some part →
        part ≠ .undefined ∧ (∀ handle, part ≠ .callback handle) ∧ (∀ id, part ≠ .object id) ∧
        ∀ integer, part = .bigint integer ↔
          arguments[index]?.bind (·.at? position) = some (.integer .long integer) ∧
            2 ^ 53 - 1 < |integer.toInt| := by
  refine ⟨?succeeds, ?fails, ?hosts⟩
  case succeeds =>
    rcases marshalAll_cases parameters arguments with
      ⟨differ, failed⟩ | ⟨lengths, ⟨accepted, marshaled⟩ | ⟨_, _, _, first, failed⟩⟩
    · exact iff_of_false (by simp [failed]) fun other => differ other.1
    · exact iff_of_true ⟨_, marshaled⟩ ⟨lengths, accepted⟩
    · exact iff_of_false (by simp [failed]) fun other => first.not_allAccepted other.2
  case fails =>
    intro failure
    rcases marshalAll_cases parameters arguments with
      ⟨differ, failed⟩ | ⟨lengths, ⟨accepted, marshaled⟩ | ⟨_, _, _, first, failed⟩⟩
    · simp [failed, differ, eq_comm]
    · rw [marshaled]
      refine iff_of_false nofun fun other => ?_
      obtain ⟨differ, -⟩ | ⟨-, _, _, _, first, -⟩ := other
      · exact differ lengths
      · exact first.not_allAccepted accepted
    · rw [failed]
      constructor
      · intro same
        cases same
        exact .inr ⟨lengths, _, _, _, first, rfl⟩
      · intro other
        obtain ⟨differ, -⟩ | ⟨-, _, _, _, second, rfl⟩ := other
        · exact absurd lengths differ
        · obtain ⟨rfl, rfl, rfl⟩ := first.unique second
          rfl
  case hosts =>
    intro hosts marshaled
    obtain rfl : hosts = arguments.map toHost := by
      rcases marshalAll_cases parameters arguments with
        ⟨-, failed⟩ | ⟨-, ⟨-, together⟩ | ⟨_, _, _, -, failed⟩⟩
      · rw [failed] at marshaled
        cases marshaled
      · exact Except.ok.inj (marshaled.symm.trans together)
      · rw [failed] at marshaled
        cases marshaled
    refine ⟨List.length_map _, fun index => List.getElem?_map, ?_⟩
    intro index position part found
    have inside : (arguments[index]?.bind (·.at? position)).map toHost = some part := by
      rw [← found, List.getElem?_map]
      cases arguments[index]? with
      | none => rfl
      | some value => exact (toHost_itemwise.at? value position).symm
    obtain ⟨native, there, rfl⟩ := Option.map_eq_some_iff.mp inside
    obtain ⟨defined, uncalled, foreign⟩ := toHost_native native
    refine ⟨defined, uncalled, foreign, fun integer => ?_⟩
    rw [there, toHost_eq_bigint_iff, Option.some.injEq]

/-- The largest long that is safe as a number and, below zero, the first that is not. -/
def longs : Value :=
  .array [.integer .long ⟨2 ^ 53 - 1, by decide⟩, .integer .long ⟨-2 ^ 53, by decide⟩]

theorem arguments_marshaled_together_longs :
    (∃ hosts, marshalAll [.array (.integer .long), .string] [longs, .null] = .ok hosts ∧
      hosts.length = 2 ∧
      hosts[0]?.bind (·.at? [0]) = some (.number (.ofInt (2 ^ 53 - 1))) ∧
      hosts[0]?.bind (·.at? [1]) = some (.bigint ⟨-2 ^ 53, by decide⟩) ∧
      ∀ position part, hosts[0]?.bind (·.at? position) = some part → part ≠ .undefined) ∧
    marshalAll [.string, .array .string, .boolean]
        [.null, .array [.string "a", .boolean true], .null] =
      .error (.marshal 1 (.array .string) .array) ∧
    marshalAll [.string] [] = .error (.arity 1 0) := by
  refine ⟨?marshaled, ?refused, ?short⟩
  case marshaled =>
    obtain ⟨succeeds, -, together⟩ :=
      arguments_marshaled_together [.array (.integer .long), .string] [longs, .null]
    obtain ⟨hosts, marshaled⟩ := succeeds.mpr ⟨rfl, allAccepted_cons rfl
      (allAccepted_cons rfl nofun)⟩
    obtain ⟨lengths, placed, inside⟩ := together hosts marshaled
    refine ⟨hosts, marshaled, lengths, ?safe, ?large, fun position part found =>
      (inside 0 position part found).1⟩
    case safe => rw [placed]; rfl
    case large => rw [placed]; rfl
  case refused =>
    have first : FirstRefused [.string, .array .string, .boolean]
        [.null, .array [.string "a", .boolean true], .null] 1 (.array .string)
        (.array [.string "a", .boolean true]) :=
      ⟨rfl, rfl, rfl, allAccepted_cons rfl nofun⟩
    exact ((arguments_marshaled_together _ _).2.1 _).mpr (.inr ⟨rfl, _, _, _, first, rfl⟩)
  case short => exact ((arguments_marshaled_together _ _).2.1 _).mpr (.inl ⟨nofun, rfl⟩)

end Interception.Native.Value
