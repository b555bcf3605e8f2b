import Interception.Invocation

/-!
# Default results

The result of a call that is not forwarded, told by what it is: null, or the zero of
the result type that the call declares. Every call has exactly one.
-/

set_option autoImplicit false

namespace Interception

theorem Binary.eq_zero_of_toWord? {precision : Precision} {number : Binary precision}
    (word : number.toWord? = some 0) : number = .zero := by
  cases number with
  | nan => cases word
  | signed negative rank bounded =>
      cases negative with
      | true => simp [toWord?] at word
      | false =>
          obtain rfl := Option.some.inj word
          rfl

namespace Native.Ty

/-- The zeros of the declared types. A number type has the number zero, which is
positive where zero has a sign; a type that has null among its values has null. -/
inductive HasZero : Ty → Value → Prop where
  | void : HasZero .void .null
  | boolean : HasZero .boolean (.boolean false)
  | integer {width : Width} {number : SizedInt width} (zero : number.toInt = 0) :
      HasZero (.integer width) (.integer width number)
  | float {precision : Precision} {number : Binary precision} (zero : number.toWord? = some 0) :
      HasZero (.float precision) (.float precision number)
  | char : HasZero .char (.char '\x00')
  | string : HasZero .string .null
  | object {className : String} : HasZero (.object className) .null
  | array {element : Ty} : HasZero (.array element) .null

theorem hasZero_zero (declared : Ty) : declared.HasZero declared.zero := by
  cases declared with
  | void => exact .void
  | boolean => exact .boolean
  | integer width => exact .integer rfl
  | float precision => exact .float rfl
  | char => exact .char
  | string => exact .string
  | object className => exact .object
  | array element => exact .array

theorem HasZero.unique {declared : Ty} {left right : Value} (first : declared.HasZero left)
    (second : declared.HasZero right) : left = right := by
  cases first with
  | integer zero =>
      cases second with
      | integer zero' => rw [SizedInt.toInt_inj.mp (zero.trans zero'.symm)]
  | float zero =>
      cases second with
      | float zero' => rw [Binary.eq_zero_of_toWord? zero, Binary.eq_zero_of_toWord? zero']
  | _ => cases second; rfl

end Native.Ty

/-- What a call may have as its result where it is not forwarded. -/
inductive Settings.Defaults (settings : Settings) (call : Native.Call) : Native.Value → Prop where
  | null (null : settings.defaultResult = .null) : Defaults settings call .null
  | undeclared (undeclared : call.returns = none) : Defaults settings call .null
  | zero {returns : Native.Ty} {value : Native.Value}
      (typeDefault : settings.defaultResult = .typeDefault)
      (declared : call.returns = some returns) (zero : returns.HasZero value) :
      Defaults settings call value

namespace Settings

variable {settings : Settings} {call : Native.Call}

theorem defaultFor_null (null : settings.defaultResult = .null) (call : Native.Call) :
    settings.defaultFor call = .null := by
  rw [defaultFor, null]

theorem defaultFor_undeclared (undeclared : call.returns = none) :
    settings.defaultFor call = .null := by
  cases default : settings.defaultResult <;> simp [defaultFor, default, undeclared]

theorem defaultFor_typeDefault {returns : Native.Ty}
    (typeDefault : settings.defaultResult = .typeDefault)
    (declared : call.returns = some returns) : settings.defaultFor call = returns.zero := by
  rw [defaultFor, typeDefault, declared]

theorem defaults_defaultFor (settings : Settings) (call : Native.Call) :
    settings.Defaults call (settings.defaultFor call) := by
  cases default : settings.defaultResult with
  | null =>
      rw [defaultFor_null default]
      exact .null default
  | typeDefault =>
      cases declared : call.returns with
      | none =>
          rw [defaultFor_undeclared declared]
          exact .undeclared declared
      | some returns =>
          rw [defaultFor_typeDefault default declared]
          exact .zero default declared returns.hasZero_zero

theorem defaults_iff {value : Native.Value} :
    settings.Defaults call value ↔ value = settings.defaultFor call := by
  constructor
  · intro defaults
    cases defaults with
    | null null => rw [defaultFor_null null]
    | undeclared undeclared => rw [defaultFor_undeclared undeclared]
    | zero typeDefault declared zero =>
        rw [defaultFor_typeDefault typeDefault declared]
        exact zero.unique (Native.Ty.hasZero_zero _)
  · intro same
    rw [same]
    exact defaults_defaultFor settings call

end Settings

end Interception
