/-!
# Byte order of texts

The strict total order in which names are listed: by UTF-8 bytes, the shorter
text first where one continues the other.
-/

set_option autoImplicit false

namespace Interception.Text

def bytes (text : String) : List UInt8 :=
  text.toByteArray.data.toList

theorem bytes_injective {left right : String} (same : bytes left = bytes right) :
    left = right := by
  apply String.toByteArray_inj.mp
  cases leftBytes : left.toByteArray
  cases rightBytes : right.toByteArray
  simp only [bytes, leftBytes, rightBytes] at same
  rw [Array.toList_inj.mp same]

def Before (left right : String) : Prop :=
  bytes left < bytes right

instance (left right : String) : Decidable (Before left right) :=
  inferInstanceAs (Decidable (bytes left < bytes right))

namespace Before

theorem irrefl (text : String) : ¬ Before text text :=
  List.lt_irrefl (bytes text)

theorem trans {first second third : String}
    (left : Before first second) (right : Before second third) : Before first third :=
  List.lt_trans left right

theorem asymm {left right : String} (before : Before left right) : ¬ Before right left :=
  List.lt_asymm before

theorem ne {left right : String} (before : Before left right) : left ≠ right := by
  intro same
  subst same
  exact irrefl left before

/-- Two texts that are not ordered either way are the same text. -/
theorem eq_of_not {left right : String}
    (notBefore : ¬ Before left right) (notAfter : ¬ Before right left) : left = right :=
  bytes_injective (List.le_antisymm (List.not_lt.mp notAfter) (List.not_lt.mp notBefore))

theorem of_not_of_ne {left right : String}
    (notAfter : ¬ Before right left) (different : left ≠ right) : Before left right := by
  refine Decidable.byContradiction fun notBefore => different ?_
  exact eq_of_not notBefore notAfter

theorem not_trans {first second third : String} (left : ¬ Before second first)
    (right : ¬ Before third second) : ¬ Before third first :=
  List.not_lt.mpr (List.le_trans (List.not_lt.mp left) (List.not_lt.mp right))

end Before

end Interception.Text
