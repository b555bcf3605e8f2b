/-!
# Sets of characters

A set is given by ranges of code points in ascending order, with gaps between
them. All operations keep this order, so that equal sets have equal ranges.
-/

set_option autoImplicit false

namespace Interception.Text

structure CharSet where
  ranges : List (Nat × Nat)
  deriving DecidableEq, Repr

namespace CharSet

def contains (set : CharSet) (character : Char) : Bool :=
  set.ranges.any fun range => range.1 ≤ character.toNat && character.toNat ≤ range.2

def isEmpty (set : CharSet) : Bool :=
  set.ranges.isEmpty

/-- Adds a range, which takes up every range that it meets or touches. -/
def withRange (first last : Nat) : List (Nat × Nat) → List (Nat × Nat)
  | [] => [(first, last)]
  | range :: ranges =>
      if last + 1 < range.1 then (first, last) :: range :: ranges
      else if range.2 + 1 < first then range :: withRange first last ranges
      else withRange (min range.1 first) (max range.2 last) ranges

def ofRanges (ranges : List (Nat × Nat)) : CharSet :=
  ⟨ranges.foldl (fun others range => withRange range.1 range.2 others) []⟩

def single (character : Char) : CharSet :=
  ⟨[(character.toNat, character.toNat)]⟩

def lastCodePoint : Nat := 0x10ffff

def gaps (start : Nat) : List (Nat × Nat) → List (Nat × Nat)
  | [] => if start ≤ lastCodePoint then [(start, lastCodePoint)] else []
  | range :: ranges =>
      (if start < range.1 then [(start, range.1 - 1)] else []) ++ gaps (range.2 + 1) ranges

def complement (set : CharSet) : CharSet :=
  ⟨gaps 0 set.ranges⟩

def all : CharSet :=
  ⟨[(0, lastCodePoint)]⟩

def union (first second : CharSet) : CharSet :=
  ofRanges (first.ranges ++ second.ranges)

def unionAll (sets : List CharSet) : CharSet :=
  ofRanges (sets.flatMap ranges)

def intersection (first second : CharSet) : CharSet :=
  (first.complement.union second.complement).complement

def difference (first second : CharSet) : CharSet :=
  first.intersection second.complement

/-- What is in one of two sets but not in both. -/
def symmetricDifference (first second : CharSet) : CharSet :=
  (first.union second).difference (first.intersection second)

/-! ## ASCII -/

def digits : CharSet := ⟨[(48, 57)]⟩

def upper : CharSet := ⟨[(65, 90)]⟩

def lower : CharSet := ⟨[(97, 122)]⟩

def letters : CharSet := ⟨[(65, 90), (97, 122)]⟩

def alphanumeric : CharSet := ⟨[(48, 57), (65, 90), (97, 122)]⟩

def word : CharSet := ⟨[(48, 57), (65, 90), (95, 95), (97, 122)]⟩

def space : CharSet := ⟨[(9, 13), (32, 32)]⟩

def named? : String → Option CharSet
  | "alnum" => some alphanumeric
  | "alpha" => some letters
  | "ascii" => some ⟨[(0, 127)]⟩
  | "blank" => some ⟨[(9, 9), (32, 32)]⟩
  | "cntrl" => some ⟨[(0, 31), (127, 127)]⟩
  | "digit" => some digits
  | "graph" => some ⟨[(33, 126)]⟩
  | "lower" => some lower
  | "print" => some ⟨[(32, 126)]⟩
  | "punct" => some ⟨[(33, 47), (58, 64), (91, 96), (123, 126)]⟩
  | "space" => some space
  | "upper" => some upper
  | "word" => some word
  | "xdigit" => some ⟨[(48, 57), (65, 70), (97, 102)]⟩
  | _ => none

/-- A set with the ASCII letters of it in both cases. -/
def withBothCases (set : CharSet) : CharSet :=
  let lowered := (set.intersection upper).ranges.map fun range => (range.1 + 32, range.2 + 32)
  let raised := (set.intersection lower).ranges.map fun range => (range.1 - 32, range.2 - 32)
  ofRanges (set.ranges ++ lowered ++ raised)

end CharSet

end Interception.Text
