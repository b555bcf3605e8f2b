import Interception.Text.Blank
import Interception.Text.LowerCase
import Mathlib.Data.List.TakeWhile

/-!
# Spellings of a name

A name can be written with its letters in any case and with blanks around it. Full
lower-casing knows many more letters than those of ASCII, and some of them become two
characters or depend on their neighbours, but only the sign of kelvin has an ASCII letter
as its lower case, which is `k`. A text without blanks is therefore in lower case a name
without `k` only if it is that name up to the case of ASCII letters.
-/

set_option autoImplicit false

namespace Interception.Text

/-- Equal up to the case of ASCII letters. -/
def SameLetters (left right : String) : Prop :=
  left.toLower = right.toLower

theorem toList_toLower (text : String) : text.toLower.toList = text.toList.map Char.toLower :=
  String.toList_map

/-- Decided on the characters, one by one. -/
instance (left right : String) : Decidable (SameLetters left right) :=
  decidable_of_iff (left.toList.map Char.toLower = right.toList.map Char.toLower) <| by
    rw [← toList_toLower, ← toList_toLower, String.toList_inj, SameLetters]

/-- A name in any case, with blanks around it. -/
def Spells (name text : String) : Prop :=
  ∃ before core after, text = before ++ core ++ after ∧
    (∀ character ∈ before.toList, isBlank character = true) ∧
    (∀ character ∈ after.toList, isBlank character = true) ∧ SameLetters core name

/-- An ASCII character that is in lower case, neither blank nor `k`. -/
structure Plain (character : Char) : Prop where
  ascii : character.toNat < 128
  notKelvin : character ≠ 'k'
  lower : character.toLower = character
  filled : isBlank character = false

instance (character : Char) : Decidable (Plain character) :=
  decidable_of_iff
    (character.toNat < 128 ∧ character ≠ 'k' ∧ character.toLower = character ∧
      isBlank character = false)
    ⟨fun ⟨ascii, notKelvin, lower, filled⟩ => ⟨ascii, notKelvin, lower, filled⟩,
      fun plain => ⟨plain.ascii, plain.notKelvin, plain.lower, plain.filled⟩⟩

theorem SameLetters.refl (text : String) : SameLetters text text := rfl

theorem Spells.refl (name : String) : Spells name name :=
  ⟨"", name, "", by rw [String.empty_append, String.append_empty], nofun, nofun, .refl name⟩

/-! ## Lower case of a letter -/

theorem LetterRange.contains_iff {range : LetterRange} {code : Nat} :
    range.contains code = true ↔
      (range.first ≤ code ∧ code ≤ range.last) ∧ (code - range.first) % range.step = 0 := by
  simp [contains]

def capitals : LetterRange :=
  ⟨0x41, 0x5a, 1, 32⟩

/-- All ranges but the capitals of ASCII and the sign of kelvin are outside of ASCII, and
so are the valid characters that they go to. -/
theorem upperRanges_cases : ∀ range ∈ upperRanges,
    range = capitals ∨ (range.first = 0x212a ∧ range.last = 0x212a) ∨
      128 ≤ range.first ∧ 128 ≤ range.first + range.distance ∧
        (range.last + range.distance < 0xd800 ∨
          0xdfff < range.first + range.distance ∧ range.last + range.distance < 0x110000) := by
  decide +kernel

theorem range_of_found {code : Nat} {range : LetterRange}
    (found : upperRanges.find? (·.contains code) = some range) :
    range ∈ upperRanges ∧ range.first ≤ code ∧ code ≤ range.last := by
  have contained : range.contains code = true :=
    List.find?_some (p := fun range : LetterRange => range.contains code) found
  exact ⟨List.mem_of_find?_eq_some found, (LetterRange.contains_iff.mp contained).1⟩

theorem isUpper_iff {character : Char} :
    character.isUpper = true ↔ 0x41 ≤ character.toNat ∧ character.toNat ≤ 0x5a :=
  decide_eq_true_iff

theorem toNat_ofNat {code : Nat} (valid : code.isValidChar) : (Char.ofNat code).toNat = code := by
  have built : Char.ofNat code = Char.ofNatAux code valid := dif_pos valid
  rw [built]
  rfl

theorem toLower_capital {character : Char} (upper : character.isUpper = true) :
    character.toLower = Char.ofNat (character.toNat + 32) := by
  have range := isUpper_iff.mp upper
  have valid : (character.toNat + 32).isValidChar := .inl (by omega)
  have lowered : character.toLower.val = character.val + 32 :=
    congrArg Char.val (dif_pos (decide_eq_true_iff.mp upper))
  apply Char.toNat_inj.mp
  rw [toNat_ofNat valid, ← Char.toNat_val, lowered, UInt32.toNat_add, Char.toNat_val]
  apply Nat.mod_eq_of_lt
  simp only [UInt32.reduceToNat]
  omega

theorem toLower_other {character : Char} (notUpper : ¬ character.isUpper = true) :
    character.toLower = character :=
  dif_neg fun range => notUpper (decide_eq_true range)

theorem lowerLetter_ascii {character : Char} (ascii : character.toNat < 128) :
    lowerLetter character = character.toLower := by
  rw [lowerLetter]
  split
  · rename_i range found
    obtain ⟨listed, notBefore, notAfter⟩ := range_of_found found
    obtain rfl | ⟨first, -⟩ | ⟨first, -⟩ :=
      upperRanges_cases range listed
    · have upper : character.isUpper = true := isUpper_iff.mpr ⟨notBefore, notAfter⟩
      rw [toLower_capital upper]
      rfl
    · omega
    · omega
  · rename_i missing
    have apart := List.find?_eq_none.mp missing capitals List.mem_cons_self
    have notUpper : ¬ character.isUpper = true := fun upper =>
      apart (LetterRange.contains_iff.mpr ⟨isUpper_iff.mp upper, Nat.mod_one _⟩)
    exact (toLower_other notUpper).symm

theorem lowerLetter_foreign {character : Char} (foreign : 128 ≤ character.toNat)
    (notKelvin : character.toNat ≠ 0x212a) : 128 ≤ (lowerLetter character).toNat := by
  rw [lowerLetter]
  split
  · rename_i range found
    obtain ⟨listed, notBefore, notAfter⟩ := range_of_found found
    obtain rfl | ⟨first, last⟩ | ⟨-, outside, valid⟩ :=
      upperRanges_cases range listed
    · simp only [capitals] at notAfter
      omega
    · omega
    · have reached : (character.toNat + range.distance).toNat.isValidChar := by
        rw [Nat.isValidChar]
        omega
      rw [toNat_ofNat reached]
      omega
  · exact foreign

/-! ## Lower case of a text -/

theorem lowerBetween_ascii (before after : List Char) {character : Char}
    (ascii : character.toNat < 128) :
    lowerBetween before character after = [character.toLower] := by
  have notDotted : character ≠ '\u0130' := by
    rintro rfl
    exact absurd ascii (by decide)
  have notSigma : character ≠ '\u03a3' := by
    rintro rfl
    exact absurd ascii (by decide)
  rw [lowerBetween, if_neg notDotted, if_neg notSigma, lowerLetter_ascii ascii]

/-- A character outside of ASCII leaves a trace in lower case, wherever it stands. -/
theorem lowerBetween_foreign (before after : List Char) {character : Char}
    (foreign : 128 ≤ character.toNat) :
    ∃ lower ∈ lowerBetween before character after, ¬ Plain lower := by
  rw [lowerBetween]
  split
  · exact ⟨'\u0307', by decide, fun plain => absurd plain.ascii (by decide)⟩
  · split
    · split
      · exact ⟨_, List.mem_singleton_self _, fun plain => absurd plain.ascii (by decide)⟩
      · exact ⟨_, List.mem_singleton_self _, fun plain => absurd plain.ascii (by decide)⟩
    · refine ⟨lowerLetter character, List.mem_singleton_self _, fun plain => ?_⟩
      by_cases kelvin : character.toNat = 0x212a
      · obtain rfl : character = '\u212a' := Char.toNat_inj.mp kelvin
        exact plain.notKelvin (by decide)
      · have outside := lowerLetter_foreign foreign kelvin
        have inside := plain.ascii
        omega

theorem lowerAfter_ascii (before : List Char) {characters : List Char}
    (ascii : ∀ character ∈ characters, character.toNat < 128) :
    lowerAfter before characters = characters.map Char.toLower := by
  induction characters generalizing before with
  | nil => rfl
  | cons first rest ih =>
      obtain ⟨firstAscii, restAscii⟩ := List.forall_mem_cons.mp ascii
      rw [lowerAfter, lowerBetween_ascii before rest firstAscii, ih (first :: before) restAscii]
      rfl

theorem ascii_of_lowerAfter {before characters : List Char}
    (plain : ∀ lower ∈ lowerAfter before characters, Plain lower) :
    ∀ character ∈ characters, character.toNat < 128 := by
  induction characters generalizing before with
  | nil => nofun
  | cons first rest ih =>
      rw [lowerAfter] at plain
      obtain ⟨firstPlain, restPlain⟩ := List.forall_mem_append.mp plain
      refine List.forall_mem_cons.mpr ⟨?_, ih restPlain⟩
      refine Nat.lt_of_not_le fun foreign => ?_
      obtain ⟨lower, member, notPlain⟩ := lowerBetween_foreign before rest foreign
      exact notPlain (firstPlain lower member)

theorem ascii_of_toLower {character : Char} (ascii : character.toLower.toNat < 128) :
    character.toNat < 128 := by
  by_cases upper : character.isUpper = true
  · have := isUpper_iff.mp upper
    omega
  · rwa [toLower_other upper] at ascii

theorem lowerCased_ascii {text : String}
    (ascii : ∀ character ∈ text.toList, character.toNat < 128) :
    lowerCased text = text.toLower := by
  rw [lowerCased, lowerAfter_ascii [] ascii, ← toList_toLower, String.ofList_toList]

theorem toLower_plain {name : String} (plain : ∀ character ∈ name.toList, Plain character) :
    name.toLower = name := by
  rw [← String.toList_inj, toList_toLower, List.map_congr_left fun character member =>
    (plain character member).lower, List.map_id']

/-- Full lower-casing makes a plain name only of what ASCII lower-casing makes it of. -/
theorem lowerCased_eq_iff {name text : String}
    (plain : ∀ character ∈ name.toList, Plain character) :
    lowerCased text = name ↔ SameLetters text name := by
  rw [SameLetters, toLower_plain plain]
  constructor
  · intro lowered
    have written : lowerAfter [] text.toList = name.toList := by
      rw [← lowered, lowerCased, String.toList_ofList]
    have ascii := ascii_of_lowerAfter (written.symm ▸ plain)
    rw [← lowerCased_ascii ascii, lowered]
  · intro lowered
    have ascii : ∀ character ∈ text.toList, character.toNat < 128 := by
      intro character member
      have listed : character.toLower ∈ name.toList := by
        rw [← lowered, toList_toLower]
        exact List.mem_map_of_mem member
      exact ascii_of_toLower (plain _ listed).ascii
    rw [lowerCased_ascii ascii, lowered]

/-! ## Blanks around a text -/

theorem trimmedChars_between {before core after : List Char}
    (blankBefore : ∀ character ∈ before, isBlank character = true)
    (filled : ∀ character ∈ core, isBlank character = false)
    (blankAfter : ∀ character ∈ after, isBlank character = true) :
    trimmedChars (before ++ core ++ after) = core := by
  have kept (characters : List Char) (all : ∀ character ∈ characters, isBlank character = false) :
      characters.dropWhile isBlank = characters := by
    cases characters with
    | nil => rfl
    | cons first rest => rw [List.dropWhile_cons_of_neg (by simp [all])]
  have reversed : ∀ character ∈ core.reverse, isBlank character = false := fun character member =>
    filled character (List.mem_reverse.mp member)
  cases core with
  | nil =>
      have blank : ∀ character ∈ before ++ [] ++ after, isBlank character = true := by
        rw [List.append_nil]
        exact List.forall_mem_append.mpr ⟨blankBefore, blankAfter⟩
      rw [trimmedChars, List.dropWhile_eq_nil_iff.mpr blank]
      rfl
  | cons first rest =>
      have firstFilled : ¬ isBlank first = true := by simp [filled]
      rw [trimmedChars, List.append_assoc, List.dropWhile_append_of_pos blankBefore,
        List.cons_append, List.dropWhile_cons_of_neg firstFilled, ← List.cons_append,
        List.reverse_append, List.dropWhile_append_of_pos, kept _ reversed, List.reverse_reverse]
      exact fun character member => blankAfter character (List.mem_reverse.mp member)

theorem trimmedChars_parts (characters : List Char) :
    ∃ before after, characters = before ++ trimmedChars characters ++ after ∧
      (∀ character ∈ before, isBlank character = true) ∧
      ∀ character ∈ after, isBlank character = true := by
  let started := characters.dropWhile isBlank
  refine ⟨characters.takeWhile isBlank, (started.reverse.takeWhile isBlank).reverse, ?_,
    fun _ => List.mem_takeWhile_imp, fun character member => ?_⟩
  · have ended :
        trimmedChars characters ++ (started.reverse.takeWhile isBlank).reverse = started := by
      rw [trimmedChars, ← List.reverse_append, List.takeWhile_append_dropWhile,
        List.reverse_reverse]
    rw [List.append_assoc, ended, List.takeWhile_append_dropWhile]
  · exact List.mem_takeWhile_imp (List.mem_reverse.mp member)

theorem blank_of_toLower_plain {character : Char} (plain : Plain character.toLower) :
    isBlank character = false := by
  by_cases upper : character.isUpper = true
  · have := isUpper_iff.mp upper
    simp only [isBlank, blankRanges, List.any_cons, List.any_nil, Bool.or_false,
      Bool.or_eq_false_iff, Bool.and_eq_false_iff, decide_eq_false_iff_not]
    omega
  · have filled := plain.filled
    rwa [toLower_other upper] at filled

/-- A text is in lower case and without the blanks around it a plain name just if it spells
the name. -/
theorem lowerCased_trimmed_eq_iff {name text : String}
    (plain : ∀ character ∈ name.toList, Plain character) :
    lowerCased (trimmed text) = name ↔ Spells name text := by
  rw [lowerCased_eq_iff plain]
  constructor
  · intro same
    obtain ⟨before, after, split, blankBefore, blankAfter⟩ := trimmedChars_parts text.toList
    refine ⟨.ofList before, trimmed text, .ofList after, ?_, ?_, ?_, same⟩
    · rw [trimmed, ← String.ofList_append, ← String.ofList_append, ← split, String.ofList_toList]
    · rwa [String.toList_ofList]
    · rwa [String.toList_ofList]
  · rintro ⟨before, core, after, rfl, blankBefore, blankAfter, same⟩
    have filled : ∀ character ∈ core.toList, isBlank character = false := by
      intro character member
      have listed : character.toLower ∈ name.toList := by
        rw [← toLower_plain plain, ← same, toList_toLower]
        exact List.mem_map_of_mem member
      exact blank_of_toLower_plain (plain _ listed)
    rw [trimmed, String.toList_append, String.toList_append,
      trimmedChars_between blankBefore filled blankAfter, String.ofList_toList]
    exact same

end Interception.Text
