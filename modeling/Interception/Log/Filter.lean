import Interception.Log.Trace
import Interception.Settings.Environment
import Interception.Text.Alphanumeric
import Interception.Text.Blank
import Interception.Text.ByteOrder
import Interception.Text.Constant
import Interception.Text.Parts
import Interception.Text.Pattern

/-!
# Log filters

Which events and spans are logged. A filter has rules, written between commas:

* a level, for all areas; an area, or an area and its level: `warn,proxy_bridge=debug`;
* the same with a selector of spans in brackets, `[intercept]=debug`, which can ask
  for a field of the span, and for a pattern of its value:
  `[intercept{method=get.*}]=trace`.

A plain rule is about events and spans of its area, and the most specific one that
selects an event decides about it. A scoped rule shows the spans that it selects,
and every event inside of them up to its level. A field without a pattern makes a
rule of both kinds: as a plain rule it selects the events that have the field.
-/

set_option autoImplicit false

namespace Interception

/-- The least severe level that is logged, if anything is. -/
abbrev Threshold := Option Level

namespace Threshold

def passes (threshold : Threshold) (level : Level) : Bool :=
  match threshold with
  | none => false
  | some least => least.severity ≤ level.severity

/-- Names of thresholds, in lower case. -/
def names : List (String × Threshold) :=
  [("off", none), ("error", some .error), ("warn", some .warn), ("info", some .info),
   ("debug", some .debug), ("trace", some .trace)]

/-- Numbers of thresholds, from `off` on. -/
def numbered? (number : Nat) : Option Threshold :=
  names[number]?.map Prod.snd

def number? (text : String) : Option Nat :=
  let digits := match text.toList with
    | '+' :: rest => rest
    | all => all
  if digits ≠ [] ∧ digits.all Char.isDigit then
    some (digits.foldl (fun value digit => 10 * value + (digit.toNat - 48)) 0)
  else none

/-- A threshold by its number, or by its name with ASCII letters in any case. -/
def parse? (text : String) : Option Threshold :=
  match (number? text).bind numbered? with
  | some threshold => some threshold
  | none => names.lookup (text.map Char.toLower)

end Threshold

/-! ## Rules -/

/-- A field of a span, and a pattern that its value has to match, if any. -/
structure FieldSelector where
  field : String
  pattern : Option String := none
  deriving DecidableEq, Repr

/-- What a rule selects: areas that start with `area`, spans of a name, and a field.
What is left out selects everything. -/
structure Selection where
  area : String := ""
  span : Option String := none
  field : Option FieldSelector := none
  deriving DecidableEq, Repr

structure LogRule where
  selection : Selection := {}
  threshold : Threshold
  deriving DecidableEq, Repr

namespace Selection

def selectsArea (selection : Selection) (area : String) : Bool :=
  selection.area.toList.isPrefixOf area.toList

def isScoped (selection : Selection) : Bool :=
  selection.span.isSome || selection.field.isSome

def hasPattern (selection : Selection) : Bool :=
  selection.field.any (·.pattern.isSome)

def isPlain (selection : Selection) : Bool :=
  selection.span.isNone && !selection.hasPattern

/-- Whether a plain rule is about an event of an area that has fields of these names. -/
def selectsEvent (selection : Selection) (area : String) (fields : List String) : Bool :=
  selection.selectsArea area &&
    selection.field.all fun selector => fields.contains selector.field

def selectsSpans (selection : Selection) : Bool :=
  selection.selectsArea spanArea &&
    selection.span.all (· == spanName) &&
    selection.field.all (·.field == spanField)

/-- Whether the span of a method has the value that a selection asks for. -/
def selectsMethod (selection : Selection) (method : String) : Bool :=
  match selection.field.bind (·.pattern) with
  | none => true
  | some pattern =>
      !Text.isConstant pattern && (Text.Pattern.parse? pattern).any (·.isMatch method)

/-- Of two selections that select the same thing, the one by the longer area is the
more specific one, then the one by a field, then the one by the later field. -/
def isAtLeastAsSpecific (later earlier : Selection) : Bool :=
  earlier.area.length < later.area.length ||
    (earlier.area.length == later.area.length &&
      match earlier.field, later.field with
      | none, _ => true
      | some _, none => false
      | some before, some after => !decide (Text.Before after.field before.field))

end Selection

namespace LogRule

def startsWith (character : Char) : Bool :=
  Text.isAlphanumeric character || character == '-' || character == ':' || character == '_'

def cut? (isMark : Char → Bool) (text : List Char) : Option (List Char × List Char) :=
  match text.dropWhile (!isMark ·) with
  | [] => none
  | _ :: rest => some (text.takeWhile (!isMark ·), rest)

/-- A field as it is written in braces: a name, or a name and a pattern. -/
def fieldSelector? (text : List Char) : Option FieldSelector := do
  guard (!text.isEmpty)
  match Text.partsOf '=' text with
  | [] => none
  | [name] => some { field := String.ofList name }
  | name :: pattern :: _ =>
      let pattern := String.ofList pattern
      guard (Text.isConstant pattern || (Text.Pattern.parse? pattern).isSome)
      some { field := String.ofList name, pattern := some pattern }

/-- A selector of spans as it is written behind its opening bracket, and what
follows its closing one. -/
def spanSelector? (text : List Char) :
    Option (Option String × Option FieldSelector × List Char) :=
  let name := text.takeWhile fun character => character != ']' && character != '\x7b'
  match text.drop name.length with
  | [] => none
  | ']' :: rest => some (some (String.ofList name), none, rest)
  | _ :: rest => do
      let (field, rest) ← cut? (· == '\x7d') rest
      let field ← fieldSelector? field
      match rest with
      | ']' :: rest =>
          some (if name.isEmpty then none else some (String.ofList name), some field, rest)
      | _ => none

/-- A selection as it is written, and the level behind its equals sign, if any. -/
def selection? (text : List Char) : Option (Selection × Option String) := do
  let area := text.takeWhile fun character => character != '=' && character != '['
  match text.drop area.length with
  | [] => some ({ area := String.ofList area }, none)
  | '[' :: rest =>
      let (span, field, rest) ← spanSelector? rest
      let selection : Selection := { area := String.ofList area, span, field }
      match rest with
      | [] => some (selection, none)
      | '=' :: level => some (selection, some (String.ofList level))
      | _ => none
  | _ :: level => some ({ area := String.ofList area }, some (String.ofList level))

/-- A rule as it is written. What has no level is logged in full. Blanks around a
rule make it one for an area of such a name, which there is not; with a level they
are illegal. -/
def parse? (text : String) : Option LogRule := do
  let trimmed := Text.trimmed text
  guard (trimmed.toList.head?.any fun first => startsWith first || first == '[')
  let (selection, level) ← selection? trimmed.toList
  match level with
  | some level =>
      guard (trimmed = text)
      if level = "" then some { selection, threshold := some .trace }
      else some { selection, threshold := ← Threshold.parse? level }
  | none =>
      if text.toList.head?.any Text.isBlank || (trimmed ≠ text && !selection.isScoped) then
        some { selection := { area := text }, threshold := some .trace }
      else
        match selection.isScoped, Threshold.parse? text with
        | false, some threshold => some { threshold }
        | _, _ => some { selection, threshold := some .trace }

end LogRule

/-! ## Filters -/

structure LogFilter where
  rules : List LogRule
  deriving DecidableEq, Repr

namespace LogFilter

/-- Rules without those that a later rule of the same selection replaces. -/
def lastOfEach : List LogRule → List LogRule
  | [] => []
  | rule :: rules =>
      if rules.any (·.selection == rule.selection) then lastOfEach rules
      else rule :: lastOfEach rules

def plainRules (filter : LogFilter) : List LogRule :=
  (lastOfEach filter.rules).filter (·.selection.isPlain)

def spanRules (filter : LogFilter) : List LogRule :=
  (lastOfEach filter.rules).filter fun rule =>
    rule.selection.isScoped && rule.selection.selectsSpans

/-- Whether any rule reaches down to a level. Where values of spans are asked for,
every level is reached, and replaced rules still count. -/
def reaches (filter : LogFilter) (level : Level) : Bool :=
  filter.rules.any fun rule => rule.selection.hasPattern || rule.threshold.passes level

/-- The more specific one of two rules, of two equally specific ones the later. -/
def prefer (earlier : Option LogRule) (later : LogRule) : Option LogRule :=
  match earlier with
  | none => some later
  | some rule =>
      if later.selection.isAtLeastAsSpecific rule.selection then some later else some rule

/-- Whether the most specific one of some rules lets a level through. -/
def decides (rules : List LogRule) (level : Level) : Bool :=
  (rules.foldl prefer none).any (·.threshold.passes level)

/-- Whether spans are shown: a scoped rule selects them, or a plain rule lets them
through. -/
def showsSpans (filter : LogFilter) : Bool :=
  filter.reaches spanLevel &&
    (!filter.spanRules.isEmpty ||
      decides (filter.plainRules.filter (·.selection.selectsArea spanArea)) spanLevel)

/-- Whether the scoped rules let a level through inside the span of a method. -/
def passesInside (filter : LogFilter) (method : String) (level : Level) : Bool :=
  filter.spanRules.any fun rule =>
    rule.selection.selectsMethod method && rule.threshold.passes level

def passes (filter : LogFilter) (spans : List String) (event : Event) : Bool :=
  (filter.showsSpans && spans.any (filter.passesInside · event.level)) ||
    decides
      (filter.plainRules.filter (·.selection.selectsEvent event.area event.fieldNames))
      event.level

/-- A filter as it is written. Without any rule, errors are logged. -/
def parse? (text : String) : Option LogFilter := do
  match ← (Text.fullParts ',' text).mapM LogRule.parse? with
  | [] => some ⟨[{ threshold := some .error }]⟩
  | rules => some ⟨rules⟩

def standard (level : Level) : LogFilter :=
  ⟨[⟨{ area := "proxy_bridge" }, some level⟩]⟩

def filterVariable : String := "RUST_LOG"

/-- The filter that the environment asks for, or else the standard one. -/
def ofEnvironment (environment : Variables) (level : Level) : LogFilter :=
  ((environment.text? filterVariable).bind parse?).getD (standard level)

end LogFilter

end Interception
