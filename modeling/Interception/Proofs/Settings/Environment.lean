import Interception.Log.Settings
import Interception.Proofs.Settings.Document
import Interception.Proofs.Text.Spelling

/-!
# The environment as a source of settings

Each setting has a grammar: the texts that spell one of its values. A setting is read from
one variable of the environment. It has the value that is spelled there, and its default
where the variable is unset, is no text or spells nothing, whatever else is in the
environment. What a document accepts as the text of a setting spells the same value.
-/

set_option autoImplicit false

namespace Interception

open Text (Plain SameLetters Spells)

variable {α : Type}

/-! ## Grammars -/

def FinalPolicy.spellings : FinalPolicy → List String
  | .dispatch => ["dispatch"]
  | .ignore => ["ignore"]
  | .reject => ["reject"]

def DefaultResult.spellings : DefaultResult → List String
  | .null => ["null"]
  | .typeDefault => ["type_default", "type-default"]

def flagSpellings : Bool → List String
  | true => ["1", "true"]
  | false => ["0", "false"]

/-- The text is a spelling of the value, in any case and with blanks around it. -/
def Spelled (spellings : α → List String) (value : α) (text : String) : Prop :=
  ∃ name ∈ spellings value, Spells name text

def Level.spelling : Level → String
  | .trace => "trace"
  | .debug => "debug"
  | .info => "info"
  | .warn => "warn"
  | .error => "error"

/-- The text is the spelling of the level, in any case but without blanks around it. -/
def Level.Spelled (level : Level) (text : String) : Prop :=
  SameLetters text level.spelling

instance (level : Level) (text : String) : Decidable (level.Spelled text) :=
  inferInstanceAs (Decidable (SameLetters _ _))

def settingNames : List String :=
  ["dispatch", "ignore", "reject", "null", "type_default", "type-default", "1", "true", "0",
    "false", "trace", "debug", "info", "warn", "error"]

theorem plain_of_settingNames {name : String} (listed : name ∈ settingNames) :
    ∀ character ∈ name.toList, Plain character := by
  have all : settingNames.all fun name => name.toList.all fun character => Plain character := by
    decide
  intro character member
  exact of_decide_eq_true (List.all_eq_true.mp (List.all_eq_true.mp all name listed) _ member)

theorem normal_mem_iff {spellings : α → List String} {value : α}
    (listed : ∀ name ∈ spellings value, name ∈ settingNames) (text : String) :
    Text.normal text ∈ spellings value ↔ Spelled spellings value text := by
  have spells (name : String) (member : name ∈ spellings value) :
      Text.normal text = name ↔ Spells name text :=
    Text.lowerCased_trimmed_eq_iff (plain_of_settingNames (listed name member))
  constructor
  · intro member
    exact ⟨_, member, (spells _ member).mp rfl⟩
  · rintro ⟨name, member, spelled⟩
    rwa [(spells name member).mpr spelled]

theorem FinalPolicy.parse_eq_ok_iff {text : String} {policy : FinalPolicy} :
    FinalPolicy.parse text = .ok policy ↔ Spelled spellings policy text := by
  rw [← normal_mem_iff (by cases policy <;> decide), FinalPolicy.parse]
  split <;> cases policy <;> simp_all [spellings]

theorem DefaultResult.parse_eq_ok_iff {text : String} {result : DefaultResult} :
    DefaultResult.parse text = .ok result ↔ Spelled spellings result text := by
  rw [← normal_mem_iff (by cases result <;> decide), DefaultResult.parse]
  split <;> cases result <;> simp_all [spellings]

theorem parseFlag?_eq_some_iff {text : String} {flag : Bool} :
    parseFlag? text = some flag ↔ Spelled flagSpellings flag text := by
  rw [← normal_mem_iff (by cases flag <;> decide), parseFlag?]
  split <;> cases flag <;> simp_all [flagSpellings]

theorem lowerCased_eq_spelling_iff (level : Level) (text : String) :
    Text.lowerCased text = level.spelling ↔ level.Spelled text :=
  Text.lowerCased_eq_iff (plain_of_settingNames (by cases level <;> decide))

namespace LogSettings

theorem parseLevel_of_spelled {level : Level} {text : String} (spelled : level.Spelled text) :
    parseLevel text = level := by
  rw [parseLevel, (lowerCased_eq_spelling_iff level text).mpr spelled]
  cases level <;> rfl

theorem parseLevel_of_misspelled {text : String} (none : ∀ level : Level, ¬ level.Spelled text) :
    parseLevel text = .info := by
  have other (level : Level) : Text.lowerCased text ≠ level.spelling := fun same =>
    none level ((lowerCased_eq_spelling_iff level text).mp same)
  rw [parseLevel]
  split
  · exact absurd ‹_› (other .trace)
  · exact absurd ‹_› (other .debug)
  · exact absurd ‹_› (other .warn)
  · exact absurd ‹_› (other .error)
  · rfl

theorem parseLevel_eq_iff {text : String} {level : Level} :
    parseLevel text = level ↔
      level.Spelled text ∨ level = .info ∧ ∀ other : Level, ¬ other.Spelled text := by
  constructor
  · rintro rfl
    by_cases named : ∃ level : Level, level.Spelled text
    · obtain ⟨level, spelled⟩ := named
      rw [parseLevel_of_spelled spelled]
      exact .inl spelled
    · have none := not_exists.mp named
      exact .inr ⟨parseLevel_of_misspelled none, none⟩
  · rintro (spelled | ⟨rfl, none⟩)
    · exact parseLevel_of_spelled spelled
    · exact parseLevel_of_misspelled none

end LogSettings

/-! ## Fields -/

/-- A text stands for the value that it spells, and for the default if it spells none. -/
structure Reads (Spelled : α → String → Prop) (default : α) (read : String → α) : Prop where
  spelled : ∀ text value, Spelled value text → read text = value
  misspelled : ∀ text, (∀ value, ¬ Spelled value text) → read text = default

/-- A field that the variable of a name decides, which can be unset or hold any bytes. -/
structure DecidedBy (name : String) (Spelled : α → String → Prop) (default : α)
    (field : Variables → α) : Prop where
  alone : ∀ environment other : Variables, environment.lookup name = other.lookup name →
    field environment = field other
  unset : ∀ environment : Variables, environment.lookup name = none → field environment = default
  noText : ∀ (environment : Variables) (bytes : ByteArray),
    environment.lookup name = some bytes → ¬ bytes.IsValidUTF8 → field environment = default
  spelled : ∀ (environment : Variables) (text : String) (value : α),
    environment.lookup name = some text.toByteArray → Spelled value text →
      field environment = value
  misspelled : ∀ (environment : Variables) (text : String),
    environment.lookup name = some text.toByteArray → (∀ value, ¬ Spelled value text) →
      field environment = default

theorem reads_of_eq_some_iff {Spelled : α → String → Prop} {read? : String → Option α}
    (exact : ∀ text value, read? text = some value ↔ Spelled value text) (default : α) :
    Reads Spelled default fun text => (read? text).getD default where
  spelled text value spelled := by
    rw [(exact text value).mpr spelled, Option.getD_some]
  misspelled text none := by
    cases read : read? text with
    | none => rfl
    | some value => exact absurd ((exact text value).mp read) (none value)

theorem decidedBy_of_reads {name : String} {Spelled : α → String → Prop} {default : α}
    {read : String → α} (reads : Reads Spelled default read) {field : Variables → α}
    (consults : ∀ environment : Variables,
      field environment = (environment.text? name).elim default read) :
    DecidedBy name Spelled default field where
  alone environment other same := by
    rw [consults, consults, Variables.text?, Variables.text?, same]
  unset environment missing := by
    rw [consults, Variables.text?, missing]
    rfl
  noText environment bytes set invalid := by
    rw [consults, Variables.text?, set, Option.bind_some, Settings.fromUTF8?_eq_none invalid]
    rfl
  spelled environment text value set spelled := by
    rw [consults, Variables.text?, set, Option.bind_some, Settings.fromUTF8?_toByteArray]
    exact reads.spelled text value spelled
  misspelled environment text set none := by
    rw [consults, Variables.text?, set, Option.bind_some, Settings.fromUTF8?_toByteArray]
    exact reads.misspelled text none

theorem getD_bind (written : Option String) (read? : String → Option α) (default : α) :
    (written.bind read?).getD default =
      written.elim default fun text => (read? text).getD default := by
  cases written <;> rfl

theorem toOption_eq_some_iff {ε : Type} {outcome : Except ε α} {value : α} :
    outcome.toOption = some value ↔ outcome = .ok value := by
  cases outcome <;> simp [Except.toOption]

theorem finalMethods_decidedBy :
    DecidedBy Settings.finalMethodsVariable (Spelled FinalPolicy.spellings) .dispatch
      fun environment => (Settings.ofEnvironment environment).finalMethods := by
  have exact (text : String) (policy : FinalPolicy) :
      (FinalPolicy.parse text).toOption = some policy ↔ Spelled FinalPolicy.spellings policy text :=
    toOption_eq_some_iff.trans FinalPolicy.parse_eq_ok_iff
  exact decidedBy_of_reads (reads_of_eq_some_iff exact .dispatch) fun _ => getD_bind ..

theorem defaultResult_decidedBy :
    DecidedBy Settings.defaultResultVariable (Spelled DefaultResult.spellings) .null
      fun environment => (Settings.ofEnvironment environment).defaultResult := by
  have exact (text : String) (result : DefaultResult) :
      (DefaultResult.parse text).toOption = some result ↔
        Spelled DefaultResult.spellings result text :=
    toOption_eq_some_iff.trans DefaultResult.parse_eq_ok_iff
  exact decidedBy_of_reads (reads_of_eq_some_iff exact .null) fun _ => getD_bind ..

theorem coerceReturns_decidedBy :
    DecidedBy Settings.coerceReturnsVariable (Spelled flagSpellings) true
      fun environment => (Settings.ofEnvironment environment).coerceReturns := by
  have exact (text : String) (flag : Bool) :
      parseFlag? text = some flag ↔ Spelled flagSpellings flag text :=
    parseFlag?_eq_some_iff
  exact decidedBy_of_reads (reads_of_eq_some_iff exact true) fun _ => getD_bind ..

theorem level_decidedBy :
    DecidedBy LogSettings.levelVariable Level.Spelled .info
      fun environment => (LogSettings.ofEnvironment environment).level := by
  have reads : Reads Level.Spelled .info LogSettings.parseLevel :=
    ⟨fun _ _ => LogSettings.parseLevel_of_spelled, fun _ => LogSettings.parseLevel_of_misspelled⟩
  have consults (written : Option String) :
      (written.map LogSettings.parseLevel).getD .info =
        written.elim .info LogSettings.parseLevel := by
    cases written <;> rfl
  exact decidedBy_of_reads reads fun _ => consults _

/-! ## The texts of documents -/

theorem FinalPolicy.parse_of_document {library : Toml.Library} {text : String}
    {policy : FinalPolicy} (legal : Settings.finalPolicyOf? library (.string text) = some policy) :
    FinalPolicy.parse text = .ok policy := by
  have spellings : ∀ named ∈ Settings.policyNames, named.1 ∈ named.2.spellings := by decide
  have listed := Settings.finalPolicyOf?_string_iff.mp legal
  exact parse_eq_ok_iff.mpr ⟨text, spellings (text, policy) listed, .refl text⟩

theorem DefaultResult.parse_of_document {library : Toml.Library} {text : String}
    {result : DefaultResult}
    (legal : Settings.defaultResultOf? library (.string text) = some result) :
    DefaultResult.parse text = .ok result := by
  have spellings : ∀ named ∈ Settings.resultNames, named.1 ∈ named.2.spellings := by decide
  have listed := Settings.defaultResultOf?_string_iff.mp legal
  exact parse_eq_ok_iff.mpr ⟨text, spellings (text, result) listed, .refl text⟩

/-- The texts of a setting are those that spell a value of it, among them the ones that a
document accepts for it, and each field of the settings and the log level are decided by the
text of one variable. -/
theorem environment_read_by_grammar :
    ((∀ text policy, FinalPolicy.parse text = .ok policy ↔
        Spelled FinalPolicy.spellings policy text) ∧
      (∀ text result, DefaultResult.parse text = .ok result ↔
        Spelled DefaultResult.spellings result text) ∧
      (∀ text flag, parseFlag? text = some flag ↔ Spelled flagSpellings flag text) ∧
      ∀ text level, LogSettings.parseLevel text = level ↔
        level.Spelled text ∨ level = .info ∧ ∀ other : Level, ¬ other.Spelled text) ∧
    ((∀ library text policy, Settings.finalPolicyOf? library (.string text) = some policy →
        FinalPolicy.parse text = .ok policy) ∧
      (∀ library text result, Settings.defaultResultOf? library (.string text) = some result →
        DefaultResult.parse text = .ok result) ∧
      ∀ text, Settings.flagOf? (.string text) = none) ∧
    DecidedBy Settings.finalMethodsVariable (Spelled FinalPolicy.spellings) .dispatch
      (fun environment => (Settings.ofEnvironment environment).finalMethods) ∧
    DecidedBy Settings.defaultResultVariable (Spelled DefaultResult.spellings) .null
      (fun environment => (Settings.ofEnvironment environment).defaultResult) ∧
    DecidedBy Settings.coerceReturnsVariable (Spelled flagSpellings) true
      (fun environment => (Settings.ofEnvironment environment).coerceReturns) ∧
    DecidedBy LogSettings.levelVariable Level.Spelled .info
      (fun environment => (LogSettings.ofEnvironment environment).level) := by
  refine ⟨⟨fun text policy => FinalPolicy.parse_eq_ok_iff,
    fun text result => DefaultResult.parse_eq_ok_iff, fun text flag => parseFlag?_eq_some_iff,
    fun text level => LogSettings.parseLevel_eq_iff⟩,
    ⟨fun library text policy => FinalPolicy.parse_of_document,
      fun library text result => DefaultResult.parse_of_document, fun text => rfl⟩,
    finalMethods_decidedBy, defaultResult_decidedBy, coerceReturns_decidedBy, level_decidedBy⟩

/-- A policy in capitals before a wide blank, a result that is no text, a flag that is no
number, and a level after a blank. -/
theorem environment_read_by_grammar_mixed :
    let environment : Variables :=
      [("PROXY_BRIDGE_FINAL_METHODS", " REJECT\u2003".toByteArray),
        ("PROXY_BRIDGE_DEFAULT_RESULT", ⟨#[0x6e, 0xff]⟩),
        ("PROXY_BRIDGE_COERCE_RETURNS", "yes".toByteArray),
        ("PROXY_BRIDGE_LOG_LEVEL", " warn".toByteArray)]
    Settings.ofEnvironment environment = ⟨.reject, .null, true⟩ ∧
      (LogSettings.ofEnvironment environment).level = .info ∧
      FinalPolicy.parse "ignore" = .ok .ignore := by
  intro environment
  obtain ⟨⟨-, -, flags, levels⟩, ⟨named, -, -⟩, policies, results, coercions, logged⟩ :=
    environment_read_by_grammar
  have capitals : SameLetters "REJECT" "reject" := by decide +kernel
  have rejects : Spelled FinalPolicy.spellings .reject " REJECT\u2003" :=
    ⟨"reject", by decide, " ", "REJECT", "\u2003", rfl, List.all_eq_true.mp rfl,
      List.all_eq_true.mp rfl, capitals⟩
  have policy := policies.spelled environment " REJECT\u2003" .reject rfl rejects
  have result := results.noText environment ⟨#[0x6e, 0xff]⟩ rfl (by decide)
  have misspelled (flag : Bool) : ¬ Spelled flagSpellings flag "yes" := by
    intro spelled
    have refused : parseFlag? "yes" = none := by decide +kernel
    cases refused.symm.trans ((flags "yes" flag).mpr spelled)
  have flag := coercions.misspelled environment "yes" rfl misspelled
  have blank (level : Level) : ¬ level.Spelled " warn" := by
    intro spelled
    have fallback : LogSettings.parseLevel " warn" = .info := by decide +kernel
    obtain rfl := fallback.symm.trans ((levels " warn" level).mpr (.inl spelled))
    exact absurd spelled (by decide +kernel)
  have level := logged.misspelled environment " warn" rfl blank
  refine ⟨?_, level, named Toml.standard "ignore" .ignore rfl⟩
  calc Settings.ofEnvironment environment
    _ = ⟨(Settings.ofEnvironment environment).finalMethods,
          (Settings.ofEnvironment environment).defaultResult,
          (Settings.ofEnvironment environment).coerceReturns⟩ := rfl
    _ = ⟨.reject, .null, true⟩ := by rw [policy, result, flag]

end Interception
