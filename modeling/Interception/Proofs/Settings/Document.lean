import Interception.Failure
import Interception.Proofs.Pairs
import Interception.Settings.File
import Interception.Toml.Standard

/-!
# Documents as a source of settings

Settings are decoded field by field from the table `bridge` of a document. Each field that
is there has to hold a legal value and then has it, and each that is not has its default;
nothing else in the document is looked at, and one illegal field makes the whole fail.

Documents are read by a library, of which only the documented laws are used. What counts as
a document, and the words for a text that is refused, are its own.
-/

set_option autoImplicit false

namespace Interception

/-- The same settings, or failures of which only the words differ. -/
inductive Settings.Alike : Except ConfigurationProblem Settings →
    Except ConfigurationProblem Settings → Prop where
  | decoded (settings : Settings) : Alike (.ok settings) (.ok settings)
  | refused (problem other : ConfigurationProblem)
      (kind : (Failure.configuration problem).kind = "config")
      (otherKind : (Failure.configuration other).kind = "config") :
      Alike (.error problem) (.error other)

namespace Settings

variable {library : Toml.Library} {α : Type}

/-! ## Values of fields -/

/-- The value stands for the choice of a name: it is the name as a text, or a table with the
name as its one key, as far as the library takes it for a variant. -/
inductive Names (library : Toml.Library) (name : String) : Toml.Value → Prop where
  | text : Names library name (.string name)
  | table {content : Toml.Value}
      (accepted : library.variant? (.table [(name, content)]) = some name) :
      Names library name (.table [(name, content)])

def policyNames : List (String × FinalPolicy) :=
  [("dispatch", .dispatch), ("ignore", .ignore), ("reject", .reject)]

def resultNames : List (String × DefaultResult) :=
  [("null", .null), ("type_default", .typeDefault)]

/-- The value stands for one of the named choices. -/
def StandsFor (library : Toml.Library) (choices : List (String × α)) (value : Toml.Value)
    (choice : α) : Prop :=
  ∃ name, (name, choice) ∈ choices ∧ Names library name value

theorem standsFor_string_iff {choices : List (String × α)} {text : String} {choice : α} :
    StandsFor library choices (.string text) choice ↔ (text, choice) ∈ choices := by
  constructor
  · intro ⟨name, listed, names⟩
    cases names with
    | text => exact listed
  · intro listed
    exact ⟨text, listed, .text⟩

theorem choiceOf?_string_iff {choices : List (String × α)}
    (distinct : (choices.map Prod.fst).Nodup) {text : String} {choice : α} :
    choiceOf? library choices (.string text) = some choice ↔ (text, choice) ∈ choices :=
  Pairs.lookup_eq_some_iff_mem distinct (text, choice)

theorem choiceOf?_of_no_text {choices : List (String × α)} {value : Toml.Value}
    (noText : ∀ text, value ≠ .string text) :
    choiceOf? library choices value =
      (library.variant? value).bind fun name => choices.lookup name := by
  cases value with
  | string text => exact absurd rfl (noText text)
  | _ => rfl

theorem choiceOf?_eq_some_iff (documented : library.Documented) {choices : List (String × α)}
    (distinct : (choices.map Prod.fst).Nodup) {value : Toml.Value} {choice : α} :
    choiceOf? library choices value = some choice ↔ StandsFor library choices value choice := by
  have found (name : String) : choices.lookup name = some choice ↔ (name, choice) ∈ choices :=
    Pairs.lookup_eq_some_iff_mem distinct (name, choice)
  constructor
  · intro chosen
    by_cases written : ∃ text, value = .string text
    · obtain ⟨text, rfl⟩ := written
      exact ⟨text, (found text).mp chosen, .text⟩
    · rw [choiceOf?_of_no_text (not_exists.mp written)] at chosen
      obtain ⟨name, accepted, listed⟩ := Option.bind_eq_some_iff.mp chosen
      obtain ⟨content, rfl⟩ := documented.variant_key value name accepted
      exact ⟨name, (found name).mp listed, .table accepted⟩
  · intro ⟨name, listed, names⟩
    cases names with
    | text => exact (found name).mpr listed
    | table accepted =>
        rw [choiceOf?_of_no_text (by simp), accepted]
        exact (found name).mpr listed

theorem finalPolicyOf?_string_iff {text : String} {policy : FinalPolicy} :
    finalPolicyOf? library (.string text) = some policy ↔ (text, policy) ∈ policyNames :=
  choiceOf?_string_iff (by decide)

theorem defaultResultOf?_string_iff {text : String} {result : DefaultResult} :
    defaultResultOf? library (.string text) = some result ↔ (text, result) ∈ resultNames :=
  choiceOf?_string_iff (by decide)

theorem finalPolicyOf?_eq_some_iff (documented : library.Documented) (value : Toml.Value)
    (policy : FinalPolicy) :
    finalPolicyOf? library value = some policy ↔ StandsFor library policyNames value policy :=
  choiceOf?_eq_some_iff documented (by decide)

theorem defaultResultOf?_eq_some_iff (documented : library.Documented) (value : Toml.Value)
    (result : DefaultResult) :
    defaultResultOf? library value = some result ↔ StandsFor library resultNames value result :=
  choiceOf?_eq_some_iff documented (by decide)

theorem flagOf?_eq_some_iff (value : Toml.Value) (flag : Bool) :
    flagOf? value = some flag ↔ value = .boolean flag := by
  cases value <;> simp [flagOf?]

/-! ## Fields -/

/-- A field that stands nowhere has its default, and one that stands in a document has what
its value there means. -/
inductive Has (Means : Toml.Value → α → Prop) (default : α) : Option Toml.Value → α → Prop where
  | missing : Has Means default none default
  | present {value : Toml.Value} {meant : α} :
      Means value meant → Has Means default (some value) meant

theorem orDefault_eq_some_iff {read? : Toml.Value → Option α} {Means : Toml.Value → α → Prop}
    (exact : ∀ value meant, read? value = some meant ↔ Means value meant) {default had : α}
    {found : Option Toml.Value} :
    orDefault read? default found = some had ↔ Has Means default found had := by
  cases found with
  | none =>
      constructor
      · intro defaulted
        cases defaulted
        exact .missing
      · intro has
        cases has
        rfl
  | some value =>
      constructor
      · intro reads
        exact .present ((exact value had).mp reads)
      · intro has
        cases has with
        | present means => exact (exact value had).mpr means

theorem exists_has_iff {Means : Toml.Value → α → Prop} {default : α}
    {found : Option Toml.Value} :
    (∃ had, Has Means default found had) ↔
      ∀ value, found = some value → ∃ meant, Means value meant := by
  constructor
  · intro ⟨had, has⟩ value same
    subst same
    cases has with
    | present means => exact ⟨had, means⟩
  · intro legal
    cases found with
    | none => exact ⟨default, .missing⟩
    | some value =>
        obtain ⟨meant, means⟩ := legal value rfl
        exact ⟨meant, .present means⟩

/-- The settings have field by field what the entries of a table say. -/
structure Decodes (library : Toml.Library) (bridge : Toml.Entries) (settings : Settings) :
    Prop where
  finalMethods : Has (StandsFor library policyNames) .dispatch (bridge.lookup "final_methods")
    settings.finalMethods
  defaultResult : Has (StandsFor library resultNames) .null (bridge.lookup "default_result")
    settings.defaultResult
  coerceReturns : Has (fun value flag => value = .boolean flag) true
    (bridge.lookup "coerce_returns") settings.coerceReturns

/-- Each of the three fields that is present has a legal value. -/
structure Legal (library : Toml.Library) (bridge : Toml.Entries) : Prop where
  finalMethods : ∀ value, bridge.lookup "final_methods" = some value →
    ∃ policy, StandsFor library policyNames value policy
  defaultResult : ∀ value, bridge.lookup "default_result" = some value →
    ∃ result, StandsFor library resultNames value result
  coerceReturns : ∀ value, bridge.lookup "coerce_returns" = some value →
    ∃ flag : Bool, value = .boolean flag

theorem exists_decodes_iff {bridge : Toml.Entries} :
    (∃ settings, Decodes library bridge settings) ↔ Legal library bridge := by
  constructor
  · intro ⟨settings, decodes⟩
    exact ⟨exists_has_iff.mp ⟨_, decodes.finalMethods⟩,
      exists_has_iff.mp ⟨_, decodes.defaultResult⟩, exists_has_iff.mp ⟨_, decodes.coerceReturns⟩⟩
  · intro legal
    obtain ⟨policy, hasPolicy⟩ := exists_has_iff.mpr legal.finalMethods
    obtain ⟨result, hasResult⟩ := exists_has_iff.mpr legal.defaultResult
    obtain ⟨flag, hasFlag⟩ := exists_has_iff.mpr legal.coerceReturns
    exact ⟨⟨policy, result, flag⟩, hasPolicy, hasResult, hasFlag⟩

/-- Only what is under the names of the three fields counts. -/
theorem Decodes.of_agree {bridge other : Toml.Entries} {settings : Settings}
    (agree : ∀ name ∈ fieldNames, bridge.lookup name = other.lookup name)
    (decodes : Decodes library bridge settings) : Decodes library other settings where
  finalMethods := agree "final_methods" (by decide) ▸ decodes.finalMethods
  defaultResult := agree "default_result" (by decide) ▸ decodes.defaultResult
  coerceReturns := agree "coerce_returns" (by decide) ▸ decodes.coerceReturns

theorem decodes_congr {bridge other : Toml.Entries}
    (agree : ∀ name ∈ fieldNames, bridge.lookup name = other.lookup name)
    (settings : Settings) : Decodes library bridge settings ↔ Decodes library other settings :=
  ⟨.of_agree agree, .of_agree fun name listed => (agree name listed).symm⟩

theorem ofFields?_eq_some_iff (documented : library.Documented) {fields : Toml.Entries}
    {settings : Settings} :
    ofFields? library fields = some settings ↔ Decodes library fields settings := by
  have finalMethods := @orDefault_eq_some_iff _ _ _
    (finalPolicyOf?_eq_some_iff documented) .dispatch
  have defaultResult := @orDefault_eq_some_iff _ _ _
    (defaultResultOf?_eq_some_iff documented) .null
  have coerceReturns := @orDefault_eq_some_iff _ _ _ flagOf?_eq_some_iff true
  constructor
  · intro decoded
    obtain ⟨policy, policyRead, decoded⟩ := Option.bind_eq_some_iff.mp decoded
    obtain ⟨result, resultRead, decoded⟩ := Option.bind_eq_some_iff.mp decoded
    obtain ⟨flag, flagRead, same⟩ := Option.bind_eq_some_iff.mp decoded
    cases same
    exact ⟨finalMethods.mp policyRead, defaultResult.mp resultRead, coerceReturns.mp flagRead⟩
  · intro decodes
    simp [ofFields?, finalMethods.mpr decodes.finalMethods,
      defaultResult.mpr decodes.defaultResult, coerceReturns.mpr decodes.coerceReturns]

theorem ofValue?_table_iff (documented : library.Documented) {bridge : Toml.Entries}
    {settings : Settings} :
    ofValue? library (.table bridge) = some settings ↔ Decodes library bridge settings := by
  obtain ⟨fields, read, agree⟩ := documented.record_table fieldNames bridge
  rw [ofValue?, read, Option.bind_eq_bind, Option.bind_some, ofFields?_eq_some_iff documented]
  exact decodes_congr agree settings

/-! ## Documents -/

/-- The text is a document whose `bridge` is a table of these entries, or is missing, and then
has no entries. -/
inductive Bridged (library : Toml.Library) (text : String) : Toml.Entries → Prop where
  | missing {document : Toml.Entries} :
      library.content? text = some document → document.lookup "bridge" = none →
      Bridged library text []
  | table {document bridge : Toml.Entries} :
      library.content? text = some document →
      document.lookup "bridge" = some (.table bridge) → Bridged library text bridge

theorem parse_eq_ok_iff {text : String} {settings : Settings} :
    parse library text = .ok settings ↔ parse? library text = some settings := by
  unfold parse
  cases parse? library text <;> simp

theorem parse_eq_error {text : String} (refused : ∀ settings, parse library text ≠ .ok settings) :
    parse library text = .error (.malformed (library.complaint text)) := by
  cases read : parse? library text with
  | none => simp [parse, read]
  | some settings => exact absurd (parse_eq_ok_iff.mpr read) (refused settings)

theorem parse?_of_content {text : String} {document : Toml.Entries}
    (documented : library.Documented) (valid : library.content? text = some document) :
    parse? library text = orDefault (ofValue? library) {} (document.lookup "bridge") := by
  obtain ⟨fields, read, agree⟩ := documented.record_table ["bridge"] document
  simp [parse?, valid, ofDocument?, read, agree]

namespace Bridged

variable {text other : String} {bridge otherBridge : Toml.Entries}

theorem parse_eq_ok_iff (bridged : Bridged library text bridge) (documented : library.Documented)
    (settings : Settings) :
    parse library text = .ok settings ↔ Decodes library bridge settings := by
  rw [Settings.parse_eq_ok_iff]
  cases bridged with
  | missing valid absent =>
      rw [parse?_of_content documented valid, absent, orDefault,
        ← ofFields?_eq_some_iff documented]
      rfl
  | table valid found =>
      rw [parse?_of_content documented valid, found, orDefault, ofValue?_table_iff documented]

theorem exists_parse_eq_ok_iff (bridged : Bridged library text bridge)
    (documented : library.Documented) :
    (∃ settings, parse library text = .ok settings) ↔ Legal library bridge :=
  (exists_congr (bridged.parse_eq_ok_iff documented)).trans exists_decodes_iff

theorem parse_illegal (bridged : Bridged library text bridge) (documented : library.Documented)
    (illegal : ¬ Legal library bridge) :
    parse library text = .error (.malformed (library.complaint text)) := by
  apply parse_eq_error
  intro settings parsed
  exact illegal ((bridged.exists_parse_eq_ok_iff documented).mp ⟨settings, parsed⟩)

theorem alike (bridged : Bridged library text bridge)
    (otherBridged : Bridged library other otherBridge) (documented : library.Documented)
    (agree : ∀ name ∈ fieldNames, bridge.lookup name = otherBridge.lookup name) :
    Alike (parse library text) (parse library other) := by
  have same (settings : Settings) :
      parse library text = .ok settings ↔ parse library other = .ok settings := by
    rw [bridged.parse_eq_ok_iff documented, otherBridged.parse_eq_ok_iff documented,
      decodes_congr agree]
  cases parsed : parse library text with
  | ok settings =>
      rw [(same settings).mp parsed]
      exact .decoded settings
  | error problem =>
      have refused : ∀ settings, parse library other ≠ .ok settings := by
        intro settings otherParsed
        cases parsed.symm.trans ((same settings).mpr otherParsed)
      rw [parse_eq_error refused]
      exact .refused _ _ rfl rfl

end Bridged

/-! ## Files -/

theorem fromUTF8?_toByteArray (text : String) : String.fromUTF8? text.toByteArray = some text :=
  dif_pos text.isValidUTF8

theorem fromUTF8?_eq_none {content : ByteArray} (invalid : ¬ content.IsValidUTF8) :
    String.fromUTF8? content = none :=
  dif_neg invalid

theorem load_text (library : Toml.Library) (path text : String) :
    load library path (.ok text.toByteArray) = parse library text := by
  simp [load, fromUTF8?_toByteArray]

theorem load_invalid (library : Toml.Library) (path : String) {content : ByteArray}
    (invalid : ¬ content.IsValidUTF8) :
    load library path (.ok content) = .error (.unreadable path .notUtf8) := by
  simp [load, fromUTF8?_eq_none invalid]

/-- A text whose `bridge` is a table, or missing, is decoded by the three fields of that table
alone, and refused in the words of the library if one of them is illegal. A file says what its
text says, and nothing if it is no text. -/
theorem settings_decoded_by_field (library : Toml.Library) (documented : library.Documented) :
    (∀ (text : String) (bridge : Toml.Entries), Bridged library text bridge →
      (∀ settings, parse library text = .ok settings ↔ Decodes library bridge settings) ∧
      ((∃ settings, parse library text = .ok settings) ↔ Legal library bridge) ∧
      (¬ Legal library bridge →
        parse library text = .error (.malformed (library.complaint text)) ∧
        (Failure.configuration (.malformed (library.complaint text))).kind = "config")) ∧
    (∀ (text other : String) (bridge otherBridge : Toml.Entries),
      Bridged library text bridge → Bridged library other otherBridge →
      (∀ name ∈ fieldNames, bridge.lookup name = otherBridge.lookup name) →
      Alike (parse library text) (parse library other)) ∧
    ∀ path : String,
      (∀ text : String, load library path (.ok text.toByteArray) = parse library text) ∧
      (∀ content : ByteArray, ¬ content.IsValidUTF8 →
        load library path (.ok content) = .error (.unreadable path .notUtf8) ∧
        (Failure.configuration (.unreadable path .notUtf8)).kind = "config") ∧
      ∀ cause, load library path (.error cause) = .error (.unreadable path cause) := by
  refine ⟨?fields, ?agreement, ?files⟩
  case fields =>
    intro text bridge bridged
    refine ⟨bridged.parse_eq_ok_iff documented, bridged.exists_parse_eq_ok_iff documented, ?_⟩
    intro illegal
    exact ⟨bridged.parse_illegal documented illegal, rfl⟩
  case agreement =>
    intro text other bridge otherBridge bridged otherBridged agree
    exact bridged.alike otherBridged documented agree
  case files =>
    intro path
    exact ⟨load_text library path, fun content invalid => ⟨load_invalid library path invalid, rfl⟩,
      fun cause => rfl⟩

/-- A library that knows some documents by heart, and what is wrong with some texts. -/
def Toml.Library.knowing (known : List (String × Toml.Entries))
    (complaints : List (String × String)) : Toml.Library :=
  { Toml.standard with
    content? := fun text => known.lookup text
    complaint := fun text => (complaints.lookup text).getD "" }

/-- The same field under a header and by a dotted key, a policy written as a table, and one
that is not spelled as it is named. -/
theorem settings_decoded_by_field_coercing :
    let headed := "level = 3\n[bridge]\ncoerce_returns = false\n"
    let dotted := "bridge.coerce_returns = false\nbridge.level = 3\n"
    let keyed := "[bridge]\nfinal_methods = \x7b reject = \x7b\x7d \x7d\n"
    let misspelled := "[bridge]\nfinal_methods = \"Reject\"\n"
    let complaint := "TOML parse error at line 2, column 17\n  |\n" ++
      "2 | final_methods = \"Reject\"\n  |                 ^^^^^^^^\n" ++
      "unknown variant `Reject`, expected one of `dispatch`, `ignore`, `reject`\n"
    let library := Toml.Library.knowing
      [(headed, [("level", .integer 3), ("bridge", .table [("coerce_returns", .boolean false)])]),
        (dotted, [("bridge", .table [("coerce_returns", .boolean false), ("level", .integer 3)])]),
        (keyed, [("bridge", .table [("final_methods", .table [("reject", .table [])])])]),
        (misspelled, [("bridge", .table [("final_methods", .string "Reject")])])]
      [(misspelled, complaint)]
    library.Documented ∧
      parse library headed = .ok ⟨.dispatch, .null, false⟩ ∧
      Alike (parse library headed) (parse library dotted) ∧
      parse library keyed = .ok ⟨.reject, .null, true⟩ ∧
      parse library misspelled = .error (.malformed complaint) ∧
      load library "bridge.toml" (.ok dotted.toByteArray) = parse library dotted ∧
      load library "bridge.toml" (.ok ⟨#[0xff]⟩) = .error (.unreadable "bridge.toml" .notUtf8) := by
  intro headed dotted keyed misspelled complaint library
  have documented : library.Documented :=
    ⟨Toml.standard_documented.record_table, Toml.standard_documented.variant_key⟩
  obtain ⟨decoded, agreement, files⟩ := settings_decoded_by_field library documented
  have underHeader : Bridged library headed [("coerce_returns", .boolean false)] :=
    .table rfl rfl
  have byDottedKey : Bridged library dotted
      [("coerce_returns", .boolean false), ("level", .integer 3)] :=
    .table rfl rfl
  have byKey : Bridged library keyed [("final_methods", .table [("reject", .table [])])] :=
    .table rfl rfl
  have inCapitals : Bridged library misspelled [("final_methods", .string "Reject")] :=
    .table rfl rfl
  have illegal : ¬ Legal library [("final_methods", .string "Reject")] := by
    intro legal
    obtain ⟨policy, stands⟩ := legal.finalMethods (.string "Reject") rfl
    exact absurd (standsFor_string_iff.mp stands) (by cases policy <;> decide)
  refine ⟨documented, ?headed, ?alike, ?keyed, ?misspelled, ?loaded, ?invalid⟩
  case headed =>
    exact ((decoded _ _ underHeader).1 _).mpr ⟨.missing, .missing, .present rfl⟩
  case alike =>
    apply agreement _ _ _ _ underHeader byDottedKey
    simp only [fieldNames, List.forall_mem_cons]
    exact ⟨rfl, rfl, rfl, nofun⟩
  case keyed =>
    exact ((decoded _ _ byKey).1 _).mpr
      ⟨.present ⟨"reject", by decide, .table rfl⟩, .missing, .missing⟩
  case misspelled => exact ((decoded _ _ inCapitals).2.2 illegal).1
  case loaded => exact (files "bridge.toml").1 dotted
  case invalid => exact ((files "bridge.toml").2.1 ⟨#[0xff]⟩ (by decide)).1

end Settings

end Interception
