import CallControl.Config
import CallControl.Proofs.RecordFields
import CallControl.Proofs.Written

/-! # The forms of a configuration

A configuration is written as a text, and is read from a text or from environment variables,
in both cases as changes to the standard one (`Config.Changes`). The forms agree: a text of
an object with some of the fields and an environment in which they are set give the same
configuration, or the same refusal, and the text of an acceptable configuration gives the
configuration back (`Config.forms_agree`).
-/

namespace CallControl

open CallControl.Json CallControl.Text

/-! ## Durations in the environment -/

/-- A duration as an environment variable spells it: decimal digits, at least one, with perhaps
a plus sign before them and white space around. -/
inductive TimeoutText : List Char → UInt64 → Prop
  | digits {left sign written right : List Char} {values : List Nat} {timeout : UInt64}
      (before : White left) (signed : sign = [] ∨ sign = ['+'])
      (digits : DigitsText digit? written values) (nonempty : written ≠ [])
      (after : White right) (value : ofDigits values = timeout.toNat) :
      TimeoutText (left ++ (sign ++ written) ++ right) timeout

private theorem parseDecimal?_eq_some_iff {text : List Char} {value : Nat} :
    parseDecimal? text = some value ↔
      text ≠ [] ∧ ∃ values, DigitsText digit? text values ∧ ofDigits values = value := by
  unfold parseDecimal?
  split
  next empty => exact iff_of_false nofun fun both => both.1 (List.isEmpty_iff.mp empty)
  next nonempty =>
    rw [Option.map_eq_some_iff, and_iff_right (List.isEmpty_iff.not.mp nonempty)]
    simp only [mapM_eq_some_iff, DigitsText]

private theorem isWhiteSpace_of_digit? {character : Char} {value : Nat}
    (digit : digit? character = some value) : isWhiteSpace character = false := by
  obtain ⟨small, rfl⟩ := eq_digitChar digit
  have every : ∀ candidate ∈ List.range 10, isWhiteSpace (digitChar candidate) = false := by
    decide
  exact every value (List.mem_range.mpr small)

private theorem exists_digit?_of_mem {written : List Char} {values : List Nat}
    (digits : DigitsText digit? written values) {character : Char} (mem : character ∈ written) :
    ∃ value, digit? character = some value := by
  induction digits with
  | nil => nomatch mem
  | cons first _ ih =>
      rcases List.mem_cons.mp mem with rfl | later
      · exact ⟨_, first⟩
      · exact ih later

/-- Digits with or without a sign have no white space at their ends. -/
theorem trimmed_of_digits {sign written : List Char} {values : List Nat}
    (signed : sign = [] ∨ sign = ['+']) (digits : DigitsText digit? written values) :
    Trimmed (sign ++ written) := by
  refine .of_visible fun character mem => ?_
  rcases List.mem_append.mp mem with inSign | inDigits
  · obtain rfl | rfl := signed
    · nomatch inSign
    · cases List.mem_singleton.mp inSign
      decide
  · obtain ⟨value, digit⟩ := exists_digit?_of_mem digits inDigits
    exact isWhiteSpace_of_digit? digit

/-- The digits of a duration once white space and the sign are off. -/
def unsigned : List Char → List Char
  | '+' :: rest => rest
  | text => text

private theorem exists_sign (text : List Char) :
    ∃ sign, (sign = [] ∨ sign = ['+']) ∧ text = sign ++ unsigned text := by
  unfold unsigned
  split
  next rest => exact ⟨['+'], .inr rfl, rfl⟩
  next => exact ⟨[], .inl rfl, rfl⟩

private theorem unsigned_append {sign written : List Char} {values : List Nat}
    (signed : sign = [] ∨ sign = ['+']) (digits : DigitsText digit? written values) :
    unsigned (sign ++ written) = written := by
  obtain rfl | rfl := signed
  · rw [List.nil_append]
    unfold unsigned
    split
    next rest =>
      obtain ⟨value, digit⟩ := exists_digit?_of_mem digits List.mem_cons_self
      cases digit
    next => rfl
  · rfl

private theorem exists_toNat_eq_iff {value : Nat} {timeout : UInt64} :
    (if value < UInt64.size then some value.toUInt64 else none) = some timeout ↔
      value = timeout.toNat := by
  constructor
  · intro kept
    split at kept
    next fits =>
      cases kept
      exact (Nat.mod_eq_of_lt fits).symm
    next => cases kept
  · rintro rfl
    rw [if_pos timeout.toNat_lt_size]
    exact congrArg some timeout.ofNat_toNat

/-- Exactly the spelled durations are read. -/
theorem Config.parseTimeout?_eq_some_iff {text : String} {timeout : UInt64} :
    parseTimeout? text = some timeout ↔ TimeoutText text.toList timeout := by
  have parsed : parseTimeout? text = (parseDecimal? (unsigned (trim text.toList))).bind
      fun value => if value < UInt64.size then some value.toUInt64 else none := rfl
  simp only [parsed, Option.bind_eq_some_iff, exists_toNat_eq_iff, exists_eq_right,
    parseDecimal?_eq_some_iff]
  constructor
  · rintro ⟨nonempty, values, digits, value⟩
    -- only a text without white space at its ends can be found again between white space
    obtain ⟨sign, signed, whole⟩ := exists_sign (trim text.toList)
    have trimmed := trimmed_of_digits signed digits
    obtain ⟨left, right, same, before, after⟩ := (trim_eq_iff trimmed).mp whole
    rw [same]
    exact .digits before signed digits nonempty after value
  · intro spelled
    generalize text.toList = characters at spelled
    obtain ⟨before, signed, digits, nonempty, after, value⟩ := spelled
    have trimmed := trimmed_of_digits signed digits
    rw [(trim_eq_iff trimmed).mpr ⟨_, _, rfl, before, after⟩, unsigned_append signed digits]
    exact ⟨nonempty, _, digits, value⟩

/-! ## Changes -/

namespace Config

/-- Changes to a configuration: a value for each field that is changed. -/
structure Changes where
  relayBaseUrl : Option String
  iceConfigUrl : Option String
  connectTimeoutMs : Option UInt64
  dataChannelLabel : Option String

namespace Changes

/-- A configuration with the changes made. -/
def applyTo (changes : Changes) (config : Config) : Config where
  relayBaseUrl := changes.relayBaseUrl.getD config.relayBaseUrl
  iceConfigUrl := changes.iceConfigUrl.getD config.iceConfigUrl
  connectTimeoutMs := changes.connectTimeoutMs.getD config.connectTimeoutMs
  dataChannelLabel := changes.dataChannelLabel.getD config.dataChannelLabel

/-- The document of a duration. -/
def timeoutDocument (timeout : UInt64) : Document :=
  .scalar (.number (integerLiteral (.ofNat timeout.toNat)))

/-- The fields of a record of changes. -/
def record (changes : Changes) : List (String × Option Document) :=
  [("relayBaseUrl", changes.relayBaseUrl.map textDocument),
    ("iceConfigUrl", changes.iceConfigUrl.map textDocument),
    ("connectTimeoutMs", changes.connectTimeoutMs.map timeoutDocument),
    ("dataChannelLabel", changes.dataChannelLabel.map textDocument)]

/-- A text says some changes: it is the text of an object with the changed fields, in any
order. -/
def SaidBy (changes : Changes) (text : String) : Prop :=
  ∃ members, Denotes text.toList (.object members) ∧
    members.Perm (presentMembers changes.record)

/-- An environment sets some changes: to the addresses that it holds, and to the time allowed
if it holds one, which must be spelled as a duration. -/
structure SetBy (changes : Changes) (environment : Environment) : Prop where
  relay : changes.relayBaseUrl = environment.relayUrl
  ice : changes.iceConfigUrl = environment.iceConfigUrl
  timeout : Option.Rel (fun text timeout => TimeoutText text.toList timeout)
    environment.connectTimeoutMs changes.connectTimeoutMs
  label : changes.dataChannelLabel = none

/-- Every field of a configuration as a change. -/
def all (config : Config) : Changes :=
  ⟨some config.relayBaseUrl, some config.iceConfigUrl, some config.connectTimeoutMs,
    some config.dataChannelLabel⟩

/-- A change of everything leaves nothing of the earlier configuration. -/
theorem applyTo_all (config other : Config) : (all config).applyTo other = config := rfl

private theorem natural?_timeoutDocument (timeout : UInt64) :
    natural? (timeoutDocument timeout) = some timeout.toNat := by
  have fits : timeout.toNat ≤ maxUnsigned := Nat.le_of_lt_succ timeout.toNat_lt_size
  simp only [natural?, timeoutDocument, integerLiteral, NumberLiteral.natural?,
    NumberLiteral.integer?, List.isEmpty_nil, Option.isNone_none, Bool.and_self,
    Bool.false_eq_true, ↓reduceIte, ofDigits_digits, fits, Option.map_some, Int.toNat_natCast]

/-- A text of changes is read as the standard configuration with the changes made. -/
theorem SaidBy.read {changes : Changes} {text : String} (said : changes.SaidBy text) :
    ofText text = (changes.applyTo standard).validate := by
  obtain ⟨members, denotes, reordered⟩ := said
  have names : changes.record.map Prod.fst =
      ["relayBaseUrl", "iceConfigUrl", "connectTimeoutMs", "dataChannelLabel"] := rfl
  have fields := fields?_presentMembers changes.record (by rw [names]; decide)
  rw [names, ← fields?_object_of_perm reordered] at fields
  have timeout : ((changes.connectTimeoutMs.map UInt64.toNat).getD
      standard.connectTimeoutMs.toNat).toUInt64 =
        changes.connectTimeoutMs.getD standard.connectTimeoutMs := by
    cases changes.connectTimeoutMs with
    | none => rfl
    | some timeout => exact timeout.ofNat_toNat
  have read : read? (.object members) = some (changes.applyTo standard) := by
    simp only [read?, fields, record, List.map_cons, List.map_nil,
      orDefault_map string?_textDocument, orDefault_map natural?_timeoutDocument,
      Option.bind_some, Option.map_some, Option.map_id', timeout, applyTo]
  rw [ofText, parse?_eq_some_iff.mpr denotes, Option.bind_some, read]

private theorem SetBy.read {changes : Changes} {environment : Environment}
    (set : changes.SetBy environment) :
    ofEnvironment environment = (changes.applyTo standard).validate := by
  obtain ⟨relayUrl, iceConfigUrl, given⟩ := environment
  obtain ⟨_, _, timeout, _⟩ := changes
  obtain ⟨rfl, rfl, spelled, rfl⟩ := set
  change Option.Rel _ given timeout at spelled
  cases spelled with
  | none => rfl
  | some spelled =>
      simp only [ofEnvironment, parseTimeout?_eq_some_iff.mpr spelled]
      rfl

private theorem exists_spells_of_mem_record {changes : Changes} {name : String}
    {document : Document}
    (mem : (name, some document) ∈ changes.record) : ∃ written, Spells written document := by
  simp only [record, List.mem_cons, Prod.mk.injEq, List.not_mem_nil, or_false] at mem
  obtain ⟨-, given⟩ | ⟨-, given⟩ | ⟨-, given⟩ | ⟨-, given⟩ := mem
  all_goals obtain ⟨value, -, rfl⟩ := Option.map_eq_some_iff.mp given.symm
  · exact ⟨_, .writeText value⟩
  · exact ⟨_, .writeText value⟩
  · exact ⟨_, .signedDecimal (.ofNat value.toNat)⟩
  · exact ⟨_, .writeText value⟩

/-- Any changes can be said. -/
theorem exists_saidBy (changes : Changes) : ∃ text, changes.SaidBy text := by
  have object : ∃ written, Spells written (.object (presentMembers changes.record)) := by
    refine Spells.exists_object fun member mem => ?_
    obtain ⟨⟨name, value⟩, known, present⟩ := List.mem_filterMap.mp mem
    obtain ⟨document, rfl, rfl⟩ := Option.map_eq_some_iff.mp present
    obtain ⟨written, spells⟩ := exists_spells_of_mem_record known
    exact ⟨(name, written), rfl, spells⟩
  obtain ⟨written, spells⟩ := object
  refine ⟨String.ofList written, _, ?_, .refl _⟩
  rw [String.toList_ofList]
  exact spells_iff_denotes.mp spells

/-- The text of a configuration says everything about it. -/
theorem saidBy_toText (config : Config) : (all config).SaidBy config.toText := by
  refine ⟨_, ?_, .refl _⟩
  rw [toText, String.toList_ofList]
  refine spells_iff_denotes.mp (.writeObject ?_)
  exact .cons ⟨rfl, .writeText _⟩ (.cons ⟨rfl, .writeText _⟩
    (.cons ⟨rfl, .signedDecimal (.ofNat config.connectTimeoutMs.toNat)⟩
      (.cons ⟨rfl, .writeText _⟩ .nil)))

end Changes

/-! ## The forms agree -/

/-- A configuration that may be used: with the address of a web socket and with a label. -/
structure Acceptable (config : Config) : Prop where
  relay : "ws://".toList <+: config.relayBaseUrl.toList ∨
    "wss://".toList <+: config.relayBaseUrl.toList
  label : config.dataChannelLabel ≠ ""

private theorem isWebSocketUrl_iff {url : String} :
    isWebSocketUrl url = true ↔ "ws://".toList <+: url.toList ∨ "wss://".toList <+: url.toList := by
  rw [isWebSocketUrl, Bool.or_eq_true, List.isPrefixOf_iff_prefix, List.isPrefixOf_iff_prefix]

/-- A configuration that is acceptable is valid as it stands. -/
theorem validate_of_acceptable {config : Config} (acceptable : config.Acceptable) :
    config.validate = .ok config := by
  have relay : isWebSocketUrl config.relayBaseUrl = true := isWebSocketUrl_iff.mpr acceptable.relay
  have label : config.dataChannelLabel.isEmpty = false := by
    simpa using acceptable.label
  simp only [validate, relay, label, Bool.not_true, Bool.false_eq_true, ↓reduceIte]

/-- Any other configuration is refused with a reason. -/
theorem exists_validate_of_not_acceptable {config : Config} (refused : ¬ config.Acceptable) :
    ∃ reason, config.validate = .error (.call (.invalidConfig reason)) := by
  unfold validate
  split
  next => exact ⟨_, rfl⟩
  next relay =>
    split
    next => exact ⟨_, rfl⟩
    next label =>
      have address : isWebSocketUrl config.relayBaseUrl = true := by simpa using relay
      exact absurd ⟨isWebSocketUrl_iff.mp address, by simpa using label⟩ refused

/-- What a configuration leads to: itself if it is acceptable, a refusal if it is not. -/
def Judged (config : Config) (outcome : Except Failure Config) : Prop :=
  (config.Acceptable → outcome = .ok config) ∧
    (¬ config.Acceptable → ∃ reason, outcome = .error (.call (.invalidConfig reason)))

private theorem judged_validate (config : Config) : config.Judged config.validate :=
  ⟨validate_of_acceptable, exists_validate_of_not_acceptable⟩

private theorem ofEnvironment_of_not_timeoutText {environment : Environment} {text : String}
    (given : environment.connectTimeoutMs = some text)
    (unspelled : ¬ ∃ timeout, TimeoutText text.toList timeout) :
    ofEnvironment environment =
      .error (.call (.invalidConfig ("PORTRTC_CONNECT_TIMEOUT_MS=" ++ text))) := by
  have unread : parseTimeout? text = none := Option.eq_none_iff_forall_ne_some.mpr
    fun timeout parsed => unspelled ⟨timeout, parseTimeout?_eq_some_iff.mp parsed⟩
  simp only [ofEnvironment, given, unread]

/-- The forms of a configuration agree. The text of a configuration gives it back if it is
acceptable, and is refused otherwise. Any text of an object with some of the fields, in any
order, gives the standard configuration with these changed, subject to the same judgement; and
an environment gives what such a text of the variables that are set gives. A time allowed is
spelled in an environment by decimal digits with perhaps a plus sign, white space around them
left out of account, if their value fits 64 bits; any other one is refused. -/
theorem forms_agree :
    (∀ config : Config, config.Judged (ofText config.toText)) ∧
      (∀ (changes : Changes) (text : String), changes.SaidBy text →
        ofText text = (changes.applyTo standard).validate ∧
          (changes.applyTo standard).Judged (ofText text)) ∧
      (∀ (environment : Environment) (changes : Changes), changes.SetBy environment →
        (∃ text, changes.SaidBy text) ∧
          ∀ text : String, changes.SaidBy text → ofEnvironment environment = ofText text) ∧
      ∀ (environment : Environment) (text : String), environment.connectTimeoutMs = some text →
        (¬ ∃ timeout, TimeoutText text.toList timeout) →
          ofEnvironment environment =
            .error (.call (.invalidConfig ("PORTRTC_CONNECT_TIMEOUT_MS=" ++ text))) := by
  refine ⟨fun config => ?_, fun changes text said => ?_,
    fun environment changes set => ⟨changes.exists_saidBy, fun text said => ?_⟩,
    fun environment text given unspelled => ofEnvironment_of_not_timeoutText given unspelled⟩
  · rw [(Changes.saidBy_toText config).read, Changes.applyTo_all]
    exact judged_validate config
  · exact ⟨said.read, said.read ▸ judged_validate _⟩
  · exact set.read.trans said.read.symm

/-- The time allowed as an environment and as a text give it, and one that is too long. -/
theorem forms_agree_on_timeout :
    ofText standard.toText = .ok standard ∧
      ofEnvironment ⟨none, none, some " +1500\n"⟩ =
        ofText "\x7b \"connectTimeoutMs\" : 1500 \x7d" ∧
      ofEnvironment ⟨none, none, some "18446744073709551616"⟩ =
        .error (.call (.invalidConfig "PORTRTC_CONNECT_TIMEOUT_MS=18446744073709551616")) := by
  obtain ⟨whole, -, agrees, refuses⟩ := forms_agree
  have acceptable : standard.Acceptable := ⟨.inl (by decide), by decide⟩
  have spelled : TimeoutText " +1500\n".toList 1500 := parseTimeout?_eq_some_iff.mp (by rfl)
  have set : Changes.SetBy ⟨none, none, some 1500, none⟩ ⟨none, none, some " +1500\n"⟩ :=
    ⟨rfl, rfl, .some spelled, rfl⟩
  have number : Changes.timeoutDocument 1500 =
      .scalar (.number ⟨false, [1, 5, 0, 0], [], none⟩) := by
    simp [Changes.timeoutDocument, integerLiteral, digits]
  have said : Changes.SaidBy ⟨none, none, some 1500, none⟩
      "\x7b \"connectTimeoutMs\" : 1500 \x7d" := by
    refine ⟨[(some "connectTimeoutMs", Changes.timeoutDocument 1500)], ?_, .refl _⟩
    rw [number]
    exact parse?_eq_some_iff.mp rfl
  have tooLong : ¬ ∃ timeout, TimeoutText "18446744073709551616".toList timeout := by
    rintro ⟨timeout, spelled⟩
    have unread : parseTimeout? "18446744073709551616" = none := by rfl
    cases unread.symm.trans (parseTimeout?_eq_some_iff.mpr spelled)
  exact ⟨(whole standard).1 acceptable, (agrees _ _ set).2 _ said, refuses _ _ rfl tooLong⟩

end Config

end CallControl
