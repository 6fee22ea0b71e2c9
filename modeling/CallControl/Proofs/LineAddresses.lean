import CallControl.Proofs.ConfigForms
import Mathlib.Data.List.DropRight

/-! # The address of a line

The address of a line is that of the relay without the slashes at its end, the path `/line/`
and the line. So no slash stands in front of the path, and different lines have different
addresses. An accepted address begins with a scheme, which the addresses of lines keep unless
the address names nothing behind it (`Config.lineUrl_keeps_scheme_iff`): an address of a scheme
and slashes is accepted too, and the slashes that are taken off its end are then the scheme's.
-/

namespace CallControl

/-! ## Slashes at the end -/

namespace Config

private theorem trimSlashes_eq_rdropWhile (text : List Char) :
    trimSlashes text = text.rdropWhile (· == '/') := rfl

private theorem getLast?_trimSlashes (text : List Char) :
    (trimSlashes text).getLast? ≠ some '/' := by
  intro slash
  obtain ⟨nonempty, last⟩ := List.mem_getLast?_eq_getLast slash
  exact List.rdropWhile_last_not (· == '/') text nonempty (beq_iff_eq.mpr last.symm)

private theorem exists_trimSlashes (text : List Char) :
    ∃ count, text = trimSlashes text ++ List.replicate count '/' := by
  have slashes : ∀ character ∈ text.rtakeWhile (· == '/'), character = '/' :=
    fun character mem => beq_iff_eq.mp (List.mem_rtakeWhile_imp (p := (· == '/')) mem)
  refine ⟨(text.rtakeWhile (· == '/')).length, ?_⟩
  rw [← List.eq_replicate_of_mem slashes, trimSlashes_eq_rdropWhile,
    List.rdropWhile_append_rtakeWhile]

/-- A text keeps what stands in front of all the slashes at its end. -/
theorem trimSlashes_eq_iff {text kept : List Char} :
    trimSlashes text = kept ↔
      kept.getLast? ≠ some '/' ∧ ∃ count, text = kept ++ List.replicate count '/' := by
  constructor
  · rintro rfl
    exact ⟨getLast?_trimSlashes text, exists_trimSlashes text⟩
  · rintro ⟨ends, count, rfl⟩
    induction count with
    | zero =>
        rw [List.replicate_zero, List.append_nil, trimSlashes_eq_rdropWhile,
          List.rdropWhile_eq_self_iff]
        intro nonempty slash
        rw [List.getLast?_eq_some_getLast nonempty, beq_iff_eq.mp slash] at ends
        exact ends rfl
    | succ count ih =>
        rw [List.replicate_succ', ← List.append_assoc, trimSlashes_eq_rdropWhile,
          List.rdropWhile_concat, if_pos (beq_self_eq_true '/')]
        exact ih

private theorem toList_lineUrl (config : Config) (line : String) :
    (config.lineUrl line).toList =
      trimSlashes config.relayBaseUrl.toList ++ ("/line/".toList ++ line.toList) := by
  rw [lineUrl, String.toList_append, String.toList_append, String.toList_ofList,
    List.append_assoc]

private theorem lineUrl_injective (config : Config) : Function.Injective config.lineUrl := by
  intro line other same
  have texts := congrArg String.toList same
  rw [toList_lineUrl, toList_lineUrl] at texts
  exact String.toList_inj.mp (List.append_cancel_left (List.append_cancel_left texts))

end Config

/-! ## Schemes -/

/-- The schemes of a web socket's address. -/
inductive Scheme
  | ws
  | wss
  deriving Repr, DecidableEq

namespace Scheme

/-- The name of a scheme and a colon. -/
def label : Scheme → String
  | ws => "ws:"
  | wss => "wss:"

/-- A scheme as an address begins with it. -/
def text (scheme : Scheme) : String :=
  scheme.label ++ "//"

/-- An address begins with a scheme. -/
def Opens (scheme : Scheme) (address : String) : Prop :=
  scheme.text.toList <+: address.toList

/-- An address names nothing behind its scheme: only slashes follow. -/
def Alone (scheme : Scheme) (address : String) : Prop :=
  ∃ count, address.toList = scheme.text.toList ++ List.replicate count '/'

instance (scheme : Scheme) (address : String) : Decidable (scheme.Opens address) :=
  inferInstanceAs (Decidable (_ <+: _))

variable {scheme other : Scheme} {address : String}

private theorem Opens.unique (opens : scheme.Opens address) (also : other.Opens address) :
    other = scheme := by
  have comparable := List.prefix_or_prefix_of_prefix opens also
  revert comparable
  cases scheme <;> cases other <;> decide

private theorem toList_text (scheme : Scheme) :
    scheme.text.toList = scheme.label.toList ++ List.replicate 2 '/' := by
  cases scheme <;> rfl

private theorem not_text_prefix_label (scheme : Scheme) :
    ¬ scheme.text.toList <+: scheme.label.toList := by
  cases scheme <;> decide

private theorem Alone.opens (alone : scheme.Alone address) : scheme.Opens address := by
  obtain ⟨count, same⟩ := alone
  exact ⟨_, same.symm⟩

/-- With nothing behind a scheme, its own slashes are slashes at the end. -/
theorem Alone.trimSlashes (alone : scheme.Alone address) :
    Config.trimSlashes address.toList = scheme.label.toList := by
  obtain ⟨count, same⟩ := alone
  refine Config.trimSlashes_eq_iff.mpr ⟨by cases scheme <;> decide, 2 + count, ?_⟩
  rw [same, toList_text, List.append_assoc, List.replicate_append_replicate]

/-- With something behind a scheme, the slashes at the end are behind it as well. -/
theorem Opens.prefix_trimSlashes (opens : scheme.Opens address)
    (named : ¬ scheme.Alone address) :
    scheme.text.toList <+: Config.trimSlashes address.toList := by
  obtain ⟨count, same⟩ := Config.exists_trimSlashes address.toList
  have kept : Config.trimSlashes address.toList <+: address.toList := ⟨_, same.symm⟩
  refine (List.prefix_or_prefix_of_prefix opens kept).resolve_right fun within => named ?_
  -- the slashes at the end would begin within the scheme, so all that follows it is slashes
  obtain ⟨rest, whole⟩ := opens
  obtain ⟨inner, split⟩ := within
  have ends : Config.trimSlashes address.toList ++ (inner ++ rest) =
      Config.trimSlashes address.toList ++ List.replicate count '/' := by
    rw [← List.append_assoc, split, whole, ← same]
  obtain ⟨-, -, slashes⟩ := List.append_eq_replicate_iff.mp (List.append_cancel_left ends)
  exact ⟨rest.length, by rw [← slashes, whole]⟩

private theorem alone_iff :
    scheme.Alone address ↔
      scheme.Opens address ∧ Config.trimSlashes address.toList = scheme.label.toList := by
  refine ⟨fun alone => ⟨alone.opens, alone.trimSlashes⟩, fun ⟨opens, kept⟩ => ?_⟩
  by_contra named
  exact scheme.not_text_prefix_label (kept ▸ opens.prefix_trimSlashes named)

instance (scheme : Scheme) (address : String) : Decidable (scheme.Alone address) :=
  decidable_of_iff _ alone_iff.symm

/-- When the relay's address names nothing behind its scheme, no line's address begins with
that scheme. -/
theorem Alone.not_opens_lineUrl {config : Config} (alone : scheme.Alone config.relayBaseUrl)
    (line : String) : ¬ scheme.Opens (config.lineUrl line) := by
  rw [Opens, Config.toList_lineUrl, alone.trimSlashes, toList_text, List.prefix_append_right_inj]
  -- the path has one slash where the scheme has two
  rintro ⟨rest, same⟩
  cases same

private theorem Opens.opens_lineUrl_iff {config : Config} (opens : scheme.Opens config.relayBaseUrl)
    (line : String) :
    scheme.Opens (config.lineUrl line) ↔ ¬ scheme.Alone config.relayBaseUrl := by
  refine ⟨fun kept alone => alone.not_opens_lineUrl line kept, fun named => ?_⟩
  rw [Opens, Config.toList_lineUrl]
  exact (opens.prefix_trimSlashes named).trans (List.prefix_append _ _)

private theorem exists_opens_iff : (∃ scheme : Scheme, scheme.Opens address) ↔
    "ws://".toList <+: address.toList ∨ "wss://".toList <+: address.toList := by
  constructor
  · rintro ⟨_ | _, opens⟩
    · exact .inl opens
    · exact .inr opens
  · rintro (opens | opens)
    · exact ⟨.ws, opens⟩
    · exact ⟨.wss, opens⟩

end Scheme

/-! ## Accepted configurations -/

namespace Config

/-- A configuration that a text or an environment gives. -/
inductive Accepted (config : Config) : Prop
  | text {text : String} (read : ofText text = .ok config)
  | environment {environment : Environment} (read : ofEnvironment environment = .ok config)

private theorem acceptable_of_validate {given config : Config}
    (valid : given.validate = .ok config) :
    config.Acceptable := by
  by_cases acceptable : given.Acceptable
  · cases (validate_of_acceptable acceptable).symm.trans valid
    exact acceptable
  · obtain ⟨reason, refused⟩ := exists_validate_of_not_acceptable acceptable
    cases refused.symm.trans valid

/-- Exactly the acceptable configurations are accepted. -/
theorem accepted_iff_acceptable {config : Config} : config.Accepted ↔ config.Acceptable := by
  constructor
  · rintro (read | read)
    · unfold ofText at read
      split at read
      · cases read
      · exact acceptable_of_validate read
    · unfold ofEnvironment at read
      split at read
      · exact acceptable_of_validate read
      · split at read
        · cases read
        · exact acceptable_of_validate read
  · intro acceptable
    have read := (Changes.saidBy_toText config).read
    rw [Changes.applyTo_all, validate_of_acceptable acceptable] at read
    exact .text read

/-- The addresses of the lines of an accepted configuration. Its relay's address begins with one
scheme, and the address of a line begins with it exactly if the relay's address has something
other than slashes behind it; otherwise the slashes of the scheme are lost, and a single one is
left. In any case the address of a line is the relay's address without the slashes at its end,
the path and the line, and different lines have different addresses. -/
theorem lineUrl_keeps_scheme_iff {config : Config} (accepted : config.Accepted) :
    ∃ scheme : Scheme, (∀ other : Scheme, other.Opens config.relayBaseUrl ↔ other = scheme) ∧
      (∀ line, scheme.Opens (config.lineUrl line) ↔ ¬ scheme.Alone config.relayBaseUrl) ∧
      (scheme.Alone config.relayBaseUrl →
        ∀ line, config.lineUrl line = scheme.label ++ "/line/" ++ line) ∧
      (∃ (root : String) (count : Nat),
        config.relayBaseUrl = root ++ String.ofList (List.replicate count '/') ∧
          root.toList.getLast? ≠ some '/' ∧
          ∀ line, config.lineUrl line = root ++ "/line/" ++ line) ∧
      Function.Injective config.lineUrl := by
  obtain ⟨scheme, opens⟩ :=
    Scheme.exists_opens_iff.mpr (accepted_iff_acceptable.mp accepted).relay
  refine ⟨scheme, fun other => ⟨opens.unique, fun same => same ▸ opens⟩, opens.opens_lineUrl_iff,
    fun alone line => ?_, ?_, config.lineUrl_injective⟩
  · rw [lineUrl, alone.trimSlashes, String.ofList_toList]
  · obtain ⟨count, same⟩ := exists_trimSlashes config.relayBaseUrl.toList
    refine ⟨String.ofList (trimSlashes config.relayBaseUrl.toList), count, ?_, ?_, fun _ => rfl⟩
    · rw [← String.ofList_append, ← same, String.ofList_toList]
    · rw [String.toList_ofList]
      exact getLast?_trimSlashes _

/-- Slashes at the end of an address with a host are taken off, and the scheme is kept. -/
theorem lineUrl_keeps_scheme_of_host :
    let config : Config := { standard with relayBaseUrl := "wss://relay.example.org/calls//" }
    config.Accepted ∧ ¬ Scheme.wss.Alone config.relayBaseUrl ∧
      Scheme.wss.Opens (config.lineUrl "abc") ∧
      config.lineUrl "abc" = "wss://relay.example.org/calls/line/abc" := by
  intro config
  have read : ofEnvironment ⟨some "wss://relay.example.org/calls//", none, none⟩ = .ok config := rfl
  have accepted : config.Accepted := .environment read
  have named : ¬ Scheme.wss.Alone config.relayBaseUrl := by decide
  obtain ⟨scheme, opens, keeps, -⟩ := lineUrl_keeps_scheme_iff accepted
  obtain rfl : Scheme.wss = scheme := (opens .wss).mp (by decide)
  exact ⟨accepted, named, (keeps "abc").mpr named, by decide⟩

/-- An address of a scheme alone is accepted in either form, and the address of a line then
begins with no scheme. -/
theorem scheme_lost_from_bare_address :
    let config : Config := { standard with relayBaseUrl := "ws://" }
    ofText "\x7b\"relayBaseUrl\":\"ws://\"\x7d" = .ok config ∧
      ofEnvironment ⟨some "ws://", none, none⟩ = .ok config ∧
      Scheme.ws.Opens config.relayBaseUrl ∧
      config.lineUrl "abc" = "ws:/line/abc" ∧
      ∀ scheme : Scheme, ¬ scheme.Opens (config.lineUrl "abc") := by
  refine ⟨rfl, rfl, by decide, by decide, fun scheme => ?_⟩
  cases scheme <;> decide

end Config

end CallControl
