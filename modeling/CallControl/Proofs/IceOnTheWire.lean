import CallControl.IceConfigFetch
import CallControl.Proofs.OctetTexts
import CallControl.Proofs.RecordFields
import CallControl.Proofs.Written

/-! # ICE configurations on the wire

A configuration is read back from its text, and from the response that brings it. A server's
address may be written alone instead of as a list of one, wherever a text has it, and makes
no difference (`IceConfiguration.survives_the_wire`).
-/

namespace CallControl

open CallControl.Json CallControl.Http

/-! ## Texts of configurations -/

namespace IceServer

/-- The fields of a server. -/
def record (server : IceServer) : List (String × Option Document) :=
  [("urls", some (.array (server.urls.map textDocument))),
    ("username", server.username.map textDocument),
    ("credential", server.credential.map textDocument)]

/-- The document of a server: a field that is not there is left out. -/
def document (server : IceServer) : Document := .object (presentMembers server.record)

private theorem spellsMember_present (name : String) (text : Option String) :
    List.Forall₂ SpellsMember (text.map fun text => (name, writeText text)).toList
      ((text.map textDocument).map fun document => (some name, document)).toList := by
  cases text with
  | none => exact .nil
  | some text => exact .cons ⟨rfl, .writeText text⟩ .nil

private theorem spells_writeTexts (texts : List String) :
    Spells (writeArray (texts.map writeText)) (.array (texts.map textDocument)) := by
  refine .writeArray ?_
  rw [List.forall₂_map_left_iff, List.forall₂_map_right_iff, List.forall₂_same]
  exact fun text _ => .writeText text

private theorem spells_write (server : IceServer) : Spells server.write server.document := by
  refine .writeObject ?_
  rw [record, presentMembers_cons, presentMembers_cons, presentMembers_cons, presentMembers_nil,
    List.append_nil]
  exact .cons ⟨rfl, spells_writeTexts server.urls⟩
    (List.rel_append (spellsMember_present "username" server.username)
      (spellsMember_present "credential" server.credential))

private theorem read?_document (server : IceServer) : read? server.document = some server := by
  have names : server.record.map Prod.fst = ["urls", "username", "credential"] := rfl
  have fields := fields?_presentMembers server.record (by rw [names]; decide)
  have urls : readUrls? (.array (server.urls.map textDocument)) = some server.urls :=
    mapM_map_of_reads string?_textDocument server.urls
  have kept (text : Option String) : (text.map some).getD none = text := by cases text <;> rfl
  rw [names] at fields
  rw [read?, document, fields]
  simp only [record, List.map_cons, List.map_nil, required, urls,
    orDefault_map nullableString?_textDocument, kept, Option.bind_some, Option.map_some]

end IceServer

private theorem Json.FirstFieldPlace.isPlace {name : String} {place : Document → Document}
    (first : FirstFieldPlace name place) : IsPlace place := by
  cases first with
  | member first rest => exact .member first rest (some name)
  | item rest => exact .item [] rest

namespace IceConfiguration

/-- The document of a configuration. -/
def document (configuration : IceConfiguration) : Document :=
  .object [(some "iceServers", .array (configuration.servers.map IceServer.document))]

private theorem spells_toText (configuration : IceConfiguration) :
    Spells configuration.toText.toList configuration.document := by
  have servers : List.Forall₂ Spells (configuration.servers.map IceServer.write)
      (configuration.servers.map IceServer.document) := by
    rw [List.forall₂_map_left_iff, List.forall₂_map_right_iff, List.forall₂_same]
    exact fun server _ => server.spells_write
  rw [toText, String.toList_ofList]
  exact .writeObject (.cons ⟨rfl, .writeArray servers⟩ .nil)

private theorem read?_document (configuration : IceConfiguration) :
    read? configuration.document = some configuration := by
  have servers : readServers? (.array (configuration.servers.map IceServer.document)) =
      some configuration.servers :=
    mapM_map_of_reads IceServer.read?_document configuration.servers
  have fields : fields? ["iceServers"] configuration.document =
      some [some (.array (configuration.servers.map IceServer.document))] := rfl
  rw [read?, fields]
  simp only [orDefault, servers, Option.map_some]

/-- A configuration is read back from its text. -/
theorem parse?_toText (configuration : IceConfiguration) :
    parse? configuration.toText = some configuration := by
  have parsed : Document.parse? configuration.toText = some configuration.document :=
    configuration.spells_toText
  rw [parse?, parsed, Option.bind_some, read?_document]

/-- A text written anew from the configuration that it is read as. -/
def rewritten? (text : String) : Option String := (parse? text).map toText

private theorem rewritten?_idempotent (text : String) :
    (rewritten? text).bind rewritten? = rewritten? text := by
  unfold rewritten?
  cases parse? text with
  | none => rfl
  | some configuration => rw [Option.map_some, Option.bind_some, parse?_toText, Option.map_some]

/-- The octets of a text are read as the text is. -/
theorem ofOctets?_toUTF8 (text : String) : ofOctets? text.toUTF8.data.toList = parse? text := by
  rw [ofOctets?, Text.decodeUtf8_toUTF8]
  rfl

/-! ## One address alone -/

/-- A place for the addresses of a server in a configuration. -/
inductive AddressPlace : (Document → Document) → Prop
  | server {servers addresses : Document → Document}
      (outer : FirstFieldPlace "iceServers" servers) (before after : List Document)
      (inner : FirstFieldPlace "urls" addresses) :
      AddressPlace fun urls => servers (.array (before ++ addresses urls :: after))

private theorem AddressPlace.isPlace {place : Document → Document} (address : AddressPlace place) :
    IsPlace place := by
  obtain ⟨outer, before, after, inner⟩ := address
  exact outer.isPlace.comp ((IsPlace.item before after).comp inner.isPlace)

/-- A server with one address alone is the server with a list of it. -/
theorem read?_server_of_single {addresses : Document → Document}
    (inner : FirstFieldPlace "urls" addresses) (address : String) :
    IceServer.read? (addresses (textDocument address)) =
      IceServer.read? (addresses (.array [textDocument address])) := by
  have single : IceServer.readUrls? (textDocument address) =
      IceServer.readUrls? (.array [textDocument address]) := rfl
  obtain never | ⟨rest, always⟩ := inner.fields? ["username", "credential"] (by decide)
  · rw [IceServer.read?, IceServer.read?, never, never]
  · rw [IceServer.read?, IceServer.read?, always, always]
    -- a server has two fields beside its addresses
    match rest with
    | [_, _] => simp only [required, single]
    | [] | [_] | _ :: _ :: _ :: _ => rfl

/-- A configuration with one address alone somewhere is the one with a list of it there. -/
theorem read?_of_single {place : Document → Document} (address : AddressPlace place)
    (url : String) :
    read? (place (textDocument url)) = read? (place (.array [textDocument url])) := by
  obtain ⟨outer, before, after, inner⟩ := address
  have same := read?_server_of_single inner url
  obtain never | ⟨rest, always⟩ := outer.fields? [] (by decide)
  · simp only [read?, never]
  · simp only [read?, always]
    match rest with
    | [] => simp only [orDefault, readServers?, List.mapM_append, List.mapM_cons, same]
    | _ :: _ => rfl

/-- A server of a document is read with an address alone instead of a list. -/
def ReadsAlone (document : Document) (url : String) : Prop :=
  ∃ before server after rest,
    fields? ["iceServers"] document = some [some (.array (before ++ server :: after))] ∧
      fields? ["urls", "username", "credential"] server = some (some (textDocument url) :: rest)

/-- Characters of an address between those before and after it, where a text has the addresses
of a server. -/
def StandsAlone (url : String) (before alone after : List Char) : Prop :=
  ∃ place, AddressPlace place ∧ Around before after place ∧ Denotes alone (textDocument url)

/-- An address that is read alone stands alone somewhere in the text. -/
theorem exists_standsAlone {text : String} {document : Document} {url : String}
    (parsed : Document.parse? text = some document) (reads : ReadsAlone document url) :
    ∃ before alone after, text.toList = before ++ alone ++ after ∧
      StandsAlone url before alone after := by
  obtain ⟨before, server, after, rest, servers, addresses⟩ := reads
  obtain ⟨outer, first, rfl⟩ := FirstFieldPlace.exists_of_fields? servers
  obtain ⟨inner, second, rfl⟩ := FirstFieldPlace.exists_of_fields? addresses
  have address := AddressPlace.server first before after second
  obtain ⟨left, alone, right, same, around, denotes⟩ :=
    address.isPlace.find (parse?_eq_some_iff.mp parsed)
  exact ⟨left, alone, right, same, _, address, around, denotes⟩

/-- Where an address stands alone the list of it may stand. -/
theorem StandsAlone.parse?_eq {url : String} {before alone after listed : List Char}
    (stands : StandsAlone url before alone after)
    (list : Denotes listed (.array [textDocument url])) :
    parse? (String.ofList (before ++ listed ++ after)) =
      parse? (String.ofList (before ++ alone ++ after)) := by
  obtain ⟨place, address, around, one⟩ := stands
  have first : Document.parse? (String.ofList (before ++ listed ++ after)) =
      some (place (.array [textDocument url])) := by
    rw [parse?_eq_some_iff, String.toList_ofList]
    exact around.fill list
  have second : Document.parse? (String.ofList (before ++ alone ++ after)) =
      some (place (textDocument url)) := by
    rw [parse?_eq_some_iff, String.toList_ofList]
    exact around.fill one
  rw [parse?, parse?, first, second, Option.bind_some, Option.bind_some]
  exact (read?_of_single address url).symm

end IceConfiguration

/-! ## Fetching -/

private theorem Http.isSuccess_iff {status : UInt16} :
    isSuccess status = true ↔ 200 ≤ status ∧ status ≤ 299 := by
  unfold isSuccess StatusClass.ofCode
  simp only [Bool.and_eq_true, decide_eq_true_eq]
  split
  next informational =>
    refine iff_of_false (by decide) fun success => ?_
    simp only [UInt16.le_iff_toNat_le, UInt16.reduceToNat] at informational success
    omega
  split
  next success => exact iff_of_true (by decide) success
  next failure =>
    refine iff_of_false ?_ failure
    repeat' split
    all_goals decide

namespace IceConfigFetch

/-- The one request of a fetch. -/
def request (url token : String) : Request := ⟨url, [("Authorization", "Bearer " ++ token)]⟩

private theorem run_of_response {url token : String} {answer : Request → Reply}
    {response : Response} (answered : answer (request url token) = .response response) :
    run url (.ok token) answer = ⟨[request url token], ofResponse response⟩ := by
  have sent : (Request.get url).withBearerToken token = request url token := rfl
  simp only [run, sent, answered, Request.outcome]

private theorem ofResponse_of_success {status : UInt16} (success : 200 ≤ status ∧ status ≤ 299)
    (configuration : IceConfiguration) :
    ofResponse ⟨status, configuration.toText.toUTF8.data.toList⟩ = .ok configuration := by
  rw [ofResponse, if_pos (isSuccess_iff.mpr success), IceConfiguration.ofOctets?_toUTF8,
    IceConfiguration.parse?_toText]

private theorem ofResponse_of_failure {status : UInt16} (failure : ¬ (200 ≤ status ∧ status ≤ 299))
    (body : List UInt8) :
    ofResponse ⟨status, body⟩ = .error (.call (.iceConfigStatus status)) :=
  if_neg (isSuccess_iff.not.mpr failure)

end IceConfigFetch

namespace IceConfiguration

open IceConfigFetch

/-- ICE configurations survive the wire. A configuration is read back from its text, so that a
text once read and written again stays as it is. An address that is read alone instead of in a
list stands alone somewhere in the text, and wherever it does the list of it may stand. From a
server that answers the one request that presents the token with the text of a configuration
and a status of success that configuration is fetched; any other status is reported whatever
the body; and without a token nothing is sent. -/
theorem survives_the_wire :
    (∀ configuration, parse? configuration.toText = some configuration) ∧
      (∀ text, (rewritten? text).bind rewritten? = rewritten? text) ∧
      (∀ text document url, Document.parse? text = some document → ReadsAlone document url →
        ∃ before alone after, text.toList = before ++ alone ++ after ∧
          StandsAlone url before alone after) ∧
      (∀ url before alone after, StandsAlone url before alone after →
        ∀ listed, Denotes listed (.array [textDocument url]) →
          parse? (String.ofList (before ++ listed ++ after)) =
            parse? (String.ofList (before ++ alone ++ after))) ∧
      ∀ (url : String) (answer : Request → Reply),
        (∀ token configuration status, 200 ≤ status ∧ status ≤ 299 →
          answer (request url token) =
              .response ⟨status, configuration.toText.toUTF8.data.toList⟩ →
            run url (.ok token) answer = ⟨[request url token], .ok configuration⟩) ∧
        (∀ token status body, ¬ (200 ≤ status ∧ status ≤ 299) →
          answer (request url token) = .response ⟨status, body⟩ →
            run url (.ok token) answer =
              ⟨[request url token], .error (.call (.iceConfigStatus status))⟩) ∧
        ∀ failure, run url (.error failure) answer = ⟨[], .error failure⟩ := by
  refine ⟨parse?_toText, rewritten?_idempotent,
    fun _ _ _ parsed reads => exists_standsAlone parsed reads,
    fun _ _ _ _ stands _ list => stands.parse?_eq list,
    fun url answer => ⟨?_, ?_, fun failure => rfl⟩⟩
  · intro token configuration status success answered
    rw [run_of_response answered, ofResponse_of_success success]
  · intro token status body failure answered
    rw [run_of_response answered, ofResponse_of_failure failure]

/-- One server with one address, which a text may have alone. -/
theorem survives_the_wire_with_one_server :
    let configuration : IceConfiguration := ⟨[⟨["stun:a"], none, some "secret"⟩]⟩
    let reply (status : UInt16) (_ : Request) : Reply :=
      .response ⟨status, configuration.toText.toUTF8.data.toList⟩
    parse? configuration.toText = some configuration ∧
      parse? "\x7b\"iceServers\":[\x7b\"urls\":[\"stun:a\"]\x7d]\x7d" =
        parse? "\x7b\"iceServers\":[\x7b\"urls\":\"stun:a\"\x7d]\x7d" ∧
      run "ice" (.ok "token") (reply 204) = ⟨[request "ice" "token"], .ok configuration⟩ ∧
      run "ice" (.ok "token") (reply 404) =
        ⟨[request "ice" "token"], .error (.call (.iceConfigStatus 404))⟩ ∧
      run "ice" (.error .malformedJson) (reply 200) = ⟨[], .error .malformedJson⟩ := by
  intro configuration reply
  obtain ⟨reads, -, -, replaces, fetches⟩ := survives_the_wire
  let place (urls : Document) : Document :=
    .object [(some "iceServers", .array [.object [(some "urls", urls)]])]
  have address : AddressPlace place := .server (.member [] []) [] [] (.member [] [])
  have before : TokensText "\x7b\"iceServers\":[\x7b\"urls\":".toList
      [.opening .object, .scalar (.string (some "iceServers")), .colon, .opening .array,
        .opening .object, .scalar (.string (some "urls")), .colon] := tokensText_of_tokens? rfl
  have after : TokensText "\x7d]\x7d".toList
      [.closing .object, .closing .array, .closing .object] := tokensText_of_tokens? rfl
  have around : Around "\x7b\"iceServers\":[\x7b\"urls\":".toList "\x7d]\x7d".toList place :=
    ⟨_, _, before, after, fun document => by
      simp [place, tokens_object, tokens_array, memberTokens]⟩
  have alone : Denotes "\"stun:a\"".toList (textDocument "stun:a") := spells_iff_denotes.mp rfl
  have listed : Denotes "[\"stun:a\"]".toList (.array [textDocument "stun:a"]) :=
    spells_iff_denotes.mp rfl
  have replaced := replaces _ _ _ _ ⟨place, address, around, alone⟩ _ listed
  exact ⟨reads configuration, replaced,
    (fetches "ice" (reply 204)).1 "token" configuration 204 (by decide) rfl,
    (fetches "ice" (reply 404)).2.1 "token" 404 _ (by decide) rfl,
    (fetches "ice" (reply 200)).2.2 .malformedJson⟩

end IceConfiguration

end CallControl
