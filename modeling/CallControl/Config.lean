import CallControl.Failure
import CallControl.Json.Record
import CallControl.Json.Writer
import CallControl.Text.WhiteSpace

/-! # Call configuration

Where the relay and the ICE configuration are found, how long a call may take to
connect, and the label of the data channel. A configuration comes from a JSON record
or from three environment variables, in both cases as changes to the defaults, and
is accepted only with a web socket address and a label (`Config.validate`).
-/

namespace CallControl

open CallControl.Json

/-- The configuration of a call. -/
structure Config where
  /-- The base of the relay's address; the path of a line is appended to it. -/
  relayBaseUrl : String
  iceConfigUrl : String
  /-- A call that has not connected after so many milliseconds is ended. -/
  connectTimeoutMs : UInt64
  dataChannelLabel : String
  deriving Repr, DecidableEq

/-- The environment variables that change a configuration; a variable may be unset. -/
structure Environment where
  relayUrl : Option String
  iceConfigUrl : Option String
  connectTimeoutMs : Option String
  deriving Repr, DecidableEq

namespace Config

/-- The configuration when nothing is configured. -/
def standard : Config where
  relayBaseUrl := "ws://localhost:3000/calls"
  iceConfigUrl := "http://localhost:3000/calls/ice"
  connectTimeoutMs := 60000
  dataChannelLabel := "call_events"

/-- A text begins with the scheme of a web socket. -/
def isWebSocketUrl (url : String) : Bool :=
  "ws://".toList.isPrefixOf url.toList || "wss://".toList.isPrefixOf url.toList

/-- The configuration itself if it is acceptable. -/
def validate (config : Config) : Except Failure Config :=
  if !isWebSocketUrl config.relayBaseUrl then
    .error (.call (.invalidConfig
      ("relay url must be ws:// or wss://: " ++ config.relayBaseUrl)))
  else if config.dataChannelLabel.isEmpty then
    .error (.call (.invalidConfig "empty data channel label"))
  else .ok config

/-- A configuration from a document: each missing field has its standard value. -/
def read? (document : Document) : Option Config :=
  match fields? ["relayBaseUrl", "iceConfigUrl", "connectTimeoutMs", "dataChannelLabel"]
      document with
  | some [relay, ice, timeout, label] =>
      (orDefault standard.relayBaseUrl string? relay).bind fun relay =>
        (orDefault standard.iceConfigUrl string? ice).bind fun ice =>
          (orDefault standard.connectTimeoutMs.toNat natural? timeout).bind fun timeout =>
            (orDefault standard.dataChannelLabel string? label).map fun label =>
              ⟨relay, ice, timeout.toUInt64, label⟩
  | _ => none

/-- The configuration of a JSON text. -/
def ofText (text : String) : Except Failure Config :=
  match (Document.parse? text).bind read? with
  | none => .error (.call (.invalidConfig "<json>"))
  | some config => config.validate

/-- A duration as an environment variable gives it: decimal digits with perhaps a
plus sign, white space around them ignored, below 2 ^ 64. -/
def parseTimeout? (text : String) : Option UInt64 :=
  let digits :=
    match Text.trim text.toList with
    | '+' :: rest => rest
    | trimmed => trimmed
  (Text.parseDecimal? digits).bind fun value =>
    if value < UInt64.size then some value.toUInt64 else none

/-- The configuration of an environment. -/
def ofEnvironment (environment : Environment) : Except Failure Config :=
  let config := { standard with
    relayBaseUrl := environment.relayUrl.getD standard.relayBaseUrl
    iceConfigUrl := environment.iceConfigUrl.getD standard.iceConfigUrl }
  match environment.connectTimeoutMs with
  | none => config.validate
  | some text =>
      match parseTimeout? text with
      | none => .error (.call (.invalidConfig ("PORTRTC_CONNECT_TIMEOUT_MS=" ++ text)))
      | some timeout => { config with connectTimeoutMs := timeout }.validate

/-- The text of a configuration. -/
def toText (config : Config) : String :=
  String.ofList
    (writeObject [("relayBaseUrl", writeText config.relayBaseUrl),
      ("iceConfigUrl", writeText config.iceConfigUrl),
      ("connectTimeoutMs", Text.decimal config.connectTimeoutMs.toNat),
      ("dataChannelLabel", writeText config.dataChannelLabel)])

/-- A text without the slashes at its end. -/
def trimSlashes (text : List Char) : List Char :=
  (text.reverse.dropWhile (· == '/')).reverse

/-- The address of a line at the relay. -/
def lineUrl (config : Config) (line : String) : String :=
  String.ofList (trimSlashes config.relayBaseUrl.toList) ++ "/line/" ++ line

end Config

end CallControl
