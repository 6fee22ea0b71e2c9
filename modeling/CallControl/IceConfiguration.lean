import CallControl.Json.Record
import CallControl.Json.Writer
import CallControl.Text.Utf8

/-! # ICE configurations

The STUN and TURN servers that a peer connection is created with. A server's
addresses are read from one string or from a list of strings and always written as a
list; a user name and a credential are written only if there are any.
-/

namespace CallControl

open CallControl.Json

/-- A STUN or TURN server. -/
structure IceServer where
  urls : List String
  username : Option String
  credential : Option String
  deriving Repr, DecidableEq

/-- The servers a peer connection is created with. -/
structure IceConfiguration where
  servers : List IceServer
  deriving Repr, DecidableEq

namespace IceServer

/-- The addresses of a server from one string or a list of strings. -/
def readUrls? : Document → Option (List String)
  | .array items => items.mapM string?
  | document => (string? document).map fun url => [url]

/-- A server from a document. -/
def read? (document : Document) : Option IceServer :=
  match fields? ["urls", "username", "credential"] document with
  | some [urls, username, credential] =>
      (required readUrls? urls).bind fun urls =>
        (orDefault none nullableString? username).bind fun username =>
          (orDefault none nullableString? credential).map fun credential =>
            ⟨urls, username, credential⟩
  | _ => none

/-- A server as written. -/
def write (server : IceServer) : List Char :=
  let present (name : String) (text : Option String) : List (String × List Char) :=
    (text.map fun text => (name, writeText text)).toList
  writeObject
    (("urls", writeArray (server.urls.map writeText)) ::
      (present "username" server.username ++ present "credential" server.credential))

end IceServer

namespace IceConfiguration

/-- A list of servers from a document. -/
def readServers? : Document → Option (List IceServer)
  | .array items => items.mapM IceServer.read?
  | _ => none

/-- A configuration from a document. -/
def read? (document : Document) : Option IceConfiguration :=
  match fields? ["iceServers"] document with
  | some [servers] => (orDefault [] readServers? servers).map fun servers => ⟨servers⟩
  | _ => none

/-- A configuration from a text. -/
def parse? (text : String) : Option IceConfiguration :=
  (Document.parse? text).bind read?

/-- A configuration from the octets of a text. -/
def ofOctets? (octets : List UInt8) : Option IceConfiguration :=
  (Document.ofChars? (Text.decodeUtf8 octets)).bind read?

/-- The text of a configuration. -/
def toText (configuration : IceConfiguration) : String :=
  String.ofList
    (writeObject [("iceServers", writeArray (configuration.servers.map IceServer.write))])

end IceConfiguration

end CallControl
