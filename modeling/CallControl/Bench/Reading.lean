import CallControl.Bench.Subject

/-! # Readings

A reading lists named gauges of a bench: of its platform, of the objects made last,
of the channels, and of the subject. Two readings differ in the gauges that changed,
that are new, or that are gone (`Reading.changes`).
-/

namespace CallControl.Bench

/-- A call as it is seen from outside. -/
structure CallReading where
  connected : Bool
  ended : Bool
  holdsRelay : Bool
  stage : Lifecycle
  flags : CallFlags
  deriving Repr, DecidableEq

/-- The value of a gauge. -/
inductive Gauge where
  | absent
  | number (value : Nat)
  | truth (value : Bool)
  | text (value : String)
  | texts (values : List String)
  | channel (label state : String) (listeners : Nat) (closed : Bool)
  | call (reading : CallReading)
  | failure (failure : Failure)
  deriving Repr, DecidableEq

/-- The gauges of a bench by name. -/
abbrev Reading := List (String × Gauge)

/-- A call as it is seen from outside. -/
def CallReading.ofCall (call : Call) : CallReading where
  connected := call.peer.connected
  ended := call.lifecycle == .ended
  holdsRelay := call.holdsRelay
  stage := call.lifecycle
  flags := call.flags

/-- The value of a description's gauge. -/
def descriptionGauge : Option SessionDescription → Gauge
  | none => .absent
  | some description => .text description.value.toText

/-- The value of a stream's gauge. -/
def tracksGauge (stream : MediaStream) : Gauge :=
  .texts (stream.tracks.map MediaTrack.describe)

namespace Reading

/-- The gauges of a socket. -/
def ofSocket (socket : RelaySocket) : Reading :=
  [("socket.url", .text socket.url), ("socket.closed", .truth socket.closed),
    ("socket.detached", .truth socket.detached)]

/-- The gauges of a peer connection. -/
def ofConnection (connection : PeerConnection) : Reading :=
  [("pc.config", .text connection.configuration.toText),
    ("pc.closed", .truth connection.closed),
    ("pc.listeners", .number connection.listeners.length),
    ("pc.offers", .number connection.offersCreated),
    ("pc.answers", .number connection.answersCreated),
    ("pc.ice", .text connection.iceState.name),
    ("pc.local", descriptionGauge connection.localDescription),
    ("pc.remote", descriptionGauge connection.remoteDescription)]

/-- The gauge of a channel. -/
def ofChannel (name : String) (channel : DataChannel) : String × Gauge :=
  ("ch." ++ name,
    .channel channel.label channel.state.name channel.listeners.length channel.isClosed)

/-- The gauges of a platform. -/
def ofPlatform (platform : Platform) : Reading :=
  ("sockets", .number platform.sockets.length) ::
    (platform.sockets.getLast?.elim [] ofSocket) ++
    ("pcs", .number platform.connections.length) ::
    (platform.connections.getLast?.elim [] ofConnection) ++
    (platform.channels.mapIdx fun id channel => ofChannel (platform.channelName id) channel) ++
    [("local", tracksGauge platform.localStream), ("token_calls", .number platform.tokens.calls)]

/-- The gauges of a subject alone. -/
def ofSubject (subject : Subject) : Reading :=
  (subject.remoteStream?.elim [] fun stream => [("remote", tracksGauge stream)]) ++
    match subject with
    | .nothing _ => []
    | .relay parts => [("received", .number parts.relay.received)]
    | .peer parts => [("connected", .truth parts.peer.connected)]
    | .call call => [("call", .call (.ofCall call))]
    | .session session =>
        [("call",
          match session.inspect with
          | .ok call => .call (.ofCall call)
          | .error failure => .failure failure)]

/-- The gauges of a bench. -/
def ofBench (subject : Subject) : Reading :=
  ofPlatform subject.platform ++ ofSubject subject

/-- The gauges of a later reading that differ from an earlier one, and those of the
earlier one that are gone. -/
def changes (earlier later : Reading) : Reading :=
  (later.filter fun gauge => earlier.lookup gauge.1 != some gauge.2) ++
    (earlier.filter fun gauge => (later.lookup gauge.1).isNone).map fun gauge => (gauge.1, .absent)

end Reading

end CallControl.Bench
