import CallControl.Json.Record
import CallControl.SessionDescription

/-! # Work items

The parts of a call never act on each other directly: they raise work items, each
addressed by its constructor to one of the three parts, and the call handles them one
at a time. A signal is the item for the relay; it travels as an object with a type
and a message (`Signal.toText`, `Signal.parse?`).
-/

namespace CallControl

open CallControl.Json

/-- Identifies a data channel of a platform. -/
abbrev ChannelId := Nat

/-- What is sent to the other peer over the relay. -/
inductive Signal where
  | offer (description : SessionDescription)
  | candidate (candidate : IceCandidate)
  | acceptance (description : SessionDescription)
  deriving Repr

namespace Signal

/-- The kind of a signal, which is its type on the wire. -/
def kind : Signal → String
  | .offer _ => "offer"
  | .candidate _ => "candidate"
  | .acceptance _ => "acceptance"

/-- The value a signal carries. -/
def value : Signal → Json
  | .offer description => description.value
  | .candidate path => path.value
  | .acceptance description => description.value

/-- The signal of a kind that carries a value. -/
def ofKind? (kind : String) (value : Json) : Option Signal :=
  if kind = "offer" then some (.offer ⟨value⟩)
  else if kind = "candidate" then some (.candidate ⟨value⟩)
  else if kind = "acceptance" then some (.acceptance ⟨value⟩)
  else none

/-- The text of a signal on the wire. -/
def toText (signal : Signal) : String :=
  String.ofList
    (writeObject [("type", writeText signal.kind), ("message", write signal.value)])

/-- The kind written as a string, or as the only key of an object whose value is
null. -/
def readKind? : Document → Option String
  | .scalar (.string kind) => kind
  | .object [(key, .scalar .null)] => key
  | _ => none

/-- The kind in a signal's document. In an array it must be a string. -/
def kindIn? : Document → Document → Option String
  | .array _, kind => string? kind
  | _, kind => readKind? kind

/-- A signal from the text on the wire; both fields must be there, in an object in any
order. -/
def parse? (text : String) : Option Signal :=
  (Document.parse? text).bind fun document =>
    match fields? ["type", "message"] document with
    | some [some kind, some message] =>
        (kindIn? document kind).bind fun kind =>
          (ofDocument? fieldDepth message).bind (ofKind? kind)
    | _ => none

end Signal

/-- The items for the coordinator of a call. -/
inductive CoordinatorItem where
  | closedSignaller
  | peerStreamTrackUpdate
  | peerConnected
  | peerConnectionEnded
  | peerMicTurnedOn
  | peerMicTurnedOff
  | peerVideoTurnedOn
  | peerVideoTurnedOff
  deriving Repr, DecidableEq

namespace CoordinatorItem

/-- All items for the coordinator. -/
def all : List CoordinatorItem :=
  [.closedSignaller, .peerStreamTrackUpdate, .peerConnected, .peerConnectionEnded,
    .peerMicTurnedOn, .peerMicTurnedOff, .peerVideoTurnedOn, .peerVideoTurnedOff]

/-- The name of an item. -/
def name : CoordinatorItem → String
  | .closedSignaller => "closed_signaller"
  | .peerStreamTrackUpdate => "peer_stream_track_update"
  | .peerConnected => "peer_connected"
  | .peerConnectionEnded => "peer_connection_ended"
  | .peerMicTurnedOn => "peer_mic_turned_on"
  | .peerMicTurnedOff => "peer_mic_turned_off"
  | .peerVideoTurnedOn => "peer_video_turned_on"
  | .peerVideoTurnedOff => "peer_video_turned_off"

/-- The title of an item. -/
def title : CoordinatorItem → String
  | .closedSignaller => "ClosedSignaller"
  | .peerStreamTrackUpdate => "PeerStreamTrackUpdate"
  | .peerConnected => "PeerConnected"
  | .peerConnectionEnded => "PeerConnectionEnded"
  | .peerMicTurnedOn => "PeerMicTurnedOn"
  | .peerMicTurnedOff => "PeerMicTurnedOff"
  | .peerVideoTurnedOn => "PeerVideoTurnedOn"
  | .peerVideoTurnedOff => "PeerVideoTurnedOff"

/-- The item with a name. -/
def ofName? (text : String) : Option CoordinatorItem :=
  all.find? fun item => item.name == text

end CoordinatorItem

/-- The items for the link to the peer. -/
inductive PeerItem where
  | userJoined
  | webrtcOffer (description : SessionDescription)
  | webrtcAcceptance (description : SessionDescription)
  | webrtcCandidate (candidate : IceCandidate)
  | dataChannel (channel : ChannelId)
  | sendInitialState
  | negotiationNeeded
  deriving Repr

/-- The name of an item. -/
def PeerItem.name : PeerItem → String
  | .userJoined => "user_joined"
  | .webrtcOffer _ => "webrtc_offer"
  | .webrtcAcceptance _ => "webrtc_acceptance"
  | .webrtcCandidate _ => "webrtc_candidate"
  | .dataChannel _ => "data_channel"
  | .sendInitialState => "send_initial_state"
  | .negotiationNeeded => "negotiation_needed"

/-- The parts of a call that items are addressed to. -/
inductive Target where
  | signaller
  | coordinator
  | peerConnection
  deriving Repr, DecidableEq

/-- The name of a target. -/
def Target.name : Target → String
  | .signaller => "signaller"
  | .coordinator => "coordinator"
  | .peerConnection => "peerConnection"

/-- A work item. -/
inductive WorkItem where
  | signal (signal : Signal)
  | coordinator (item : CoordinatorItem)
  | peer (item : PeerItem)
  deriving Repr

namespace WorkItem

/-- The part that an item is addressed to. -/
def target : WorkItem → Target
  | .signal _ => .signaller
  | .coordinator _ => .coordinator
  | .peer _ => .peerConnection

/-- What an item asks of its target. -/
def request : WorkItem → String
  | .signal outbound => "signal(" ++ outbound.kind ++ ")"
  | .coordinator item => item.name
  | .peer item => item.name

/-- The text of an item. -/
def display (item : WorkItem) : String :=
  item.target.name ++ ": " ++ item.request

end WorkItem

end CallControl
