import CallControl.Media
import CallControl.WorkItem

/-! # Platform events

What the three kinds of platform object report to those who listen: relay sockets,
peer connections and data channels.
-/

namespace CallControl

/-- The state of a peer connection's network path. -/
inductive IceState where
  | new
  | checking
  | connected
  | completed
  | failed
  | disconnected
  | closed
  deriving Repr, DecidableEq

namespace IceState

/-- All states. -/
def all : List IceState :=
  [.new, .checking, .connected, .completed, .failed, .disconnected, .closed]

/-- The name of a state. -/
def name : IceState → String
  | .new => "new"
  | .checking => "checking"
  | .connected => "connected"
  | .completed => "completed"
  | .failed => "failed"
  | .disconnected => "disconnected"
  | .closed => "closed"

/-- The title of a state. -/
def title : IceState → String
  | .new => "New"
  | .checking => "Checking"
  | .connected => "Connected"
  | .completed => "Completed"
  | .failed => "Failed"
  | .disconnected => "Disconnected"
  | .closed => "Closed"

/-- The state with a name. -/
def ofName? (text : String) : Option IceState :=
  all.find? fun state => state.name == text

end IceState

/-- What a relay socket reports. -/
inductive SocketEvent where
  | opened
  | message (text : String)
  /-- The socket was closed, with a code if there is one. -/
  | closed (code : Option UInt16) (reason : String)
  | error (text : String)
  deriving Repr, DecidableEq

/-- What a peer connection reports. -/
inductive ConnectionEvent where
  | negotiationNeeded
  /-- A candidate was found, or no more will be. -/
  | iceCandidate (candidate : Option IceCandidate)
  | track (track : MediaTrack)
  | iceState (state : IceState)
  | dataChannel (channel : ChannelId)
  deriving Repr

/-- The kinds of a peer connection's reports; a listener is registered for one. -/
inductive ConnectionEventKind where
  | negotiationNeeded
  | iceCandidate
  | track
  | iceState
  | dataChannel
  deriving Repr, DecidableEq

/-- The kind of a report. -/
def ConnectionEvent.kind : ConnectionEvent → ConnectionEventKind
  | .negotiationNeeded => .negotiationNeeded
  | .iceCandidate _ => .iceCandidate
  | .track _ => .track
  | .iceState _ => .iceState
  | .dataChannel _ => .dataChannel

/-- The title of a kind. -/
def ConnectionEventKind.title : ConnectionEventKind → String
  | .negotiationNeeded => "NegotiationNeeded"
  | .iceCandidate => "IceCandidate"
  | .track => "Track"
  | .iceState => "IceConnectionStateChange"
  | .dataChannel => "DataChannel"

/-- What a data channel reports. -/
inductive ChannelEvent where
  | opened
  | message (text : String)
  | closed
  deriving Repr, DecidableEq

end CallControl
