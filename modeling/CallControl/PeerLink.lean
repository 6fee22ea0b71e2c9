import CallControl.Platform.Basic

/-! # The link to the peer

A call negotiates a peer connection with its peer and exchanges microphone and
camera states over a data channel beside it. The link keeps what this takes: the peer
connection with the listeners registered on it, the candidates that came before the
remote description, the channel in use and the channels that have yet to open. What
it does with events and items is in `CallControl.Negotiation`.

All listeners of a link raise items through one gate, which cleaning up shuts for
good. A gate that something broke off in stays broken and lets nothing through
either.
-/

namespace CallControl

/-- The gate through which the listeners of a link raise items. -/
inductive Gate where
  | passing
  | shut
  | broken
  deriving Repr, DecidableEq

/-- A gate after it was shut; a broken one cannot be. -/
def Gate.close : Gate → Gate
  | .broken => .broken
  | _ => .shut

/-- A data channel with the listener that a link has on it. -/
structure ChannelRegistration where
  channel : ChannelId
  listener : Nat
  deriving Repr, DecidableEq

/-- A link to the peer. -/
structure PeerLink where
  gate : Gate
  /-- The label of the data channel it opens. -/
  label : String
  connection : Option ConnectionId
  /-- The listeners it registered on the peer connection. -/
  registrations : List Nat
  /-- The local media were handed over. -/
  sendsLocalMedia : Bool
  remoteStream : MediaStream
  /-- The candidates held until there is a remote description, newest first. -/
  held : List IceCandidate
  /-- The data channel in use. -/
  adopted : Option ChannelRegistration
  /-- The announced channels that have yet to open, oldest first. -/
  pending : List ChannelRegistration
  /-- The network path works. -/
  connected : Bool
  deriving Repr

namespace PeerLink

/-- A link before its first peer connection. -/
def make (label : String) : PeerLink where
  gate := .passing
  label
  connection := none
  registrations := []
  sendsLocalMedia := false
  remoteStream := ⟨"remote", []⟩
  held := []
  adopted := none
  pending := []
  connected := false

/-- Whether the path works after its state changed. -/
def connectedAfter (connected : Bool) : IceState → Bool
  | .connected | .completed => true
  | .disconnected | .closed | .failed => false
  | .new | .checking => connected

/-- What the coordinator is told of a state of the path. A completed path needs no
relay any more. -/
def pathReport? : IceState → Option CoordinatorItem
  | .connected => some .peerConnected
  | .completed => some .closedSignaller
  | .disconnected | .closed => some .peerConnectionEnded
  | .new | .checking | .failed => none

end PeerLink

end CallControl
