import CallControl.Failure
import CallControl.Platform.Event

/-! # Data channels

A simulated data channel records what is sent on it and whom it would tell of its
events. It can be opened again after it was closed, and sending fails only when it is
closed or told to fail.
-/

namespace CallControl

/-- The state of a data channel. -/
inductive ChannelState where
  | connecting
  | opened
  | closing
  | closed
  deriving Repr, DecidableEq

/-- The name of a state. -/
def ChannelState.name : ChannelState → String
  | .connecting => "connecting"
  | .opened => "open"
  | .closing => "closing"
  | .closed => "closed"

/-- Why somebody listens to a channel. -/
inductive ChannelRole where
  /-- To hand the channel over once it opens. -/
  | awaitOpen
  /-- To take in the peer's messages. -/
  | peerMessages
  /-- To write everything down. -/
  | note
  deriving Repr, DecidableEq

/-- A listener on a channel. -/
structure ChannelListener where
  id : Nat
  role : ChannelRole
  deriving Repr, DecidableEq

/-- Where a channel comes from. -/
inductive ChannelOrigin where
  /-- Made apart from any peer connection of this side. -/
  | announced
  /-- Made by a peer connection of this side. -/
  | own
  deriving Repr, DecidableEq

/-- A data channel. -/
structure DataChannel where
  origin : ChannelOrigin
  label : String
  state : ChannelState
  listeners : List ChannelListener
  nextListener : Nat
  /-- What was sent, oldest first. -/
  sent : List String
  failsToSend : Bool
  deriving Repr, DecidableEq

namespace DataChannel

/-- A new channel. -/
def make (origin : ChannelOrigin) (label : String) : DataChannel :=
  ⟨origin, label, .connecting, [], 1, [], false⟩

/-- The text of a channel. -/
def describe (channel : DataChannel) : String :=
  "SimDataChannel(" ++ channel.label ++ ")"

/-- A channel with a listener more; its id is the channel's next one. -/
def addListener (channel : DataChannel) (role : ChannelRole) : DataChannel :=
  { channel with
    listeners := channel.listeners ++ [⟨channel.nextListener, role⟩]
    nextListener := channel.nextListener + 1 }

/-- A listener with an id is attached. -/
def hasListener (channel : DataChannel) (id : Nat) : Bool :=
  channel.listeners.any fun listener => listener.id == id

/-- A channel without the listener of an id. -/
def removeListener (channel : DataChannel) (id : Nat) : DataChannel :=
  { channel with listeners := channel.listeners.filter fun listener => listener.id != id }

/-- A channel after a text was sent on it, or why it could not be. -/
def send (channel : DataChannel) (text : String) : Except Failure DataChannel :=
  if channel.failsToSend || channel.state == .closed then .error (.call .dataChannelSend)
  else .ok { channel with sent := channel.sent ++ [text] }

/-- The channel is closed. -/
def isClosed (channel : DataChannel) : Bool := channel.state == .closed

end DataChannel

end CallControl
