import CallControl.Platform.DataChannel
import CallControl.Platform.Note
import CallControl.Platform.PeerConnection
import CallControl.Platform.RelaySocket
import CallControl.Platform.TokenScript

/-! # The simulated platform

Everything around a call: the sockets, peer connections and data channels made so
far, each known by its position; the local media; the sources of tokens and of the
ICE configuration; and what was handed to the dispatcher. Nothing is ever removed, so
the platform is also the record of what happened.

A dispatcher may be armed to break off at the next item. Whoever is in the middle of
something then stops at once, and `crashed` stays set until the break is reported.
-/

namespace CallControl

/-- Identifies a socket of a platform. -/
abbrev SocketId := Nat

/-- Identifies a peer connection of a platform. -/
abbrev ConnectionId := Nat

/-- A simulated platform. -/
structure Platform where
  sockets : List RelaySocket
  connections : List PeerConnection
  channels : List DataChannel
  localStream : MediaStream
  tokens : TokenScript
  iceConfiguration : Except Failure IceConfiguration
  /-- Beside the sockets there is one that accepts every request and heeds none. -/
  hasUnheeding : Bool
  /-- No further socket can be connected. -/
  refusesSockets : Bool
  /-- No further peer connection can be created. -/
  refusesConnections : Bool
  /-- The items handed to the dispatcher, oldest first. -/
  dispatched : List WorkItem
  /-- What listeners and observers wrote down, oldest first. -/
  journal : List Note
  /-- The dispatcher breaks off at the next item. -/
  trapped : Bool
  /-- Something broke off and was not reported yet. -/
  crashed : Bool

namespace Platform

/-- A platform on which nothing has happened. -/
def make (localStream : MediaStream) (tokens : TokenScript)
    (iceConfiguration : Except Failure IceConfiguration) : Platform where
  sockets := []
  connections := []
  channels := []
  localStream
  tokens
  iceConfiguration
  hasUnheeding := false
  refusesSockets := false
  refusesConnections := false
  dispatched := []
  journal := []
  trapped := false
  crashed := false

/-- A platform with one socket changed. -/
def modifySocket (platform : Platform) (id : SocketId) (change : RelaySocket → RelaySocket) :
    Platform :=
  { platform with sockets := platform.sockets.modify id change }

/-- A platform with one peer connection changed. -/
def modifyConnection (platform : Platform) (id : ConnectionId)
    (change : PeerConnection → PeerConnection) : Platform :=
  { platform with connections := platform.connections.modify id change }

/-- A platform with one data channel changed. -/
def modifyChannel (platform : Platform) (id : ChannelId) (change : DataChannel → DataChannel) :
    Platform :=
  { platform with channels := platform.channels.modify id change }

/-- The socket made last. -/
def lastSocket? (platform : Platform) : Option SocketId :=
  if platform.sockets.isEmpty then none else some (platform.sockets.length - 1)

/-- The peer connection made last. -/
def lastConnection? (platform : Platform) : Option ConnectionId :=
  if platform.connections.isEmpty then none else some (platform.connections.length - 1)

/-- Connecting a socket to an address. -/
def connectSocket (platform : Platform) (url : String) (observer : SocketAudience) :
    Except Failure (SocketId × Platform) :=
  if platform.refusesSockets then .error (.injected .socketConnect)
  else .ok (platform.sockets.length,
    { platform with sockets := platform.sockets ++ [.make url observer] })

/-- Creating a peer connection. -/
def createConnection (platform : Platform) (configuration : IceConfiguration) :
    Except Failure (ConnectionId × Platform) :=
  if platform.refusesConnections then .error (.injected .createPeerConnection)
  else .ok (platform.connections.length,
    { platform with connections := platform.connections ++ [.make configuration] })

/-- A platform with a data channel more; its id is the number of those before it. -/
def addChannel (platform : Platform) (channel : DataChannel) : Platform :=
  { platform with channels := platform.channels ++ [channel] }

/-- A platform with a note written down. -/
def note (platform : Platform) (note : Note) : Platform :=
  { platform with journal := platform.journal ++ [note] }

/-- A platform after an item was handed to its dispatcher. -/
def dispatch (platform : Platform) (item : WorkItem) : Platform :=
  if platform.trapped then { platform with trapped := false, crashed := true }
  else { platform with dispatched := platform.dispatched ++ [item] }

/-- The channels of an origin among some channels. -/
def countOrigin (origin : ChannelOrigin) (channels : List DataChannel) : Nat :=
  channels.countP fun channel => channel.origin == origin

/-- The name of a channel: the letter of its origin and its number among the
channels of that origin. -/
def channelName (platform : Platform) (id : ChannelId) : String :=
  match platform.channels[id]? with
  | none => ""
  | some channel =>
      let letter := match channel.origin with
        | .announced => "c"
        | .own => "o"
      letter ++ String.ofList
        (Text.decimal (countOrigin channel.origin (platform.channels.take id)))

/-- The channel with a name. -/
def channelNamed? (platform : Platform) (name : String) : Option ChannelId :=
  (List.range platform.channels.length).find? fun id => platform.channelName id == name

end Platform

end CallControl
