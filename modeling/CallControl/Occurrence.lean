import CallControl.Negotiation
import CallControl.Signalling

/-! # What happens on the platform

An event of a socket, a peer connection or a channel changes the object it happens to
and is then told to those who listened at that moment, in the order of their
registration; the first that breaks off is the last that is told. An event reaches a
call only in this way.
-/

namespace CallControl

/-- A socket after one of its events. -/
def RelaySocket.after (socket : RelaySocket) : SocketEvent → RelaySocket
  | .opened => { socket with isOpen := true }
  | .closed _ _ => socket.shut
  | _ => socket

/-- A peer connection after one of its events. -/
def PeerConnection.after (connection : PeerConnection) : ConnectionEvent → PeerConnection
  | .iceState state => { connection with iceState := state }
  | _ => connection

namespace Parts

/-- A socket's event told to its observer. -/
def socketHeard (parts : Parts) (socket : HeldSocket) (event : SocketEvent) :
    SocketAudience → Parts
  | .link => parts.relayHeard socket event
  | .note => parts.note (.socket event)

/-- An event of a socket. -/
def socketEmits (parts : Parts) (id : SocketId) (event : SocketEvent) : Parts :=
  match parts.platform.sockets[id]? with
  | none => parts
  | some socket =>
      let changed := parts.modifySocket id (·.after event)
      match socket.observer with
      | none => changed
      | some observer => changed.socketHeard (.simulated id) event observer

/-- A socket closed from this side; it reports so unless it was closed before. -/
def closeSocket (parts : Parts) (id : SocketId) : Parts :=
  if parts.platform.sockets[id]?.any RelaySocket.closed then parts
  else parts.socketEmits id (.closed (some 1000) "closed locally")

/-- A peer connection's event told to one listener. -/
def connectionHeard (event : ConnectionEvent) (parts : Parts) : ConnectionAudience → Parts
  | .link => parts.peerHeard event
  | .note => parts.note (.connection event.kind)

/-- An event of a peer connection. -/
def connectionEmits (parts : Parts) (id : ConnectionId) (event : ConnectionEvent) : Parts :=
  match parts.platform.connections[id]? with
  | none => parts
  | some connection =>
      (parts.modifyConnection id (·.after event)).eachUntilCrash (connectionHeard event)
        (connection.audience event.kind)

/-- A channel opened. -/
def openChannelNow (parts : Parts) (id : ChannelId) : Parts :=
  (parts.modifyChannel id fun channel => { channel with state := .opened }).channelEmits id .opened

end Parts

/-- Something that happens on the platform. -/
inductive Occurrence where
  | socket (socket : SocketId) (event : SocketEvent)
  /-- An event of the socket that heeds nothing. -/
  | unheeding (event : SocketEvent)
  | connection (connection : ConnectionId) (event : ConnectionEvent)
  | channelOpened (channel : ChannelId)
  | channelMessage (channel : ChannelId) (text : String)
  | channelClosed (channel : ChannelId)
  deriving Repr

/-- The parts after something happened. -/
def Parts.occur (parts : Parts) : Occurrence → Parts
  | .socket id event => parts.socketEmits id event
  | .unheeding event => parts.relayHeard .unheeding event
  | .connection id event => parts.connectionEmits id event
  | .channelOpened id => parts.openChannelNow id
  | .channelMessage id text => parts.channelEmits id (.message text)
  | .channelClosed id => parts.closeChannel id

end CallControl
