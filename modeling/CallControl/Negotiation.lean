import CallControl.Parts
import CallControl.SideChannel

/-! # Negotiating with the peer

The link to the peer turns events of its peer connection and its channels into items
and applies items to the peer connection. Three rules run through it. Candidates
that come before the remote description are held and handed over, newest first, once
there is one. The first channel it opens or is handed becomes the one in use, and a
channel handed over later replaces it and closes it. And everything raised goes
through the gate, so nothing is raised after cleaning up.
-/

namespace CallControl.Parts

/-- Raises an item from the peer's side, if the gate lets it through. A dispatcher
that breaks off leaves the gate broken. -/
def raiseFromPeer (parts : Parts) (item : WorkItem) : Parts :=
  match parts.peer.gate with
  | .passing =>
      { parts with
        platform := parts.platform.dispatch item
        peer := { parts.peer with
          gate := if parts.platform.trapped then .broken else .passing } }
  | _ => parts

/-- The link after its path changed: it knows whether the path works, and the
coordinator is told of some states. -/
def pathChanged (parts : Parts) (state : IceState) : Parts :=
  let known := { parts with
    peer := { parts.peer with
      connected := PeerLink.connectedAfter parts.peer.connected state } }
  match PeerLink.pathReport? state with
  | some item => known.raiseFromPeer (.coordinator item)
  | none => known

/-- The link after a channel was announced: an open one is handed over at once, any
other one when it opens. -/
def channelAnnounced (parts : Parts) (id : ChannelId) : Parts :=
  match parts.platform.channels[id]? with
  | none => parts
  | some channel =>
      if channel.state == .opened then parts.raiseFromPeer (.peer (.dataChannel id))
      else
        let listening := parts.modifyChannel id (·.addListener .awaitOpen)
        { listening with
          peer := { listening.peer with
            pending := listening.peer.pending ++ [⟨id, channel.nextListener⟩] } }

/-- The link after an event of its peer connection. -/
def peerHeard (parts : Parts) : ConnectionEvent → Parts
  | .negotiationNeeded => parts.raiseFromPeer (.peer .negotiationNeeded)
  | .iceCandidate none => parts
  | .iceCandidate (some candidate) => parts.raiseFromPeer (.signal (.candidate candidate))
  | .track track =>
      { parts with
        peer := { parts.peer with
          remoteStream := parts.peer.remoteStream.add track } }.raiseFromPeer
        (.coordinator .peerStreamTrackUpdate)
  | .iceState state => parts.pathChanged state
  | .dataChannel id => parts.channelAnnounced id

/-- What one listener on a channel does with an event. -/
def channelHeard (parts : Parts) (id : ChannelId) (event : ChannelEvent) : ChannelRole → Parts
  | .awaitOpen =>
      match event with
      | .opened => parts.raiseFromPeer (.peer (.dataChannel id))
      | _ => parts
  | .peerMessages =>
      match event with
      | .message text =>
          match PeerMessage.parse? text with
          | some message => parts.eachUntilCrash raiseFromPeer message.items
          | none => parts
      | _ => parts
  | .note => parts.note (.channel (parts.platform.channelName id) event)

/-- A channel's event told to those who listened when it happened, in the order of
registration. -/
def channelEmits (parts : Parts) (id : ChannelId) (event : ChannelEvent) : Parts :=
  match parts.platform.channels[id]? with
  | none => parts
  | some channel =>
      parts.eachUntilCrash (fun current role => current.channelHeard id event role)
        (channel.listeners.map ChannelListener.role)

/-- A channel closed; it reports so if it was not closed before. -/
def closeChannel (parts : Parts) (id : ChannelId) : Parts :=
  match parts.platform.channels[id]? with
  | none => parts
  | some channel =>
      if channel.isClosed then parts
      else
        (parts.modifyChannel id fun current => { current with state := .closed }).channelEmits id
          .closed

/-- Sends a text on the channel in use; a refusal changes nothing. -/
def sendToPeer (parts : Parts) (text : String) : Parts :=
  match parts.peer.adopted with
  | none => parts
  | some adopted =>
      parts.modifyChannel adopted.channel fun channel =>
        match channel.send text with
        | .ok sent => sent
        | .error _ => channel

/-- This side's state as the peer is told it. -/
def stateReport (parts : Parts) (requestState : Bool) : StateReport :=
  if parts.peer.sendsLocalMedia then
    ⟨requestState, parts.platform.localStream.hasEnabled .audio,
      parts.platform.localStream.hasEnabled .video⟩
  else ⟨requestState, false, false⟩

/-- Sends this side's state to the peer, perhaps asking for the peer's. -/
def sendState (parts : Parts) (requestState : Bool) : Parts :=
  parts.sendToPeer (parts.stateReport requestState).toText

/-- Sends an event to the peer. -/
def sendEvent (parts : Parts) (event : ToggleEvent) : Parts :=
  parts.sendToPeer event.name

/-- The channel becomes the one in use: the peer's messages on it are taken in. -/
def useChannel (parts : Parts) (id : ChannelId) : Parts :=
  match parts.platform.channels[id]? with
  | none => parts
  | some channel =>
      let listening := parts.modifyChannel id (·.addListener .peerMessages)
      { listening with
        peer := { listening.peer with adopted := some ⟨id, channel.nextListener⟩ } }

/-- Opens a channel on the peer connection and uses it, unless one is in use. -/
def openChannel (parts : Parts) (connection : PeerConnection) : Parts :=
  if parts.peer.adopted.isSome || connection.closed then parts
  else
    { parts with
      platform := parts.platform.addChannel (.make .own parts.peer.label) }.useChannel
      parts.platform.channels.length

/-- The listeners of some registrations taken off their channels. -/
def unregister (parts : Parts) (registrations : List ChannelRegistration) : Parts :=
  registrations.foldl
    (fun current registration =>
      current.modifyChannel registration.channel (·.removeListener registration.listener))
    parts

/-- The channel in use closed and no longer listened to. -/
def releaseChannel (parts : Parts) : Parts :=
  match parts.peer.adopted with
  | none => parts
  | some adopted =>
      let released := { parts with peer := { parts.peer with adopted := none } }
      (released.unregister [adopted]).closeChannel adopted.channel

/-- The pending registrations of a channel removed. -/
def settlePending (parts : Parts) (id : ChannelId) : Parts :=
  let unlistened :=
    parts.unregister (parts.peer.pending.filter fun entry => entry.channel == id)
  { unlistened with
    peer := { unlistened.peer with
      pending := parts.peer.pending.filter fun entry => entry.channel != id } }

/-- A channel handed over: it is no longer pending, and unless it is the one in use
it replaces that one. -/
def adoptChannel (parts : Parts) (id : ChannelId) : Parts :=
  let settled := parts.settlePending id
  if settled.peer.adopted.any fun adopted => adopted.channel == id then settled
  else settled.releaseChannel.useChannel id

/-- The local tracks added to the peer connection, as far as it takes them. -/
def addLocalTracks (parts : Parts) (connection : ConnectionId) : Parts :=
  if parts.peer.sendsLocalMedia then
    parts.modifyConnection connection (·.addTracks parts.platform.localStream.tracks)
  else parts

/-- The held candidates handed to the peer connection, newest first. -/
def flushHeld (parts : Parts) (connection : ConnectionId) : Parts :=
  let flushed := parts.modifyConnection connection fun current =>
    parts.peer.held.foldl PeerConnection.addCandidate current
  { flushed with peer := { flushed.peer with held := [] } }

/-- The peer connection after a remote offer, with the answer to it. -/
def acceptOffer (connection : PeerConnection) (offer : SessionDescription) :
    Except Failure (SessionDescription × PeerConnection) :=
  match connection.setRemote offer with
  | .error failure => .error failure
  | .ok described =>
      match described.createAnswer with
      | .error failure => .error failure
      | .ok (answer, answered) => .ok (answer, answered.setLocal answer)

/-- The peer connection after it made an offer, with the offer. -/
def makeOffer (connection : PeerConnection) :
    Except Failure (SessionDescription × PeerConnection) :=
  match connection.createOffer .standard with
  | .error failure => .error failure
  | .ok (offer, offering) => .ok (offer, offering.setLocal offer)

/-- An item applied to the peer connection in use. -/
def applyItem (parts : Parts) (id : ConnectionId) (connection : PeerConnection) : PeerItem → Parts
  | .userJoined => (parts.openChannel connection).addLocalTracks id
  | .webrtcOffer offer =>
      let tracked := parts.addLocalTracks id
      match tracked.platform.connections[id]? with
      | none => tracked
      | some current =>
          match acceptOffer current offer with
          | .error _ => tracked
          | .ok (answer, answered) =>
              ((tracked.modifyConnection id fun _ => answered).flushHeld id).raiseFromPeer
                (.signal (.acceptance answer))
  | .webrtcAcceptance answer =>
      match connection.setRemote answer with
      | .error _ => parts
      | .ok described => (parts.modifyConnection id fun _ => described).flushHeld id
  | .webrtcCandidate candidate =>
      if connection.remoteDescription.isNone then
        { parts with peer := { parts.peer with held := candidate :: parts.peer.held } }
      else parts.modifyConnection id (·.addCandidate candidate)
  | .dataChannel channel => (parts.adoptChannel channel).sendState true
  | .sendInitialState => parts.sendState false
  | .negotiationNeeded =>
      match makeOffer connection with
      | .error _ => parts
      | .ok (offer, offering) =>
          (parts.modifyConnection id fun _ => offering).raiseFromPeer (.signal (.offer offer))

/-- The peer connection in use, with its id. -/
def peerConnection? (parts : Parts) : Option (ConnectionId × PeerConnection) :=
  parts.peer.connection.bind fun id =>
    (parts.platform.connections[id]?).map fun connection => (id, connection)

/-- Handles an item; without a peer connection it fails and changes nothing. -/
def processItem (parts : Parts) (item : PeerItem) : Except Failure Unit × Parts :=
  match parts.peerConnection? with
  | none => (.error (.call (.notInitialized item.name)), parts)
  | some (id, connection) => (.ok (), parts.applyItem id connection item)

/-- The kinds of report that a link listens for, in the order of registration. -/
def linkKinds : List ConnectionEventKind :=
  [.negotiationNeeded, .iceCandidate, .track, .iceState, .dataChannel]

/-- A peer connection created and listened to, unless there is one already. The ICE
configuration comes first: without it none is created. -/
def initPeer (parts : Parts) : Except Failure Unit × Parts :=
  if parts.peer.connection.isSome then (.ok (), parts)
  else
    match parts.platform.iceConfiguration with
    | .error failure => (.error failure, parts)
    | .ok configuration =>
        match parts.platform.createConnection configuration with
        | .error failure => (.error (.call (.createPeerConnection failure.summary)), parts)
        | .ok (id, platform) =>
            let listening := platform.modifyConnection id fun connection =>
              linkKinds.foldl (fun current kind => current.addListener kind .link) connection
            (.ok (), { parts with
              platform := listening
              peer := { parts.peer with
                connection := some id
                registrations := (List.range linkKinds.length).map (· + 1)
                sendsLocalMedia := true } })

/-- The link with its gate shut, every listener taken off, the channel in use and the
peer connection closed, and nothing held. -/
def cleanUpPeer (parts : Parts) : Parts :=
  let silent := { parts with peer := { parts.peer with gate := parts.peer.gate.close } }
  match silent.peer.connection with
  | none => silent
  | some id =>
      let unlistened := silent.modifyConnection id fun connection =>
        silent.peer.registrations.foldl PeerConnection.removeListener connection
      let withoutPending := unlistened.unregister unlistened.peer.pending
      let released := { withoutPending with
        peer := { withoutPending.peer with pending := [] } }.releaseChannel
      let closed := released.modifyConnection id PeerConnection.close
      { closed with
        peer := { closed.peer with
          connection := none
          registrations := []
          held := []
          connected := false } }

end CallControl.Parts
