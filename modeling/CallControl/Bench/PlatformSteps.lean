import CallControl.Bench.Step
import CallControl.Bench.Subject

/-! # Steps on the platform

How the objects of a platform do what a bench tells them. A step on the last socket
or the last peer connection fails when there is none, and a step on a channel when
nothing has its name.
-/

namespace CallControl.Bench

/-- A step on a socket. -/
def runSocketStep (subject : Subject) (id : SocketId) (socket : RelaySocket) :
    SocketStep → Answer × Subject
  | .event event => (.nothing, subject.change fun parts => parts.occur (.socket id event))
  | .failSend on =>
      (.nothing, subject.changePlatform (·.modifySocket id fun current =>
        { current with failsToSend := on }))
  | .send text =>
      match socket.send text with
      | .ok sent => (.nothing, subject.changePlatform (·.modifySocket id fun _ => sent))
      | .error failure => (.failure failure, subject)
  | .detach => (.nothing, subject.changePlatform (·.modifySocket id RelaySocket.detach))
  | .close => (.nothing, subject.change fun parts => parts.closeSocket id)

/-- A step on the socket made last. -/
def onLastSocket (subject : Subject) (step : SocketStep) : Answer × Subject :=
  let platform := subject.platform
  match platform.lastSocket?, platform.sockets.getLast? with
  | some id, some socket => runSocketStep subject id socket step
  | _, _ => (.failure (complaint "no socket"), subject)

/-- A request made of a peer connection, read to the end: all texts are values. -/
inductive ConnectionRequest where
  | event (event : ConnectionEvent)
  | change (update : PeerConnection → PeerConnection)
  | ask (answer : PeerConnection → Answer)
  /-- A request that may be refused. -/
  | attempt (update : PeerConnection → Except Failure (Answer × PeerConnection))
  | addCandidate (candidate : IceCandidate)
  | createChannel (label : String)

/-- The value of a text in a step. -/
def readValue (json : String) : Except Failure Json :=
  match Json.parse? json with
  | some value => .ok value
  | none => .error .malformedJson

/-- What a created description is answered as. -/
def describing : Except Failure (SessionDescription × PeerConnection) →
    Except Failure (Answer × PeerConnection)
  | .ok (description, connection) => .ok (.text description.value.toText, connection)
  | .error failure => .error failure

/-- What an accepted change is answered as. -/
def accepting : Except Failure PeerConnection → Except Failure (Answer × PeerConnection)
  | .ok connection => .ok (.nothing, connection)
  | .error failure => .error failure

/-- The request of a step, with its texts read. -/
def ConnectionStep.request (platform : Platform) :
    ConnectionStep → Except Failure ConnectionRequest
  | .negotiationNeeded => .ok (.event .negotiationNeeded)
  | .iceCandidate none => .ok (.event (.iceCandidate none))
  | .iceCandidate (some json) =>
      (readValue json).map fun value => .event (.iceCandidate (some ⟨value⟩))
  | .track arrived => .ok (.event (.track arrived))
  | .iceState name =>
      match IceState.ofName? name with
      | some state => .ok (.event (.iceState state))
      | none => .error .unknownName
  | .announceChannel name =>
      (findChannel platform name).map fun id => .event (.dataChannel id)
  | .refuseRemote on => .ok (.change fun current => { current with refusesRemote := on })
  | .refuseTracks on => .ok (.change fun current => { current with refusesTracks := on })
  | .refuseCandidates on => .ok (.change fun current => { current with refusesCandidates := on })
  | .createOffer options => .ok (.attempt fun current => describing (current.createOffer options))
  | .createAnswer => .ok (.attempt fun current => describing current.createAnswer)
  | .setLocal json =>
      (readValue json).map fun value => .change fun current => current.setLocal ⟨value⟩
  | .setRemote json =>
      (readValue json).map fun value => .attempt fun current =>
        accepting (current.setRemote ⟨value⟩)
  | .hasRemote => .ok (.ask fun current => .truth current.remoteDescription.isSome)
  | .addCandidate json => (readValue json).map fun value => .addCandidate ⟨value⟩
  | .addTrack added => .ok (.attempt fun current => accepting (current.addTrack added))
  | .createChannel label => .ok (.createChannel label)
  | .listen kind =>
      .ok (.attempt fun current =>
        .ok (.number current.nextListener, current.addListener kind .note))
  | .unlisten id =>
      .ok (.attempt fun current =>
        .ok (.truth (current.hasListener id), current.removeListener id))
  | .close => .ok (.change PeerConnection.close)

/-- A request made of a peer connection. -/
def runRequest (subject : Subject) (id : ConnectionId) (connection : PeerConnection) :
    ConnectionRequest → Answer × Subject
  | .event event => (.nothing, subject.change fun parts => parts.occur (.connection id event))
  | .change update => (.nothing, subject.changePlatform (·.modifyConnection id update))
  | .ask answer => (answer connection, subject)
  | .attempt update =>
      match update connection with
      | .ok (answer, updated) =>
          (answer, subject.changePlatform (·.modifyConnection id fun _ => updated))
      | .error failure => (.failure failure, subject)
  | .addCandidate candidate =>
      (match connection.candidateRefusal? with
        | some failure => .failure failure
        | none => .nothing,
        subject.changePlatform (·.modifyConnection id (·.addCandidate candidate)))
  | .createChannel label =>
      if connection.closed then (.failure (.call (.createDataChannel "closed")), subject)
      else
        let channel := DataChannel.make .own label
        (.texts [channel.label, channel.describe], subject.changePlatform (·.addChannel channel))

/-- A step that reads what it carries before it looks for the peer connection: those
that carry a candidate or name a channel do. -/
def ConnectionStep.readsFirst : ConnectionStep → Bool
  | .iceCandidate _ | .addCandidate _ | .announceChannel _ => true
  | _ => false

/-- Why a step fails where there is no peer connection. -/
def ConnectionStep.failureWithout (step : ConnectionStep) (platform : Platform) : Failure :=
  match step.readsFirst, step.request platform with
  | true, .error failure => failure
  | _, _ => complaint "no peer connection"

/-- A step on the peer connection made last. -/
def onLastConnection (subject : Subject) (step : ConnectionStep) : Answer × Subject :=
  let platform := subject.platform
  match platform.lastConnection?, platform.connections.getLast? with
  | some id, some connection =>
      match step.request platform with
      | .ok request => runRequest subject id connection request
      | .error failure => (.failure failure, subject)
  | _, _ => (.failure (step.failureWithout platform), subject)

/-- A step on a channel. -/
def runChannelStep (subject : Subject) (id : ChannelId) (channel : DataChannel) :
    ChannelStep → Answer × Subject
  | .opened => (.nothing, subject.change fun parts => parts.occur (.channelOpened id))
  | .message text => (.nothing, subject.change fun parts => parts.occur (.channelMessage id text))
  | .close => (.nothing, subject.change fun parts => parts.occur (.channelClosed id))
  | .failSend on =>
      (.nothing, subject.changePlatform (·.modifyChannel id fun current =>
        { current with failsToSend := on }))
  | .send text =>
      match channel.send text with
      | .ok sent => (.nothing, subject.changePlatform (·.modifyChannel id fun _ => sent))
      | .error failure => (.failure failure, subject)
  | .listen =>
      (.number channel.nextListener,
        subject.changePlatform (·.modifyChannel id (·.addListener .note)))
  | .unlisten listener =>
      (.truth (channel.hasListener listener),
        subject.changePlatform (·.modifyChannel id (·.removeListener listener)))

/-- A step on the channel of a name. -/
def onChannel (subject : Subject) (name : String) (step : ChannelStep) : Answer × Subject :=
  match findChannel subject.platform name with
  | .error failure => (.failure failure, subject)
  | .ok id =>
      match subject.platform.channels[id]? with
      | some channel => runChannelStep subject id channel step
      | none => (.failure (complaint "no channel"), subject)

/-- The answer that tells of a track. -/
def trackAnswer : Option MediaTrack → Answer
  | some track => .track track.kind track.enabled
  | none => .nothing

/-- A subject with its remote stream changed. -/
def changeRemote (subject : Subject) (update : MediaStream → MediaStream) : Subject :=
  subject.change fun parts =>
    { parts with peer := { parts.peer with remoteStream := update parts.peer.remoteStream } }

/-- A subject with its local stream changed. -/
def changeLocal (subject : Subject) (update : MediaStream → MediaStream) : Subject :=
  subject.changePlatform fun platform =>
    { platform with localStream := update platform.localStream }

/-- A step on the platform. -/
def onPlatform (subject : Subject) : PlatformStep → Answer × Subject
  | .refuseSockets on =>
      (.nothing, subject.changePlatform fun platform => { platform with refusesSockets := on })
  | .connectSocket url =>
      match subject.platform.connectSocket url .note with
      | .ok (_, connected) => (.nothing, subject.changePlatform fun _ => connected)
      | .error failure => (.failure failure, subject)
  | .leak event =>
      if subject.platform.hasUnheeding then
        (.nothing, subject.change fun parts => parts.occur (.unheeding event))
      else (.failure (complaint "no socket"), subject)
  | .refuseConnections on =>
      (.nothing, subject.changePlatform fun platform => { platform with refusesConnections := on })
  | .trap on =>
      (.nothing,
        match subject with
        -- the items of a session go to its own queue, which does not break off
        | .session _ => subject
        | _ => subject.changePlatform fun platform => { platform with trapped := on })
  | .createConnection json =>
      match IceConfiguration.parse? json with
      | none => (.failure .malformedJson, subject)
      | some configuration =>
          match subject.platform.createConnection configuration with
          | .ok (_, created) => (.nothing, subject.changePlatform fun _ => created)
          | .error failure => (.failure failure, subject)
  | .createChannel label =>
      let channel := DataChannel.make .announced label
      (.text channel.describe, subject.changePlatform (·.addChannel channel))
  | .addLocalTrack track => (.nothing, changeLocal subject (·.add track))
  | .enableLocal kind on =>
      (.truth (subject.platform.localStream.hasKind kind),
        changeLocal subject (·.setEnabled kind on))
  | .enableRemote kind on =>
      match subject.remoteStream? with
      | none => (.nothing, subject)
      | some stream => (.truth (stream.hasKind kind), changeRemote subject (·.setEnabled kind on))
  | .enableTrack true id on =>
      match subject.remoteStream? with
      | none => (.nothing, subject)
      | some stream =>
          (trackAnswer ((stream.setTrackEnabled id on).track? id),
            changeRemote subject (·.setTrackEnabled id on))
  | .enableTrack false id on =>
      (trackAnswer ((subject.platform.localStream.setTrackEnabled id on).track? id),
        changeLocal subject (·.setTrackEnabled id on))

end CallControl.Bench
