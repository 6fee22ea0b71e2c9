import CallControl.Lifecycle
import CallControl.Occurrence

/-! # Calls

A call handles the items raised by its two links, one at a time, and keeps its stage
and its flags (`Call.route`). It tells its observer of every change of either and of
nothing else. The relay is given up once the peer is connected; a call is over when
the relay closes before that, when the peer connection ends, when it takes too long
to connect, or when it is ended from this side, and from then on nothing reaches its
parts.
-/

namespace CallControl

/-- A call with its parts. -/
structure Call extends Parts where
  line : String
  lifecycle : Lifecycle
  flags : CallFlags
  /-- The link to the relay has not been given up. -/
  holdsRelay : Bool
  /-- Nobody observes the call. -/
  silent : Bool

namespace Call

/-- A call over its parts, in its first stage; its own flags show the local tracks. -/
def ofParts (parts : Parts) (line : String) (silent : Bool) : Call where
  toParts := parts
  line
  lifecycle := .ringing
  flags :=
    ⟨false, false, parts.platform.localStream.hasEnabled .audio,
      parts.platform.localStream.hasEnabled .video⟩
  holdsRelay := true
  silent

/-- The call after its observer was told something. -/
def tell (call : Call) (note : Note) : Call :=
  if call.silent then call else { call with toParts := call.toParts.note note }

/-- The call at a stage; the observer is told when it is another one. -/
def setLifecycle (call : Call) (stage : Lifecycle) : Call :=
  if call.lifecycle = stage then call
  else { call with lifecycle := stage }.tell (.lifecycle call.line stage)

/-- The call with some flags; the observer is told when they are others. -/
def setFlags (call : Call) (flags : CallFlags) : Call :=
  if call.flags = flags then call
  else { call with flags }.tell (.flags call.line flags)

/-- The call without its link to the relay. -/
def releaseRelay (call : Call) : Call :=
  if call.holdsRelay then
    { call with toParts := call.toParts.cleanUpRelay, holdsRelay := false }
  else call

/-- The call ended from this side; ending it again changes nothing. -/
def endCall (call : Call) : Call :=
  if call.lifecycle = .ended then call
  else
    let released := call.releaseRelay
    { released with toParts := released.toParts.cleanUpPeer }.setLifecycle .ended

/-- An item for the coordinator. -/
def coordinate (call : Call) : CoordinatorItem → Call
  | .peerConnected => (call.setLifecycle .connected).releaseRelay
  | .closedSignaller => if call.peer.connected then call.releaseRelay else call.endCall
  | .peerConnectionEnded => call.endCall
  | .peerStreamTrackUpdate =>
      let stream := call.peer.remoteStream
      let told := call.tell (.stream call.line stream.id stream.tracks.length)
      told.setFlags { told.flags with
        peerMic := told.flags.peerMic || stream.hasEnabled .audio
        peerVideo := told.flags.peerVideo || stream.hasEnabled .video }
  | .peerMicTurnedOn => call.setFlags { call.flags with peerMic := true }
  | .peerMicTurnedOff => call.setFlags { call.flags with peerMic := false }
  | .peerVideoTurnedOn => call.setFlags { call.flags with peerVideo := true }
  | .peerVideoTurnedOff => call.setFlags { call.flags with peerVideo := false }

/-- An item that shows that the peer is there. -/
def showsPeer : PeerItem → Bool
  | .userJoined | .webrtcOffer _ => true
  | _ => false

/-- An item for the link to the peer. A failure there does not concern the call. -/
def negotiate (call : Call) (item : PeerItem) : Call :=
  let staged :=
    if call.lifecycle = .ringing ∧ showsPeer item = true then call.setLifecycle .connecting
    else call
  { staged with toParts := (staged.toParts.processItem item).2 }

/-- A signal for the relay, if the link to it is still there. -/
def signal (call : Call) (signal : Signal) : Call :=
  if call.holdsRelay then { call with toParts := call.toParts.sendSignal signal } else call

/-- The call after an item; a call that is over drops it. -/
def route (call : Call) (item : WorkItem) : Call :=
  if call.lifecycle = .ended then call
  else
    match item with
    | .signal signal => call.signal signal
    | .peer item => call.negotiate item
    | .coordinator item => call.coordinate item

/-- The call with its local tracks of a kind enabled or disabled. -/
def setLocalEnabled (call : Call) (kind : MediaKind) (enabled : Bool) : Call :=
  { call with
    platform := { call.platform with
      localStream := call.platform.localStream.setEnabled kind enabled } }

/-- The call with its microphone switched; the peer is told. -/
def setMic (call : Call) (enabled : Bool) : Call :=
  if call.lifecycle = .ended then call
  else
    let switched := call.setLocalEnabled .audio enabled
    let shown := switched.setFlags { switched.flags with myMic := enabled }
    { shown with toParts := shown.toParts.sendEvent (.mic enabled) }

/-- The call with its camera switched; the peer is told. -/
def setVideo (call : Call) (enabled : Bool) : Call :=
  if call.lifecycle = .ended then call
  else
    let switched := call.setLocalEnabled .video enabled
    let shown := switched.setFlags { switched.flags with myVideo := enabled }
    { shown with toParts := shown.toParts.sendEvent (.video enabled) }

/-- The call when it should have connected by now. -/
def connectTimeout (call : Call) : Call :=
  match call.lifecycle with
  | .ringing | .connecting => call.endCall
  | .connected | .ended => call

/-- The call after something happened on its platform. -/
def occur (call : Call) (occurrence : Occurrence) : Call :=
  { call with toParts := call.toParts.occur occurrence }

/-- The parts left when a call is let go of. -/
def release (call : Call) : Parts :=
  call.releaseRelay.toParts.cleanUpPeer

end Call

end CallControl
