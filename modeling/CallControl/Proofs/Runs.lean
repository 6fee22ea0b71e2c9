import CallControl.Session

/-! # Runs of a link and of a call

What can happen to a link to the peer and to a call, one move after the other, in any
order. A call may be told to handle any item at any time, so whatever its queue does
is covered. Around both the platform changes without anybody being told: the peer makes
channels and switches the tracks that it sends, faults are switched on and off, and others
begin to listen.

Whoever breaks off in a move is gone when the next one begins (`Parts.recover`).
-/

namespace CallControl

/-- A change of the platform that nobody is told of. -/
inductive Adjustment where
  /-- The peer makes a channel; it may be announced later. -/
  | newChannel (label : String)
  | socketFails (socket : SocketId) (fails : Bool)
  | channelFails (channel : ChannelId) (fails : Bool)
  | refuseRemote (connection : ConnectionId) (refuses : Bool)
  | refuseTracks (connection : ConnectionId) (refuses : Bool)
  | refuseCandidates (connection : ConnectionId) (refuses : Bool)
  | refuseSockets (refuses : Bool)
  | refuseConnections (refuses : Bool)
  /-- The dispatcher breaks off at the next item. -/
  | trap (traps : Bool)
  /-- The local media become others. -/
  | changeMedia (localStream : MediaStream)
  /-- Somebody else listens to a channel. -/
  | overhearChannel (channel : ChannelId)
  /-- Somebody else listens to a peer connection. -/
  | overhearConnection (connection : ConnectionId) (kind : ConnectionEventKind)
  /-- The tracks of a kind that the peer sends are switched. -/
  | switchRemote (kind : MediaKind) (enabled : Bool)
  /-- One track that the peer sends is switched. -/
  | switchRemoteTrack (id : String) (enabled : Bool)
  deriving Repr

/-- A platform after a change that nobody is told of. -/
def Platform.adjust (platform : Platform) : Adjustment → Platform
  | .newChannel label => platform.addChannel (.make .announced label)
  | .socketFails id fails =>
      platform.modifySocket id fun socket => { socket with failsToSend := fails }
  | .channelFails id fails =>
      platform.modifyChannel id fun channel => { channel with failsToSend := fails }
  | .refuseRemote id refuses =>
      platform.modifyConnection id fun current => { current with refusesRemote := refuses }
  | .refuseTracks id refuses =>
      platform.modifyConnection id fun current => { current with refusesTracks := refuses }
  | .refuseCandidates id refuses =>
      platform.modifyConnection id fun current => { current with refusesCandidates := refuses }
  | .refuseSockets refuses => { platform with refusesSockets := refuses }
  | .refuseConnections refuses => { platform with refusesConnections := refuses }
  | .trap traps => { platform with trapped := traps }
  | .changeMedia localStream => { platform with localStream }
  | .overhearChannel id => platform.modifyChannel id (·.addListener .note)
  | .overhearConnection id kind => platform.modifyConnection id (·.addListener kind .note)
  | .switchRemote _ _ => platform
  | .switchRemoteTrack _ _ => platform

/-- What the peer sends after a change that nobody is told of. -/
def MediaStream.adjust (remote : MediaStream) : Adjustment → MediaStream
  | .switchRemote kind enabled => remote.setEnabled kind enabled
  | .switchRemoteTrack id enabled => remote.setTrackEnabled id enabled
  | _ => remote

namespace Parts

/-- The parts after a change of their platform, or of the tracks that arrived on it, that
nobody is told of. -/
def adjust (parts : Parts) (adjustment : Adjustment) : Parts :=
  { parts with
    platform := parts.platform.adjust adjustment
    peer := { parts.peer with remoteStream := parts.peer.remoteStream.adjust adjustment } }

/-- The parts when a break is over. -/
def recover (parts : Parts) : Parts :=
  { parts with platform := { parts.platform with crashed := false } }

/-- The parts after something happened on their platform. The socket that heeds nothing
reports only where there is one. -/
def undergo (parts : Parts) : Occurrence → Parts
  | .unheeding event =>
      if parts.platform.hasUnheeding then (parts.occur (.unheeding event)).recover else parts
  | occurrence => (parts.occur occurrence).recover

/-- An event that is reported at all is an occurrence. -/
theorem undergo_cases (parts : Parts) (occurrence : Occurrence) :
    parts.undergo occurrence = parts ∨
      parts.undergo occurrence = (parts.occur occurrence).recover := by
  cases occurrence with
  | unheeding event =>
      simp only [undergo]
      split
      · exact Or.inr rfl
      · exact Or.inl rfl
  | socket id event => exact Or.inr rfl
  | connection id event => exact Or.inr rfl
  | channelOpened id => exact Or.inr rfl
  | channelMessage id text => exact Or.inr rfl
  | channelClosed id => exact Or.inr rfl

end Parts

/-- What can happen to a link to the peer. -/
inductive LinkMove where
  | initialise
  | item (item : PeerItem)
  | sendState (requestState : Bool)
  | sendEvent (event : ToggleEvent)
  | cleanUp
  | event (occurrence : Occurrence)
  | adjust (adjustment : Adjustment)
  deriving Repr

namespace Parts

/-- A link to the peer that was never set up, on a platform of its own. -/
def bareLink (localStream : MediaStream) (tokens : TokenScript)
    (iceConfiguration : Except Failure IceConfiguration) (label : String) : Parts :=
  ⟨.make localStream tokens iceConfiguration, .unconnected, .make label⟩

/-- The parts after a move of the link to the peer. -/
def linkMove (parts : Parts) : LinkMove → Parts
  | .initialise => parts.initPeer.2.recover
  | .item item => (parts.processItem item).2.recover
  | .sendState requestState => parts.sendState requestState
  | .sendEvent event => parts.sendEvent event
  | .cleanUp => parts.cleanUpPeer.recover
  | .event occurrence => parts.undergo occurrence
  | .adjust adjustment => parts.adjust adjustment

/-- The parts after some moves of the link to the peer. -/
def linkRun (parts : Parts) (moves : List LinkMove) : Parts :=
  moves.foldl linkMove parts

@[simp] theorem linkRun_nil (parts : Parts) : parts.linkRun [] = parts := rfl

@[simp] theorem linkRun_cons (parts : Parts) (move : LinkMove) (moves : List LinkMove) :
    parts.linkRun (move :: moves) = (parts.linkMove move).linkRun moves := rfl

/-- A run can be made in two goes. -/
theorem linkRun_append (parts : Parts) (earlier later : List LinkMove) :
    parts.linkRun (earlier ++ later) = (parts.linkRun earlier).linkRun later :=
  List.foldl_append ..

/-- What every move keeps, a run keeps. -/
theorem linkRun_preserves {motive : Parts → Prop} {parts : Parts} {moves : List LinkMove}
    (kept : ∀ current, ∀ move ∈ moves, motive current → motive (current.linkMove move))
    (holds : motive parts) : motive (parts.linkRun moves) := by
  induction moves generalizing parts with
  | nil => exact holds
  | cons move rest ih =>
      exact ih (fun current later member => kept current later (List.mem_cons_of_mem _ member))
        (kept parts move List.mem_cons_self holds)

end Parts

/-- What can happen to a call. -/
inductive CallMove where
  /-- The call handles an item, as a step of its queue or otherwise. -/
  | item (item : WorkItem)
  | task (task : CallTask)
  | event (occurrence : Occurrence)
  | adjust (adjustment : Adjustment)
  deriving Repr

namespace Call

/-- A call with its parts changed. -/
def withParts (call : Call) (change : Parts → Parts) : Call :=
  { call with toParts := change call.toParts }

/-- The call after a move. -/
def move (call : Call) : CallMove → Call
  | .item item => (call.route item).withParts Parts.recover
  | .task task => (call.runTask task).withParts Parts.recover
  | .event occurrence => call.withParts (·.undergo occurrence)
  | .adjust adjustment => call.withParts (·.adjust adjustment)

/-- The call after some moves. -/
def run (call : Call) (moves : List CallMove) : Call :=
  moves.foldl move call

@[simp] theorem run_nil (call : Call) : call.run [] = call := rfl

@[simp] theorem run_cons (call : Call) (move : CallMove) (moves : List CallMove) :
    call.run (move :: moves) = (call.move move).run moves := rfl

/-- A run can be made in two goes. -/
theorem run_append (call : Call) (earlier later : List CallMove) :
    call.run (earlier ++ later) = (call.run earlier).run later :=
  List.foldl_append ..

/-- What every move keeps, a run keeps. -/
theorem run_preserves {motive : Call → Prop} {call : Call} {moves : List CallMove}
    (kept : ∀ current, ∀ move ∈ moves, motive current → motive (current.move move))
    (holds : motive call) : motive (call.run moves) := by
  induction moves generalizing call with
  | nil => exact holds
  | cons move rest ih =>
      exact ih (fun current later member => kept current later (List.mem_cons_of_mem _ member))
        (kept call move List.mem_cons_self holds)

/-- A call that was just set up over a relay socket of a platform of its own; its link
to the peer may have been left without a peer connection. -/
inductive Begins : Call → Prop where
  | setUp {localStream : MediaStream} {tokens : TokenScript}
      {iceConfiguration : Except Failure IceConfiguration} {config : Config} {line : String}
      {negotiates : Bool} {parts : Parts} (silent : Bool)
      (ready : (Parts.setUp (.make localStream tokens iceConfiguration) config line false
        negotiates).1 = .ok parts) :
      Begins (.ofParts parts line silent)

end Call

end CallControl
