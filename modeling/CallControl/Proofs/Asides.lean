import CallControl.Proofs.Runs

/-! # What each piece of work leaves alone

Each piece of work of a call changes a part of its surroundings and leaves the rest
alone. The rest is given as the parts with everything that may change erased
(`Parts.besidesReports`, `Parts.besidesChannels`, `Parts.besidesNegotiation`,
`Parts.besidesPeer`, `Parts.besidesRelay`), so that one equation for each piece of work
speaks of all that it does not touch.
-/

namespace CallControl.Parts

/-- The parts but for what was raised and written down, and whether that worked. -/
def besidesReports (parts : Parts) : Parts :=
  { parts with
    platform := { parts.platform with
      dispatched := [], journal := [], trapped := false, crashed := false }
    peer := { parts.peer with gate := .passing } }

/-- The parts but for reports and for the channels and what the link knows of them. -/
def besidesChannels (parts : Parts) : Parts :=
  let rest := parts.besidesReports
  { rest with
    platform := { rest.platform with channels := [] }
    peer := { rest.peer with adopted := none, pending := [] } }

/-- The parts but for reports, the channels, the peer connections and the candidates held
for them. -/
def besidesNegotiation (parts : Parts) : Parts :=
  let rest := parts.besidesChannels
  { rest with
    platform := { rest.platform with connections := [] }
    peer := { rest.peer with held := [] } }

/-- The parts but for reports, the channels, the peer connections and the link to the
peer. -/
def besidesPeer (parts : Parts) : Parts :=
  let rest := parts.besidesChannels
  { rest with
    platform := { rest.platform with connections := [] }
    peer := .make "" }

/-- The parts but for reports, the sockets, the tokens and the link to the relay. -/
def besidesRelay (parts : Parts) : Parts :=
  let rest := parts.besidesReports
  { rest with
    platform := { rest.platform with
      sockets := [], tokens := .ofAnswers [], hasUnheeding := false }
    relay := .unconnected }

/-- Whoever disregards the channels also disregards reports. -/
theorem besidesChannels_congr {before after : Parts}
    (same : after.besidesReports = before.besidesReports) :
    after.besidesChannels = before.besidesChannels := by
  unfold besidesChannels
  rw [same]

private theorem besidesNegotiation_congr {before after : Parts}
    (same : after.besidesChannels = before.besidesChannels) :
    after.besidesNegotiation = before.besidesNegotiation := by
  unfold besidesNegotiation
  rw [same]

/-- Whoever disregards the link to the peer also disregards its channels. -/
theorem besidesPeer_congr {before after : Parts}
    (same : after.besidesChannels = before.besidesChannels) :
    after.besidesPeer = before.besidesPeer := by
  unfold besidesPeer
  rw [same]

private theorem besidesPeer_of_negotiation {before after : Parts}
    (same : after.besidesNegotiation = before.besidesNegotiation) :
    after.besidesPeer = before.besidesPeer :=
  (congrArg (fun rest : Parts => rest.besidesPeer) same :)

/-- Whoever disregards the link to the relay also disregards reports. -/
theorem besidesRelay_congr {before after : Parts}
    (same : after.besidesReports = before.besidesReports) :
    after.besidesRelay = before.besidesRelay := by
  unfold besidesRelay
  rw [same]

/-- Reports leave the channels alone. -/
theorem channels_of_reports {before after : Parts}
    (same : after.besidesReports = before.besidesReports) :
    after.platform.channels = before.platform.channels :=
  (congrArg (fun rest : Parts => rest.platform.channels) same :)

/-- What happens to channels leaves the peer connections alone. -/
theorem connections_of_channels {before after : Parts}
    (same : after.besidesChannels = before.besidesChannels) :
    after.platform.connections = before.platform.connections :=
  (congrArg (fun rest : Parts => rest.platform.connections) same :)

/-- What happens to channels leaves the peer connection in use. -/
theorem connection_of_channels {before after : Parts}
    (same : after.besidesChannels = before.besidesChannels) :
    after.peer.connection = before.peer.connection :=
  (congrArg (fun rest : Parts => rest.peer.connection) same :)

/-- What happens to channels leaves the listeners on the peer connection. -/
theorem registrations_of_channels {before after : Parts}
    (same : after.besidesChannels = before.besidesChannels) :
    after.peer.registrations = before.peer.registrations :=
  (congrArg (fun rest : Parts => rest.peer.registrations) same :)

/-- There is no socket to change. -/
theorem modifySocket_of_none {parts : Parts} {id : SocketId}
    (absent : parts.platform.sockets[id]? = none) (change : RelaySocket → RelaySocket) :
    parts.modifySocket id change = parts := by
  have beyond := List.getElem?_eq_none_iff.mp absent
  simp only [modifySocket, Platform.modifySocket, List.modify_eq_self beyond]

/-- There is no peer connection to change. -/
theorem modifyConnection_of_none {parts : Parts} {id : ConnectionId}
    (absent : parts.platform.connections[id]? = none)
    (change : PeerConnection → PeerConnection) : parts.modifyConnection id change = parts := by
  have beyond := List.getElem?_eq_none_iff.mp absent
  simp only [modifyConnection, Platform.modifyConnection, List.modify_eq_self beyond]

/-- There is no channel to change. -/
theorem modifyChannel_of_none {parts : Parts} {id : ChannelId}
    (absent : parts.platform.channels[id]? = none) (change : DataChannel → DataChannel) :
    parts.modifyChannel id change = parts := by
  have beyond := List.getElem?_eq_none_iff.mp absent
  simp only [modifyChannel, Platform.modifyChannel, List.modify_eq_self beyond]

/-- Work done for some elements keeps what is kept for each of them. -/
theorem eachUntilCrash_preserves {Element : Type} {motive : Parts → Prop}
    {step : Parts → Element → Parts} {parts : Parts} {elements : List Element}
    (kept : ∀ current, ∀ element ∈ elements, motive current → motive (step current element))
    (holds : motive parts) : motive (parts.eachUntilCrash step elements) := by
  unfold eachUntilCrash
  induction elements generalizing parts with
  | nil => exact holds
  | cons element rest ih =>
      apply ih fun current later member => kept current later (List.mem_cons_of_mem _ member)
      dsimp only
      split
      · exact holds
      · exact kept parts element List.mem_cons_self holds

/-! ## Reports -/

@[simp] theorem besidesReports_recover (parts : Parts) :
    parts.recover.besidesReports = parts.besidesReports := rfl

@[simp] theorem besidesReports_note (parts : Parts) (note : Note) :
    (parts.note note).besidesReports = parts.besidesReports := rfl

@[simp] theorem besidesReports_dispatch (parts : Parts) (item : WorkItem) :
    ({ parts with platform := parts.platform.dispatch item } : Parts).besidesReports =
      parts.besidesReports := by
  unfold Platform.dispatch
  split <;> rfl

@[simp] theorem besidesReports_raiseFromPeer (parts : Parts) (item : WorkItem) :
    (parts.raiseFromPeer item).besidesReports = parts.besidesReports := by
  unfold raiseFromPeer
  split
  · exact besidesReports_dispatch parts item
  · rfl

@[simp] theorem besidesReports_raiseFromRelay (parts : Parts) (item : WorkItem) :
    (parts.raiseFromRelay item).besidesReports = parts.besidesReports := by
  unfold raiseFromRelay
  split
  · rfl
  · exact besidesReports_dispatch parts item

/-- Listeners on a channel only report. -/
@[simp] theorem besidesReports_channelHeard (parts : Parts) (id : ChannelId)
    (event : ChannelEvent) (role : ChannelRole) :
    (parts.channelHeard id event role).besidesReports = parts.besidesReports := by
  cases role with
  | awaitOpen =>
      cases event with
      | opened => exact besidesReports_raiseFromPeer ..
      | message text => rfl
      | closed => rfl
  | peerMessages =>
      cases event with
      | opened => rfl
      | closed => rfl
      | message text =>
          simp only [channelHeard]
          split
          · exact eachUntilCrash_preserves
              (motive := fun current => current.besidesReports = parts.besidesReports)
              (fun current item _ same => (besidesReports_raiseFromPeer current item).trans same)
              rfl
          · rfl
  | note => rfl

@[simp] theorem besidesReports_channelEmits (parts : Parts) (id : ChannelId)
    (event : ChannelEvent) :
    (parts.channelEmits id event).besidesReports = parts.besidesReports := by
  unfold channelEmits
  split
  · rfl
  · exact eachUntilCrash_preserves
      (motive := fun current => current.besidesReports = parts.besidesReports)
      (fun current role _ same => (besidesReports_channelHeard current id event role).trans same)
      rfl

/-! ## Channels -/

@[simp] theorem besidesChannels_modifyChannel (parts : Parts) (id : ChannelId)
    (change : DataChannel → DataChannel) :
    (parts.modifyChannel id change).besidesChannels = parts.besidesChannels := rfl

@[simp] theorem besidesChannels_channelEmits (parts : Parts) (id : ChannelId)
    (event : ChannelEvent) :
    (parts.channelEmits id event).besidesChannels = parts.besidesChannels :=
  besidesChannels_congr (besidesReports_channelEmits parts id event)

@[simp] theorem besidesChannels_raiseFromPeer (parts : Parts) (item : WorkItem) :
    (parts.raiseFromPeer item).besidesChannels = parts.besidesChannels :=
  besidesChannels_congr (besidesReports_raiseFromPeer parts item)

@[simp] theorem besidesChannels_closeChannel (parts : Parts) (id : ChannelId) :
    (parts.closeChannel id).besidesChannels = parts.besidesChannels := by
  unfold closeChannel
  split
  · rfl
  · split
    · rfl
    · rw [besidesChannels_channelEmits, besidesChannels_modifyChannel]

@[simp] theorem besidesChannels_sendToPeer (parts : Parts) (text : String) :
    (parts.sendToPeer text).besidesChannels = parts.besidesChannels := by
  unfold sendToPeer
  split
  · rfl
  · rw [besidesChannels_modifyChannel]

@[simp] theorem besidesChannels_sendState (parts : Parts) (requestState : Bool) :
    (parts.sendState requestState).besidesChannels = parts.besidesChannels :=
  besidesChannels_sendToPeer ..

@[simp] theorem besidesChannels_sendEvent (parts : Parts) (event : ToggleEvent) :
    (parts.sendEvent event).besidesChannels = parts.besidesChannels :=
  besidesChannels_sendToPeer ..

@[simp] theorem besidesChannels_useChannel (parts : Parts) (id : ChannelId) :
    (parts.useChannel id).besidesChannels = parts.besidesChannels := by
  unfold useChannel
  split <;> rfl

@[simp] theorem besidesChannels_openChannel (parts : Parts) (connection : PeerConnection) :
    (parts.openChannel connection).besidesChannels = parts.besidesChannels := by
  unfold openChannel
  split
  · rfl
  · rw [besidesChannels_useChannel]
    rfl

/-- What is the same when one listener is taken off a channel is the same when several
are. -/
theorem unregister_eq {View : Type} (view : Parts → View)
    (removed : ∀ (current : Parts) (id : ChannelId) (listener : Nat),
      view (current.modifyChannel id (·.removeListener listener)) = view current)
    (parts : Parts) (registrations : List ChannelRegistration) :
    view (parts.unregister registrations) = view parts := by
  unfold unregister
  induction registrations generalizing parts with
  | nil => rfl
  | cons registration rest ih =>
      rw [List.foldl_cons]
      exact (ih _).trans (removed parts registration.channel registration.listener)

@[simp] theorem besidesChannels_unregister (parts : Parts)
    (registrations : List ChannelRegistration) :
    (parts.unregister registrations).besidesChannels = parts.besidesChannels :=
  unregister_eq besidesChannels (fun _ _ _ => besidesChannels_modifyChannel ..) parts registrations

@[simp] theorem besidesChannels_releaseChannel (parts : Parts) :
    parts.releaseChannel.besidesChannels = parts.besidesChannels := by
  unfold releaseChannel
  split
  · rfl
  · rw [besidesChannels_closeChannel, besidesChannels_unregister]
    rfl

@[simp] theorem besidesChannels_settlePending (parts : Parts) (id : ChannelId) :
    (parts.settlePending id).besidesChannels = parts.besidesChannels :=
  besidesChannels_unregister parts _

@[simp] theorem besidesChannels_adoptChannel (parts : Parts) (id : ChannelId) :
    (parts.adoptChannel id).besidesChannels = parts.besidesChannels := by
  unfold adoptChannel
  dsimp only
  split
  · rw [besidesChannels_settlePending]
  · rw [besidesChannels_useChannel, besidesChannels_releaseChannel, besidesChannels_settlePending]

@[simp] theorem besidesChannels_channelAnnounced (parts : Parts) (id : ChannelId) :
    (parts.channelAnnounced id).besidesChannels = parts.besidesChannels := by
  unfold channelAnnounced
  split
  · rfl
  · split
    · rw [besidesChannels_raiseFromPeer]
    · rfl

@[simp] theorem besidesChannels_openChannelNow (parts : Parts) (id : ChannelId) :
    (parts.openChannelNow id).besidesChannels = parts.besidesChannels := by
  unfold openChannelNow
  rw [besidesChannels_channelEmits, besidesChannels_modifyChannel]

/-! ## The link to the peer -/

@[simp] theorem besidesPeer_raiseFromPeer (parts : Parts) (item : WorkItem) :
    (parts.raiseFromPeer item).besidesPeer = parts.besidesPeer :=
  besidesPeer_congr (besidesChannels_raiseFromPeer parts item)

/-- What is the same when an item is raised, a channel is announced, and the link knows
another path or other remote tracks is the same when the link hears of any event. -/
theorem peerHeard_eq {View : Type} (view : Parts → View)
    (raised : ∀ (current : Parts) (item : WorkItem),
      view (current.raiseFromPeer item) = view current)
    (announced : ∀ (current : Parts) (id : ChannelId),
      view (current.channelAnnounced id) = view current)
    (known : ∀ (current : Parts) (connected : Bool) (remoteStream : MediaStream),
      view { current with peer := { current.peer with connected, remoteStream } } = view current)
    (parts : Parts) (event : ConnectionEvent) : view (parts.peerHeard event) = view parts := by
  cases event with
  | negotiationNeeded => exact raised ..
  | iceCandidate candidate =>
      cases candidate with
      | none => rfl
      | some candidate => exact raised ..
  | track track => exact (raised ..).trans (known parts _ _)
  | iceState state =>
      simp only [peerHeard, pathChanged]
      split
      · exact (raised ..).trans (known parts _ _)
      · exact known parts _ _
  | dataChannel id => exact announced parts id

/-- What is the same when the peer connection of an event changes and when its listeners hear
of it is the same when it is emitted. -/
theorem connectionEmits_eq {View : Type} (view : Parts → View) {id : ConnectionId}
    {event : ConnectionEvent}
    (changed : ∀ current : Parts,
      view (current.modifyConnection id (·.after event)) = view current)
    (heard : ∀ current : Parts, view (current.peerHeard event) = view current)
    (noted : ∀ current : Parts,
      view (current.note (.connection event.kind)) = view current)
    (parts : Parts) : view (parts.connectionEmits id event) = view parts := by
  unfold connectionEmits
  split
  · rfl
  · refine eachUntilCrash_preserves (motive := fun current => view current = view parts) ?_
      (changed parts)
    intro current audience _ same
    cases audience with
    | link => exact (heard current).trans same
    | note => exact (noted current).trans same

@[simp] theorem besidesPeer_peerHeard (parts : Parts) (event : ConnectionEvent) :
    (parts.peerHeard event).besidesPeer = parts.besidesPeer :=
  peerHeard_eq besidesPeer besidesPeer_raiseFromPeer
    (fun current id => besidesPeer_congr (besidesChannels_channelAnnounced current id))
    (fun _ _ _ => rfl) parts event

@[simp] theorem besidesPeer_connectionEmits (parts : Parts) (id : ConnectionId)
    (event : ConnectionEvent) :
    (parts.connectionEmits id event).besidesPeer = parts.besidesPeer :=
  connectionEmits_eq besidesPeer (fun _ => rfl) (besidesPeer_peerHeard · event) (fun _ => rfl)
    parts

/-! ## Items -/

@[simp] theorem besidesNegotiation_raiseFromPeer (parts : Parts) (item : WorkItem) :
    (parts.raiseFromPeer item).besidesNegotiation = parts.besidesNegotiation :=
  besidesNegotiation_congr (besidesChannels_raiseFromPeer parts item)

@[simp] theorem besidesNegotiation_addLocalTracks (parts : Parts) (id : ConnectionId) :
    (parts.addLocalTracks id).besidesNegotiation = parts.besidesNegotiation := by
  unfold addLocalTracks
  split <;> rfl

@[simp] theorem besidesNegotiation_applyItem (parts : Parts) (id : ConnectionId)
    (connection : PeerConnection) (item : PeerItem) :
    (parts.applyItem id connection item).besidesNegotiation = parts.besidesNegotiation := by
  cases item with
  | userJoined =>
      simp only [applyItem]
      rw [besidesNegotiation_addLocalTracks]
      exact besidesNegotiation_congr (besidesChannels_openChannel parts connection)
  | webrtcOffer offer =>
      simp only [applyItem]
      split
      · rw [besidesNegotiation_addLocalTracks]
      · split
        · rw [besidesNegotiation_addLocalTracks]
        · rw [besidesNegotiation_raiseFromPeer]
          exact besidesNegotiation_addLocalTracks parts id
  | webrtcAcceptance answer =>
      simp only [applyItem]
      split <;> rfl
  | webrtcCandidate candidate =>
      simp only [applyItem]
      split <;> rfl
  | dataChannel channel =>
      refine besidesNegotiation_congr ?_
      simp only [applyItem, besidesChannels_sendState, besidesChannels_adoptChannel]
  | sendInitialState => exact besidesNegotiation_congr (besidesChannels_sendState parts false)
  | negotiationNeeded =>
      simp only [applyItem]
      split
      · rfl
      · rw [besidesNegotiation_raiseFromPeer]
        rfl

@[simp] theorem besidesNegotiation_processItem (parts : Parts) (item : PeerItem) :
    (parts.processItem item).2.besidesNegotiation = parts.besidesNegotiation := by
  unfold processItem
  split
  · rfl
  · exact besidesNegotiation_applyItem ..

@[simp] theorem besidesPeer_processItem (parts : Parts) (item : PeerItem) :
    (parts.processItem item).2.besidesPeer = parts.besidesPeer :=
  besidesPeer_of_negotiation (besidesNegotiation_processItem parts item)

/-! ## Setting up -/

/-- The parts with a new peer connection that the link to the peer listens to. -/
def attach (parts : Parts) (configuration : IceConfiguration) : Parts :=
  let id := parts.platform.connections.length
  let platform : Platform := { parts.platform with
    connections := parts.platform.connections ++ [.make configuration] }
  { parts with
    platform := platform.modifyConnection id fun connection =>
      linkKinds.foldl (fun current kind => current.addListener kind .link) connection
    peer := { parts.peer with
      connection := some id
      registrations := (List.range linkKinds.length).map (· + 1)
      sendsLocalMedia := true } }

/-- Setting up fails or changes nothing, or a new peer connection is attached. -/
theorem initPeer_cases (parts : Parts) :
    (∃ result, parts.initPeer = (result, parts) ∧
        (result = .ok () → ∃ id, parts.peer.connection = some id)) ∨
      ∃ configuration, parts.peer.connection = none ∧
        parts.initPeer = (.ok (), parts.attach configuration) := by
  unfold initPeer
  split
  · rename_i present
    exact Or.inl ⟨.ok (), rfl, fun _ => Option.isSome_iff_exists.mp present⟩
  · rename_i absent
    split
    · exact Or.inl ⟨_, rfl, nofun⟩
    · rename_i configuration _
      split
      · exact Or.inl ⟨_, rfl, nofun⟩
      · rename_i created
        unfold Platform.createConnection at created
        split at created
        · cases created
        · cases created
          exact Or.inr ⟨configuration, Option.not_isSome_iff_eq_none.mp absent, rfl⟩

/-- What does not depend on peer connections and on who listens to them is the same after
setting up. -/
theorem initPeer_eq {View : Type} (view : Parts → View) {parts : Parts}
    (attached : ∀ configuration, view (parts.attach configuration) = view parts) :
    view parts.initPeer.2 = view parts := by
  rcases parts.initPeer_cases with ⟨_, same, _⟩ | ⟨configuration, _, same⟩
  · rw [same]
  · rw [same]
    exact attached configuration

@[simp] theorem besidesPeer_initPeer (parts : Parts) :
    parts.initPeer.2.besidesPeer = parts.besidesPeer :=
  initPeer_eq besidesPeer fun _ => rfl

/-! ## The stages of cleaning up -/

/-- The parts with the gate of the link to the peer shut. -/
def shutGate (parts : Parts) : Parts :=
  { parts with peer := { parts.peer with gate := parts.peer.gate.close } }

/-- The link no longer listening to a peer connection. -/
def unlisten (parts : Parts) (id : ConnectionId) : Parts :=
  parts.modifyConnection id fun connection =>
    parts.peer.registrations.foldl PeerConnection.removeListener connection

/-- The link no longer waiting for a channel to open. -/
def dropPending (parts : Parts) : Parts :=
  let unlistened := parts.unregister parts.peer.pending
  { unlistened with peer := { unlistened.peer with pending := [] } }

/-- The link without its peer connection, which is closed. -/
def dropConnection (parts : Parts) (id : ConnectionId) : Parts :=
  let closed := parts.modifyConnection id PeerConnection.close
  { closed with
    peer := { closed.peer with
      connection := none
      registrations := []
      held := []
      connected := false } }

/-- Without a peer connection cleaning up only shuts the gate. -/
theorem cleanUpPeer_of_none {parts : Parts} (absent : parts.peer.connection = none) :
    parts.cleanUpPeer = parts.shutGate := by
  unfold cleanUpPeer
  dsimp only
  split
  · rfl
  · rename_i id present
    rw [absent] at present
    cases present

/-- A link with a peer connection is cleaned up in steps: it shuts its gate, takes its listeners
off, waits for no channel, lets go of the one in use and closes the connection. -/
theorem cleanUpPeer_of_some {parts : Parts} {id : ConnectionId}
    (present : parts.peer.connection = some id) :
    parts.cleanUpPeer =
      ((parts.shutGate.unlisten id).dropPending.releaseChannel).dropConnection id := by
  unfold cleanUpPeer
  dsimp only
  split
  · rename_i absent
    rw [present] at absent
    cases absent
  · rename_i found same
    rw [present] at same
    cases same
    rfl

@[simp] theorem besidesChannels_dropPending (parts : Parts) :
    parts.dropPending.besidesChannels = parts.besidesChannels :=
  besidesChannels_unregister parts _

@[simp] theorem besidesPeer_cleanUpPeer (parts : Parts) :
    parts.cleanUpPeer.besidesPeer = parts.besidesPeer := by
  cases present : parts.peer.connection with
  | none =>
      rw [cleanUpPeer_of_none present]
      rfl
  | some id =>
      rw [cleanUpPeer_of_some present]
      calc ((parts.shutGate.unlisten id).dropPending.releaseChannel.dropConnection id).besidesPeer
          = (parts.shutGate.unlisten id).dropPending.releaseChannel.besidesPeer := rfl
        _ = (parts.shutGate.unlisten id).besidesPeer := by
          apply besidesPeer_congr
          rw [besidesChannels_releaseChannel, besidesChannels_dropPending]
        _ = parts.besidesPeer := rfl

/-! ## The link to the relay -/

@[simp] theorem besidesRelay_raiseFromRelay (parts : Parts) (item : WorkItem) :
    (parts.raiseFromRelay item).besidesRelay = parts.besidesRelay :=
  besidesRelay_congr (besidesReports_raiseFromRelay parts item)

@[simp] theorem besidesRelay_sendOnSocket (parts : Parts) (socket : HeldSocket) (text : String) :
    (parts.sendOnSocket socket text).besidesRelay = parts.besidesRelay := by
  unfold sendOnSocket
  split <;> rfl

@[simp] theorem besidesRelay_relayHeard (parts : Parts) (socket : HeldSocket)
    (event : SocketEvent) :
    (parts.relayHeard socket event).besidesRelay = parts.besidesRelay := by
  cases event with
  | opened =>
      simp only [relayHeard, relayOpened, fetchToken, greet]
      split
      · rw [besidesRelay_sendOnSocket]
        rfl
      · rfl
      · rfl
  | message text =>
      simp only [relayHeard, relayDelivered]
      split
      · rw [besidesRelay_raiseFromRelay]
        rfl
      · rfl
  | closed code reason => exact besidesRelay_raiseFromRelay ..
  | error text => rfl

@[simp] theorem besidesRelay_sendSignal (parts : Parts) (signal : Signal) :
    (parts.sendSignal signal).besidesRelay = parts.besidesRelay :=
  besidesRelay_sendOnSocket ..

@[simp] theorem besidesRelay_cleanUpRelay (parts : Parts) :
    parts.cleanUpRelay.besidesRelay = parts.besidesRelay := by
  unfold cleanUpRelay
  dsimp only
  split <;> rfl

@[simp] theorem besidesRelay_socketEmits (parts : Parts) (id : SocketId) (event : SocketEvent) :
    (parts.socketEmits id event).besidesRelay = parts.besidesRelay := by
  unfold socketEmits
  split
  · rfl
  · dsimp only
    split
    · rfl
    · rename_i observer _
      cases observer with
      | link => exact besidesRelay_relayHeard ..
      | note => rfl

/-! ## What happens on the platform -/

/-- What does not depend on the relay's side and is the same after every event of a peer
connection or a channel is the same whatever happens on the platform. -/
theorem undergo_eq {View : Type} (view : Parts → View)
    (relayed : ∀ {before after : Parts}, after.besidesRelay = before.besidesRelay →
      view after = view before)
    (connection : ∀ (current : Parts) (id : ConnectionId) (event : ConnectionEvent),
      view (current.connectionEmits id event) = view current)
    (opened : ∀ (current : Parts) (id : ChannelId), view (current.openChannelNow id) = view current)
    (message : ∀ (current : Parts) (id : ChannelId) (text : String),
      view (current.channelEmits id (.message text)) = view current)
    (closed : ∀ (current : Parts) (id : ChannelId), view (current.closeChannel id) = view current)
    (parts : Parts) (occurrence : Occurrence) :
    view (parts.undergo occurrence) = view parts := by
  rcases undergo_cases parts occurrence with same | same
  · rw [same]
  · rw [same, relayed (besidesRelay_congr (besidesReports_recover (parts.occur occurrence)))]
    cases occurrence with
    | socket socket event => exact relayed (besidesRelay_socketEmits ..)
    | unheeding event => exact relayed (besidesRelay_relayHeard ..)
    | connection id event => exact connection parts id event
    | channelOpened id => exact opened parts id
    | channelMessage id text => exact message parts id text
    | channelClosed id => exact closed parts id

end CallControl.Parts
