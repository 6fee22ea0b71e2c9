import CallControl.Proofs.Accounts
import CallControl.Proofs.Shown
import CallControl.Proofs.Silence

/-! # Cleaning up a link

Whatever happened to a link before, its listeners are accounted for
(`Parts.accounted_linkRun`). So cleaning up takes all of them off, closes the peer
connection and the channel in use, and leaves the link at rest. The gate that is shut
first stays shut, even if the link is set up again and even if the platform goes on
invoking listeners that were taken off (`Parts.cleanUp_detaches_and_silences`).
-/

namespace CallControl

/-- What can happen to a link on a platform that goes on invoking its listeners whether
or not they were taken off. -/
inductive LooseMove where
  | move (move : LinkMove)
  | connectionListener (event : ConnectionEvent)
  | channelListener (channel : ChannelId) (event : ChannelEvent) (role : ChannelRole)
  deriving Repr

namespace Parts

/-- The parts after a move on a platform that invokes listeners as it likes. -/
def looseMove (parts : Parts) : LooseMove → Parts
  | .move move => parts.linkMove move
  | .connectionListener event => (parts.peerHeard event).recover
  | .channelListener id event role => (parts.channelHeard id event role).recover

/-- The parts after some moves on a platform that invokes listeners as it likes. -/
def looseRun (parts : Parts) (moves : List LooseMove) : Parts :=
  moves.foldl looseMove parts

private theorem looseRun_preserves {motive : Parts → Prop} {parts : Parts} {moves : List LooseMove}
    (kept : ∀ current, ∀ move ∈ moves, motive current → motive (current.looseMove move))
    (holds : motive parts) : motive (parts.looseRun moves) := by
  induction moves generalizing parts with
  | nil => exact holds
  | cons move rest ih =>
      exact ih (fun current later member => kept current later (List.mem_cons_of_mem _ member))
        (kept parts move List.mem_cons_self holds)

/-! ## Every history of a link is accounted for -/

namespace Accounted

variable {parts : Parts}

/-- A link that was never set up has nothing to account for. -/
theorem bareLink (localStream : MediaStream) (tokens : TokenScript)
    (iceConfiguration : Except Failure IceConfiguration) (label : String) :
    (Parts.bareLink localStream tokens iceConfiguration label).Accounted where
  channels := {
    carried := fun _ _ found => nomatch found
    pendingPresent := fun _ member => nomatch member
    adoptedPresent := fun _ member => nomatch member }
  connections := {
    attached := fun _ _ found => nomatch found
    spent := fun _ _ found => nomatch found
    present := fun _ used => nomatch used }
  resting := fun _ => ⟨rfl, rfl, rfl, rfl, rfl⟩

/-- Setting up registers on the new peer connection just what the link remembers. -/
theorem initPeer (accounted : parts.Accounted) : parts.initPeer.2.Accounted := by
  rcases parts.initPeer_cases with ⟨_, same, _⟩ | ⟨configuration, absent, same⟩
  · rw [same]
    exact accounted
  · rw [same]
    have unused : ConnectionsAccounted parts.platform.connections none
        parts.peer.registrations := absent ▸ accounted.connections
    have used := unused.create (linkKinds.foldl
      (fun current kind => current.addListener kind .link) (.make configuration))
    refine ⟨accounted.channels, ?_, fun without => nomatch without⟩
    simp only [attach, Platform.modifyConnection]
    rw [modify_concat]
    exact used

end Accounted

/-- A link that was cleaned up has no peer connection. -/
theorem connection_cleanUpPeer (parts : Parts) : parts.cleanUpPeer.peer.connection = none := by
  cases present : parts.peer.connection with
  | none => rw [cleanUpPeer_of_none present]; exact present
  | some id => rw [cleanUpPeer_of_some present]; rfl

/-- The peer connection in use is closed when no listener of the link is left on it. -/
theorem connections_cleanUpPeer {parts : Parts} {id : ConnectionId}
    (present : parts.peer.connection = some id) :
    parts.cleanUpPeer.platform.connections =
      parts.platform.connections.modify id fun connection =>
        (parts.peer.registrations.foldl PeerConnection.removeListener connection).close := by
  let unlistened := parts.shutGate.unlisten id
  have same : unlistened.dropPending.releaseChannel.besidesChannels =
      unlistened.besidesChannels :=
    (besidesChannels_releaseChannel _).trans (besidesChannels_dropPending _)
  calc parts.cleanUpPeer.platform.connections
      = unlistened.dropPending.releaseChannel.platform.connections.modify id
          PeerConnection.close := by rw [cleanUpPeer_of_some present]; rfl
    _ = unlistened.platform.connections.modify id PeerConnection.close := by
      rw [connections_of_channels same]
    _ = _ := List.modify_modify_eq ..

namespace Accounted

variable {parts : Parts}

/-- Cleaning up leaves a link at rest. -/
theorem atRest_cleanUpPeer (accounted : parts.Accounted) : parts.cleanUpPeer.peer.AtRest := by
  cases present : parts.peer.connection with
  | none =>
      rw [cleanUpPeer_of_none present]
      exact accounted.resting present
  | some id =>
      rw [cleanUpPeer_of_some present]
      exact ⟨rfl, rfl, adopted_releaseChannel _, pending_releaseChannel _, rfl⟩

/-- Cleaning up gives up everything that is remembered. -/
theorem cleanUpPeer (accounted : parts.Accounted) : parts.cleanUpPeer.Accounted where
  channels := by
    cases present : parts.peer.connection with
    | none =>
        rw [cleanUpPeer_of_none present]
        exact accounted.channels
    | some id =>
        rw [cleanUpPeer_of_some present]
        have kept : (parts.shutGate.unlisten id).ChannelsKept := accounted.channels
        exact kept.dropPending.releaseChannel
  connections := by
    rw [connection_cleanUpPeer, accounted.atRest_cleanUpPeer.1]
    cases present : parts.peer.connection with
    | none =>
        have unused := accounted.connections
        rw [present, (accounted.resting present).1] at unused
        rw [cleanUpPeer_of_none present]
        exact unused
    | some id =>
        have used : ConnectionsAccounted parts.platform.connections (some id)
            parts.peer.registrations := present ▸ accounted.connections
        rw [connections_cleanUpPeer present]
        refine used.release ?_ fun _ => rfl
        rintro connection same
        rw [← same]
        exact connection.registered_foldl_self
  resting := fun _ => accounted.atRest_cleanUpPeer

/-- The channel in use is closed by cleaning up. -/
theorem channelClosed_cleanUpPeer (accounted : parts.Accounted)
    {registration : ChannelRegistration} (used : parts.peer.adopted = some registration) :
    parts.cleanUpPeer.ChannelClosed registration.channel := by
  cases present : parts.peer.connection with
  | none =>
      obtain ⟨_, _, unused, _⟩ := accounted.resting present
      rw [unused] at used
      cases used
  | some id =>
      rw [cleanUpPeer_of_some present]
      have kept : (parts.shutGate.unlisten id).ChannelsKept := accounted.channels
      have still : (parts.shutGate.unlisten id).dropPending.peer.adopted = some registration := by
        change ((parts.shutGate.unlisten id).unregister _).peer.adopted = some registration
        rw [peer_unregister]
        exact used
      exact kept.dropPending.channelClosed_releaseChannel still

/-- A change that nobody is told of does not unsettle the accounts of a link. -/
theorem adjust (accounted : parts.Accounted) (adjustment : Adjustment) :
    (parts.adjust adjustment).Accounted := by
  obtain ⟨channels, connections, resting⟩ := accounted
  have modified (id : ConnectionId) {change : PeerConnection → PeerConnection}
      (kept : ∀ connection : PeerConnection, (change connection).registered =
        connection.registered ∧ (change connection).closed = connection.closed) :
      (parts.modifyConnection id change).Accounted :=
    ⟨channels, connections.modify id fun connection _ => kept connection, resting⟩
  cases adjustment with
  | newChannel label => exact ⟨channels.add _ _, connections, resting⟩
  | channelFails id fails =>
      exact ⟨ChannelsKept.modifyChannel channels id fun _ => ⟨rfl, rfl⟩, connections, resting⟩
  | overhearChannel id =>
      refine ⟨channels.modify id ?_ (fun _ _ => ⟨rfl, rfl⟩) channels.pendingPresent
        channels.adoptedPresent, connections, resting⟩
      exact fun channel _ carries => carries.overhear
  | refuseRemote id refuses => exact modified id fun _ => ⟨rfl, rfl⟩
  | refuseTracks id refuses => exact modified id fun _ => ⟨rfl, rfl⟩
  | refuseCandidates id refuses => exact modified id fun _ => ⟨rfl, rfl⟩
  | overhearConnection id kind =>
      exact modified id fun connection =>
        ⟨connection.registered_addListener_note kind, rfl⟩
  | socketFails id fails => exact ⟨channels, connections, resting⟩
  | refuseSockets refuses => exact ⟨channels, connections, resting⟩
  | refuseConnections refuses => exact ⟨channels, connections, resting⟩
  | trap traps => exact ⟨channels, connections, resting⟩
  | changeMedia localStream => exact ⟨channels, connections, resting⟩
  | switchRemote kind enabled => exact ⟨channels, connections, resting⟩
  | switchRemoteTrack id enabled => exact ⟨channels, connections, resting⟩

private theorem occur (accounted : parts.Accounted) (occurrence : Occurrence) :
    (parts.occur occurrence).Accounted := by
  cases occurrence with
  | socket id event => exact accounted.of_relay (besidesRelay_socketEmits parts id event)
  | unheeding event => exact accounted.of_relay (besidesRelay_relayHeard parts _ event)
  | connection id event => exact accounted.connectionEmits id event
  | channelOpened id => exact accounted.openChannelNow id
  | channelMessage id text => exact accounted.congr (besidesReports_channelEmits parts id _)
  | channelClosed id => exact accounted.closeChannel id

/-- No event unsettles the accounts of a link. -/
theorem undergo (accounted : parts.Accounted) (occurrence : Occurrence) :
    (parts.undergo occurrence).Accounted := by
  rcases undergo_cases parts occurrence with same | same
  · rw [same]
    exact accounted
  · rw [same]
    exact (accounted.occur occurrence).congr (besidesReports_recover _)

private theorem linkMove (accounted : parts.Accounted) (move : LinkMove) :
    (parts.linkMove move).Accounted := by
  cases move with
  | initialise => exact accounted.initPeer.congr (besidesReports_recover _)
  | item item => exact (accounted.processItem item).congr (besidesReports_recover _)
  | sendState requestState => exact accounted.sendToPeer _
  | sendEvent event => exact accounted.sendToPeer _
  | cleanUp => exact accounted.cleanUpPeer.congr (besidesReports_recover _)
  | event occurrence => exact accounted.undergo occurrence
  | adjust adjustment => exact accounted.adjust adjustment

end Accounted

/-- A link that was never set up stays accounted for whatever happens to it. -/
theorem accounted_linkRun (localStream : MediaStream) (tokens : TokenScript)
    (iceConfiguration : Except Failure IceConfiguration) (label : String)
    (history : List LinkMove) :
    ((bareLink localStream tokens iceConfiguration label).linkRun history).Accounted :=
  linkRun_preserves (fun _ move _ accounted => accounted.linkMove move)
    (.bareLink localStream tokens iceConfiguration label)

/-! ## What cleaning up leaves -/

/-- Every peer connection is closed, and no listener of the link is left on one of them
or on a channel: whoever still listens only writes things down. -/
structure Detached (parts : Parts) : Prop where
  connectionsClosed : ∀ connection ∈ parts.platform.connections, connection.closed = true
  connectionListeners : ∀ connection ∈ parts.platform.connections,
    ∀ listener ∈ connection.listeners, listener.audience = .note
  channelListeners : ∀ channel ∈ parts.platform.channels,
    ∀ listener ∈ channel.listeners, listener.role = .note

/-- A link that gave up its peer connection has nothing left on the platform. -/
theorem Accounted.detached {parts : Parts} (accounted : parts.Accounted)
    (absent : parts.peer.connection = none) : parts.Detached := by
  obtain ⟨_, _, unused, unawaited, _⟩ := accounted.resting absent
  refine ⟨?_, ?_, ?_⟩
  · intro connection member
    obtain ⟨id, found⟩ := List.mem_iff_getElem?.mp member
    refine accounted.connections.spent id connection found ?_
    rw [absent]
    exact (Option.some_ne_none id).symm
  · intro connection member
    obtain ⟨id, found⟩ := List.mem_iff_getElem?.mp member
    have empty := accounted.connections.attached id connection found
    rw [absent, if_neg (Option.some_ne_none id).symm] at empty
    intro listener inside
    refine PeerConnection.audience_of_registered_nil empty listener.kind listener.audience ?_
    exact List.mem_map_of_mem (List.mem_filter.mpr ⟨inside, beq_self_eq_true listener.kind⟩)
  · intro channel member
    obtain ⟨id, found⟩ := List.mem_iff_getElem?.mp member
    have carries := accounted.channels.carried id channel found
    rw [unused, unawaited] at carries
    exact carries.onlyNotes

private theorem shutGate_shutGate (parts : Parts) : parts.shutGate.shutGate = parts.shutGate := by
  unfold shutGate
  cases parts.peer.gate <;> rfl

/-- Cleaning up begins by shutting the gate. -/
theorem cleanUpPeer_shutGate (parts : Parts) :
    parts.shutGate.cleanUpPeer = parts.cleanUpPeer := by
  have kept : parts.shutGate.peer.connection = parts.peer.connection := rfl
  cases present : parts.peer.connection with
  | none =>
      rw [cleanUpPeer_of_none present, cleanUpPeer_of_none (kept.trans present),
        shutGate_shutGate]
  | some id =>
      rw [cleanUpPeer_of_some present, cleanUpPeer_of_some (kept.trans present),
        shutGate_shutGate]

private theorem hushed_shutGate {parts : Parts} (muted : parts.relay.muted = true) :
    parts.shutGate.Hushed := by
  refine ⟨?_, muted⟩
  change parts.peer.gate.close ≠ .passing
  cases parts.peer.gate <;> exact nofun

/-- Nothing is raised by cleaning up, which shuts the gate for good. -/
theorem outlets_cleanUpPeer {parts : Parts} (muted : parts.relay.muted = true) :
    parts.cleanUpPeer.outlets = parts.shutGate.outlets := by
  rw [← cleanUpPeer_shutGate]
  exact (hushed_shutGate muted).outlets_cleanUpPeer

/-- A link that is cleaned up behind a muted relay raises nothing any more. -/
theorem hushed_cleanUpPeer {parts : Parts} (muted : parts.relay.muted = true) :
    parts.cleanUpPeer.Hushed :=
  (hushed_shutGate muted).congr (outlets_cleanUpPeer muted)

/-! ## Until the link is set up again -/

/-- Nothing that happens on the platform gives a link a peer connection or takes it. -/
theorem connection_occur (parts : Parts) (occurrence : Occurrence) :
    (parts.occur occurrence).peer.connection = parts.peer.connection := by
  have relayed {after : Parts} (same : after.besidesRelay = parts.besidesRelay) :
      after.peer.connection = parts.peer.connection :=
    (congrArg (fun rest : Parts => rest.peer.connection) same :)
  cases occurrence with
  | socket id event => exact relayed (besidesRelay_socketEmits parts id event)
  | unheeding event => exact relayed (besidesRelay_relayHeard parts _ event)
  | connection id event =>
      simp only [occur, connectionEmits]
      split
      · rfl
      · refine eachUntilCrash_preserves
          (motive := fun current => current.peer.connection = parts.peer.connection) ?_ rfl
        intro current audience _ same
        cases audience with
        | link => exact (connection_peerHeard current event).trans same
        | note => exact same
  | channelOpened id => exact connection_of_channels (besidesChannels_openChannelNow parts id)
  | channelMessage id text =>
      exact connection_of_channels (besidesChannels_channelEmits parts id _)
  | channelClosed id => exact connection_of_channels (besidesChannels_closeChannel parts id)

/-- No event gives a link another peer connection. -/
theorem connection_undergo (parts : Parts) (occurrence : Occurrence) :
    (parts.undergo occurrence).peer.connection = parts.peer.connection := by
  rcases undergo_cases parts occurrence with same | same
  · rw [same]
  · rw [same]
    exact connection_occur parts occurrence

/-- Without a peer connection an item is refused and has no effect. -/
theorem processItem_of_none {parts : Parts} (absent : parts.peer.connection = none)
    (item : PeerItem) :
    parts.processItem item = (.error (.call (.notInitialized item.name)), parts) := by
  unfold processItem peerConnection?
  rw [absent]
  rfl

/-- Only setting a link up gives it a peer connection. -/
theorem connection_linkMove {parts : Parts} (absent : parts.peer.connection = none)
    {move : LinkMove} (other : move ≠ .initialise) :
    (parts.linkMove move).peer.connection = none := by
  cases move with
  | initialise => exact (other rfl).elim
  | item item =>
      simp only [linkMove]
      rw [processItem_of_none absent]
      exact absent
  | sendState requestState =>
      exact (connection_of_channels (besidesChannels_sendState parts requestState)).trans absent
  | sendEvent event =>
      exact (connection_of_channels (besidesChannels_sendEvent parts event)).trans absent
  | cleanUp => exact connection_cleanUpPeer parts
  | event occurrence => exact (connection_undergo parts occurrence).trans absent
  | adjust adjustment => exact absent

private theorem connection_looseMove {parts : Parts} (absent : parts.peer.connection = none)
    {move : LooseMove} (other : move ≠ .move .initialise) :
    (parts.looseMove move).peer.connection = none := by
  cases move with
  | move move => exact connection_linkMove absent fun same => other (congrArg LooseMove.move same)
  | connectionListener event => exact (connection_peerHeard parts event).trans absent
  | channelListener id event role =>
      refine (connection_of_channels (besidesChannels_congr ?_)).trans absent
      exact besidesReports_channelHeard parts id event role

/-! ## For good -/

/-- A listener that is invoked although it was taken off raises nothing either. -/
theorem Hushed.outlets_looseMove {parts : Parts} (hushed : parts.Hushed) (move : LooseMove) :
    (parts.looseMove move).outlets = parts.outlets := by
  cases move with
  | move move => exact hushed.outlets_linkMove move
  | connectionListener event => exact hushed.outlets_peerHeard event
  | channelListener id event role => exact hushed.outlets_channelHeard id event role

private theorem Hushed.outlets_looseRun {parts : Parts} (hushed : parts.Hushed)
    (moves : List LooseMove) : (parts.looseRun moves).outlets = parts.outlets := by
  refine looseRun_preserves (motive := fun current => current.outlets = parts.outlets) ?_ rfl
  intro current move _ same
  exact ((hushed.congr same).outlets_looseMove move).trans same

private theorem muted_relayHeard (parts : Parts) (socket : HeldSocket) (event : SocketEvent) :
    (parts.relayHeard socket event).relay.muted = parts.relay.muted := by
  have raised (current : Parts) (item : WorkItem) :
      (current.raiseFromRelay item).relay = current.relay := by
    unfold raiseFromRelay
    split <;> rfl
  cases event with
  | opened =>
      simp only [relayHeard, relayOpened, fetchToken, greet]
      split
      · unfold sendOnSocket
        split <;> rfl
      · rfl
      · rfl
  | message text =>
      simp only [relayHeard, relayDelivered]
      split
      · rw [raised]
      · rfl
  | closed code reason => exact congrArg RelayLink.muted (raised parts _)
  | error text => rfl

/-- No event mutes the link to the relay or makes it heard again. -/
theorem muted_occur (parts : Parts) (occurrence : Occurrence) :
    (parts.occur occurrence).relay.muted = parts.relay.muted := by
  have apart {after : Parts} (same : after.besidesPeer = parts.besidesPeer) :
      after.relay.muted = parts.relay.muted :=
    (congrArg (fun rest : Parts => rest.relay.muted) same :)
  cases occurrence with
  | socket id event =>
      simp only [occur, socketEmits]
      split
      · rfl
      · split
        · rfl
        · rename_i observer _
          cases observer with
          | link => exact muted_relayHeard _ _ event
          | note => rfl
  | unheeding event => exact muted_relayHeard parts _ event
  | connection id event => exact apart (besidesPeer_connectionEmits parts id event)
  | channelOpened id => exact apart (besidesPeer_congr (besidesChannels_openChannelNow parts id))
  | channelMessage id text =>
      exact apart (besidesPeer_congr (besidesChannels_channelEmits parts id _))
  | channelClosed id => exact apart (besidesPeer_congr (besidesChannels_closeChannel parts id))

/-- A link to the peer leaves the link to the relay as muted as it is. -/
theorem muted_linkMove (parts : Parts) (move : LinkMove) :
    (parts.linkMove move).relay.muted = parts.relay.muted := by
  have apart {after : Parts} (same : after.besidesPeer = parts.besidesPeer) :
      after.relay.muted = parts.relay.muted :=
    (congrArg (fun rest : Parts => rest.relay.muted) same :)
  cases move with
  | initialise => exact apart (besidesPeer_initPeer parts)
  | item item => exact apart (besidesPeer_processItem parts item)
  | sendState requestState =>
      exact apart (besidesPeer_congr (besidesChannels_sendState parts requestState))
  | sendEvent event => exact apart (besidesPeer_congr (besidesChannels_sendEvent parts event))
  | cleanUp => exact apart (besidesPeer_cleanUpPeer parts)
  | event occurrence =>
      simp only [linkMove]
      rcases undergo_cases parts occurrence with same | same
      · rw [same]
      · rw [same]
        exact muted_occur parts occurrence
  | adjust adjustment => rfl

/-- Whatever happened to a link before, cleaning it up closes its peer connections and
the channel in use, takes off every listener it ever attached, and leaves nothing held.
Doing so again changes nothing, and items are refused without any effect until the link
is set up again. From then on nothing is raised whatever happens, not even when
listeners are invoked that were taken off or when the link is set up again. -/
theorem cleanUp_detaches_and_silences (localStream : MediaStream) (tokens : TokenScript)
    (iceConfiguration : Except Failure IceConfiguration) (label : String)
    (history : List LinkMove) :
    let before := (bareLink localStream tokens iceConfiguration label).linkRun history
    let cleaned := before.linkMove .cleanUp
    cleaned.Detached ∧
      (∀ registration, before.peer.adopted = some registration →
        cleaned.ChannelClosed registration.channel) ∧
      cleaned.peer.held = [] ∧
      cleaned.peer.connected = false ∧
      cleaned.linkMove .cleanUp = cleaned ∧
      (∀ later : List LooseMove, .move .initialise ∉ later → ∀ item,
        (cleaned.looseRun later).processItem item =
          (.error (.call (.notInitialized item.name)), cleaned.looseRun later)) ∧
      (∀ later : List LooseMove,
        (cleaned.looseRun later).platform.dispatched = before.platform.dispatched) := by
  intro before cleaned
  have accounted : before.Accounted :=
    accounted_linkRun localStream tokens iceConfiguration label history
  have muted : before.relay.muted = true :=
    linkRun_preserves (motive := fun current => current.relay.muted = true)
      (fun current move _ silent => (muted_linkMove current move).trans silent) rfl
  have absent : cleaned.peer.connection = none := connection_cleanUpPeer before
  have hushed : cleaned.Hushed := hushed_cleanUpPeer muted
  obtain ⟨_, held, _, _, connected⟩ := accounted.atRest_cleanUpPeer
  refine ⟨(accounted.linkMove .cleanUp).detached absent, ?_, held, connected, ?_, ?_, ?_⟩
  · intro registration used
    exact accounted.channelClosed_cleanUpPeer used
  · change cleaned.cleanUpPeer.recover = cleaned
    rw [cleanUpPeer_of_none absent, hushed.shutGate_eq]
    rfl
  · intro later without item
    apply processItem_of_none
    refine looseRun_preserves (motive := fun current => current.peer.connection = none) ?_ absent
    intro current move member unconnected
    refine connection_looseMove unconnected ?_
    rintro rfl
    exact without member
  · intro later
    calc (cleaned.looseRun later).platform.dispatched
        = (cleaned.looseRun later).outlets.dispatched := rfl
      _ = before.cleanUpPeer.outlets.dispatched := by rw [hushed.outlets_looseRun]; rfl
      _ = before.shutGate.outlets.dispatched := by rw [outlets_cleanUpPeer muted]
      _ = before.platform.dispatched := rfl

end Parts

end CallControl
