import CallControl.Proofs.Requests
import CallControl.Proofs.Silence

/-! # What is raised

While the gate lets through and the dispatcher does not break off, what is raised can be
told from what happens and from who listens: each listener of a link raises the items
that it is there for, once and in order (`Parts.raises_undergo`). An item makes a link
raise the description that it gives the peer, if it gives one (`Parts.raises_processItem`).
-/

namespace CallControl

/-- What a link to the relay lets through. -/
def RelayLink.lets (link : RelayLink) (items : List WorkItem) : List WorkItem :=
  if link.muted then [] else items

/-- The items that a text on a data channel asks for. -/
def PeerMessage.asks (text : String) : List WorkItem :=
  match PeerMessage.parse? text with
  | some message => message.items
  | none => []

/-- The items that a listener on a channel raises when it is told of an event. -/
def ChannelRole.asks (id : ChannelId) (event : ChannelEvent) : ChannelRole → List WorkItem
  | .awaitOpen =>
      match event with
      | .opened => [.peer (.dataChannel id)]
      | _ => []
  | .peerMessages =>
      match event with
      | .message text => PeerMessage.asks text
      | _ => []
  | .note => []

/-- The items that a link to the relay raises when it is told of an event. -/
def SocketEvent.asks : SocketEvent → List WorkItem
  | .message text => (RelayFrame.decode? text).toList.map .peer
  | .closed _ _ => [.coordinator .closedSignaller]
  | .opened | .error _ => []

/-- The items that a listener on a peer connection raises, if the link to the peer would
raise some items. -/
def ConnectionAudience.asks (items : List WorkItem) : ConnectionAudience → List WorkItem
  | .link => items
  | .note => []

/-- What an item makes a link tell the peer over a peer connection. -/
def PeerConnection.tells (connection : PeerConnection) : PeerItem → List Signal
  | .webrtcOffer _ => if connection.refusesRemote then [] else [.acceptance connection.nextAnswer]
  | .negotiationNeeded => if connection.closed then [] else [.offer connection.nextOffer]
  | _ => []

namespace Parts

/-- The gate lets through, nothing has broken off, and the dispatcher is not about to. -/
structure Calm (parts : Parts) : Prop where
  passing : parts.peer.gate = .passing
  untrapped : parts.platform.trapped = false
  uncrashed : parts.platform.crashed = false

/-- Some items were raised and nothing broke off. -/
structure Raises (before after : Parts) (items : List WorkItem) : Prop where
  dispatched : after.platform.dispatched = before.platform.dispatched ++ items
  calm : after.Calm

namespace Raises

/-- Where nothing changes nothing is raised. -/
theorem refl {parts : Parts} (calm : parts.Calm) : parts.Raises parts [] :=
  ⟨(List.append_nil _).symm, calm⟩

/-- What is raised on the way is raised in order. -/
theorem trans {first second third : Parts} {items more : List WorkItem}
    (earlier : first.Raises second items) (later : second.Raises third more) :
    first.Raises third (items ++ more) where
  dispatched := by rw [later.dispatched, earlier.dispatched, List.append_assoc]
  calm := later.calm

/-- The end of a break raises nothing. -/
theorem recover {before after : Parts} {items : List WorkItem}
    (raises : before.Raises after items) : before.Raises after.recover items :=
  ⟨raises.dispatched, raises.calm.passing, raises.calm.untrapped, rfl⟩

end Raises

/-- What is raised and what may keep more from being raised. -/
structure Voice where
  gate : Gate
  trapped : Bool
  crashed : Bool
  dispatched : List WorkItem

/-- The voice of a call's parts. -/
def voice (parts : Parts) : Voice :=
  ⟨parts.peer.gate, parts.platform.trapped, parts.platform.crashed, parts.platform.dispatched⟩

/-- Whatever leaves the gate and the dispatched items alone raises nothing. -/
theorem raises_of_voice {before after : Parts} (calm : before.Calm)
    (same : after.voice = before.voice) : before.Raises after [] where
  dispatched := by
    rw [List.append_nil]
    exact congrArg Voice.dispatched same
  calm := ⟨(congrArg Voice.gate same).trans calm.passing,
    (congrArg Voice.trapped same).trans calm.untrapped,
    (congrArg Voice.crashed same).trans calm.uncrashed⟩

/-- Work that raises nothing follows. -/
theorem Raises.quietly {before between after : Parts} {items : List WorkItem}
    (raises : before.Raises between items) (same : after.voice = between.voice) :
    before.Raises after items := by
  have both := raises.trans (raises_of_voice raises.calm same)
  rwa [List.append_nil] at both

/-! ## One item -/

private theorem raises_dispatch {parts : Parts} (calm : parts.Calm) (item : WorkItem) :
    parts.Raises { parts with platform := parts.platform.dispatch item } [item] := by
  have sent : parts.platform.dispatch item =
      { parts.platform with dispatched := parts.platform.dispatched ++ [item] } :=
    if_neg (Bool.eq_false_iff.mp calm.untrapped)
  rw [sent]
  exact ⟨rfl, calm.passing, calm.untrapped, calm.uncrashed⟩

/-- A calm link to the peer raises what it is given. -/
theorem raises_raiseFromPeer {parts : Parts} (calm : parts.Calm) (item : WorkItem) :
    parts.Raises (parts.raiseFromPeer item) [item] := by
  have through : parts.raiseFromPeer item =
      { parts with platform := parts.platform.dispatch item } := by
    have unchanged : ({ parts.peer with gate := .passing } : PeerLink) = parts.peer := by
      rw [← calm.passing]
    unfold raiseFromPeer
    rw [calm.passing]
    dsimp only
    rw [calm.untrapped, if_neg Bool.false_ne_true, unchanged]
  rw [through]
  exact raises_dispatch calm item

/-- One item is raised after work that raises nothing. -/
theorem Raises.raise {before after : Parts} (quiet : before.Raises after []) (item : WorkItem) :
    before.Raises (after.raiseFromPeer item) [item] :=
  quiet.trans (raises_raiseFromPeer quiet.calm item)

private theorem raises_raiseFromRelay {parts : Parts} (calm : parts.Calm) (item : WorkItem) :
    parts.Raises (parts.raiseFromRelay item) (parts.relay.lets [item]) := by
  unfold raiseFromRelay RelayLink.lets
  split
  · exact .refl calm
  · exact raises_dispatch calm item

/-- Nothing breaks off, so each element has its turn and raises what it asks for. -/
theorem raises_eachUntilCrash {Element : Type} {step : Parts → Element → Parts}
    {asks : Element → List WorkItem} {motive : Parts → Prop} {parts : Parts}
    {elements : List Element} (calm : parts.Calm) (holds : motive parts)
    (each : ∀ current : Parts, ∀ element, current.Calm → motive current →
      current.Raises (step current element) (asks element) ∧ motive (step current element)) :
    parts.Raises (parts.eachUntilCrash step elements) (elements.flatMap asks) := by
  unfold eachUntilCrash
  induction elements generalizing parts with
  | nil => exact .refl calm
  | cons element rest ih =>
      obtain ⟨raises, keeps⟩ := each parts element calm holds
      have going : ¬ parts.platform.crashed = true := Bool.eq_false_iff.mp calm.uncrashed
      rw [List.foldl_cons, if_neg going, List.flatMap_cons]
      exact raises.trans (ih raises.calm keeps)

/-! ## Channels -/

/-- Why those who listen to a channel do so, in the order of registration. -/
def rolesOn (parts : Parts) (id : ChannelId) : List ChannelRole :=
  (parts.platform.channels[id]?).elim [] fun channel => channel.listeners.map ChannelListener.role

private theorem raises_channelHeard {parts : Parts} (calm : parts.Calm) (id : ChannelId)
    (event : ChannelEvent) (role : ChannelRole) :
    parts.Raises (parts.channelHeard id event role) (role.asks id event) := by
  cases role with
  | awaitOpen =>
      cases event with
      | opened => exact raises_raiseFromPeer calm _
      | message text => exact .refl calm
      | closed => exact .refl calm
  | peerMessages =>
      cases event with
      | opened => exact .refl calm
      | closed => exact .refl calm
      | message text =>
          simp only [channelHeard, ChannelRole.asks, PeerMessage.asks]
          cases PeerMessage.parse? text with
          | none => exact .refl calm
          | some message =>
              have raises : parts.Raises (parts.eachUntilCrash raiseFromPeer message.items)
                  (message.items.flatMap fun item => [item]) :=
                raises_eachUntilCrash (motive := fun _ => True) calm trivial
                  fun current item still _ => ⟨raises_raiseFromPeer still item, trivial⟩
              rwa [List.flatMap_singleton'] at raises
  | note => exact raises_of_voice calm rfl

private theorem raises_channelEmits {parts : Parts} (calm : parts.Calm) (id : ChannelId)
    (event : ChannelEvent) :
    parts.Raises (parts.channelEmits id event)
      ((parts.rolesOn id).flatMap fun role => role.asks id event) := by
  unfold channelEmits rolesOn
  cases parts.platform.channels[id]? with
  | none => exact .refl calm
  | some channel =>
      exact raises_eachUntilCrash (motive := fun _ => True) calm trivial
        fun current role still _ => ⟨raises_channelHeard still id event role, trivial⟩

private theorem rolesOn_modifyState (parts : Parts) (target id : ChannelId) (state : ChannelState) :
    (parts.modifyChannel target fun channel => { channel with state }).rolesOn id =
      parts.rolesOn id := by
  unfold rolesOn
  simp only [modifyChannel, Platform.modifyChannel, List.getElem?_modify]
  cases parts.platform.channels[id]? with
  | none => rfl
  | some channel =>
      by_cases same : target = id
      · simp only [same, ↓reduceIte]
        rfl
      · simp only [same, ↓reduceIte]
        rfl

private theorem raises_openChannelNow {parts : Parts} (calm : parts.Calm) (id : ChannelId) :
    parts.Raises (parts.openChannelNow id)
      ((parts.rolesOn id).flatMap fun role => role.asks id .opened) := by
  have changed : parts.Raises
      (parts.modifyChannel id fun channel => { channel with state := .opened }) [] :=
    raises_of_voice calm rfl
  have told := raises_channelEmits changed.calm id .opened
  rw [rolesOn_modifyState] at told
  exact changed.trans told

/-- Nobody raises anything when a channel is closed. -/
theorem voice_closeChannel (parts : Parts) (id : ChannelId) :
    (parts.closeChannel id).voice = parts.voice := by
  unfold closeChannel
  split
  · rfl
  · split
    · rfl
    · unfold channelEmits
      split
      · rfl
      · refine eachUntilCrash_preserves
          (motive := fun current => current.voice = parts.voice) ?_ rfl
        intro current role _ same
        cases role with
        | awaitOpen => exact same
        | peerMessages => exact same
        | note => exact same

/-! ## The peer connection -/

/-- The items that the link to the peer raises when it is told of an event. -/
def hears (parts : Parts) : ConnectionEvent → List WorkItem
  | .negotiationNeeded => [.peer .negotiationNeeded]
  | .iceCandidate candidate => candidate.toList.map fun found => .signal (.candidate found)
  | .track _ => [.coordinator .peerStreamTrackUpdate]
  | .iceState state => (PeerLink.pathReport? state).toList.map .coordinator
  | .dataChannel id =>
      if parts.platform.channels[id]?.any fun channel => channel.state == .opened then
        [.peer (.dataChannel id)]
      else []

/-- An event of the peer connection raises what the link makes of it. -/
theorem raises_peerHeard {parts : Parts} (calm : parts.Calm) (event : ConnectionEvent) :
    parts.Raises (parts.peerHeard event) (parts.hears event) := by
  cases event with
  | negotiationNeeded => exact raises_raiseFromPeer calm _
  | iceCandidate candidate =>
      cases candidate with
      | none => exact .refl calm
      | some candidate => exact raises_raiseFromPeer calm _
  | track track =>
      have added : parts.Raises { parts with
          peer := { parts.peer with remoteStream := parts.peer.remoteStream.add track } } [] :=
        raises_of_voice calm rfl
      exact added.raise _
  | iceState state =>
      have known : parts.Raises { parts with
          peer := { parts.peer with
            connected := PeerLink.connectedAfter parts.peer.connected state } } [] :=
        raises_of_voice calm rfl
      simp only [peerHeard, pathChanged, hears]
      cases PeerLink.pathReport? state with
      | none => exact known
      | some item => exact known.raise _
  | dataChannel id =>
      simp only [peerHeard, channelAnnounced, hears]
      cases found : parts.platform.channels[id]? with
      | none => exact .refl calm
      | some channel =>
          simp only [Option.any_some]
          split
          · exact raises_raiseFromPeer calm _
          · exact raises_of_voice calm rfl

/-- Hearing of an event leaves what hearing of it once more would raise. -/
theorem hears_peerHeard (parts : Parts) (event : ConnectionEvent) :
    (parts.peerHeard event).hears event = parts.hears event := by
  cases event with
  | dataChannel id =>
      have same : (parts.channelAnnounced id).platform.channels[id]?.map DataChannel.state =
          parts.platform.channels[id]?.map DataChannel.state := by
        unfold channelAnnounced
        split
        · rfl
        · split
          · rw [channels_of_reports (besidesReports_raiseFromPeer parts _)]
          · simp only [modifyChannel, Platform.modifyChannel, List.getElem?_modify_eq]
            exact Option.map_map ..
      have opened (channels : Option DataChannel) :
          (channels.any fun channel => channel.state == .opened) =
            (channels.map DataChannel.state).any (· == .opened) := by
        cases channels <;> rfl
      simp only [peerHeard, hears, opened, same]
  | negotiationNeeded => rfl
  | iceCandidate candidate => rfl
  | track track => rfl
  | iceState state => rfl

/-- Those who listen to a peer connection for a kind of report. -/
def audienceOf (parts : Parts) (id : ConnectionId) (kind : ConnectionEventKind) :
    List ConnectionAudience :=
  (parts.platform.connections[id]?).elim [] fun connection => connection.audience kind

private theorem raises_connectionEmits {parts : Parts} (calm : parts.Calm) (id : ConnectionId)
    (event : ConnectionEvent) :
    parts.Raises (parts.connectionEmits id event)
      ((parts.audienceOf id event.kind).flatMap
        (ConnectionAudience.asks (parts.hears event))) := by
  unfold connectionEmits audienceOf
  cases parts.platform.connections[id]? with
  | none => exact .refl calm
  | some connection =>
      have changed : parts.Raises (parts.modifyConnection id (·.after event)) [] :=
        raises_of_voice calm rfl
      have same : (parts.modifyConnection id (·.after event)).hears event = parts.hears event := by
        cases event <;> rfl
      refine changed.trans (raises_eachUntilCrash
        (motive := fun current => current.hears event = parts.hears event) changed.calm same ?_)
      intro current audience still hears
      cases audience with
      | link =>
          have raises := raises_peerHeard still event
          rw [hears] at raises
          exact ⟨raises, (hears_peerHeard current event).trans hears⟩
      | note =>
          have unchanged : (current.note (.connection event.kind)).hears event =
              current.hears event := by
            cases event <;> rfl
          exact ⟨raises_of_voice still rfl, unchanged.trans hears⟩

/-! ## The relay -/

/-- Nobody learns of a token that could not be fetched, even if fetching it broke off. -/
theorem raises_relayHeard {parts : Parts} (calm : parts.Calm) (socket : HeldSocket)
    (event : SocketEvent) :
    parts.Raises (parts.relayHeard socket event).recover (parts.relay.lets event.asks) := by
  have silent : parts.relay.lets [] = [] := ite_self _
  cases event with
  | opened =>
      rw [SocketEvent.asks, silent]
      simp only [relayHeard, relayOpened, fetchToken, greet]
      split
      · unfold sendOnSocket
        split
        · refine Raises.recover ?_
          exact raises_of_voice calm rfl
        · refine Raises.recover ?_
          exact raises_of_voice calm rfl
      · exact ⟨(List.append_nil _).symm, calm.passing, calm.untrapped, rfl⟩
      · refine Raises.recover ?_
        exact raises_of_voice calm rfl
  | message text =>
      have counted : parts.Raises { parts with
          relay := { parts.relay with received := parts.relay.received + 1 } } [] :=
        raises_of_voice calm rfl
      simp only [relayHeard, relayDelivered, SocketEvent.asks]
      cases RelayFrame.decode? text with
      | none =>
          rw [Option.toList_none, List.map_nil, silent]
          exact counted.recover
      | some item => exact (counted.trans (raises_raiseFromRelay counted.calm _)).recover
  | closed code reason => exact (raises_raiseFromRelay calm _).recover
  | error text =>
      rw [SocketEvent.asks, silent]
      exact (Raises.refl calm).recover

/-- Who observes a socket. -/
def observerOf (parts : Parts) (id : SocketId) : Option SocketAudience :=
  (parts.platform.sockets[id]?).bind RelaySocket.observer

/-- The items that a socket's event makes the link to the relay raise. -/
def socketReports (parts : Parts) (id : SocketId) (event : SocketEvent) : List WorkItem :=
  match parts.observerOf id with
  | some .link => parts.relay.lets event.asks
  | _ => []

private theorem raises_socketEmits {parts : Parts} (calm : parts.Calm) (id : SocketId)
    (event : SocketEvent) :
    parts.Raises (parts.socketEmits id event).recover (parts.socketReports id event) := by
  unfold socketEmits socketReports observerOf
  cases parts.platform.sockets[id]? with
  | none => exact (Raises.refl calm).recover
  | some socket =>
      have changed : parts.Raises (parts.modifySocket id (·.after event)) [] :=
        raises_of_voice calm rfl
      simp only [Option.bind_some]
      cases socket.observer with
      | none => exact changed.recover
      | some observer =>
          cases observer with
          | link => exact changed.trans (raises_relayHeard changed.calm _ event)
          | note =>
              refine Raises.recover ?_
              exact changed.quietly rfl

/-! ## Everything that can happen -/

/-- The items that the links raise when something happens. -/
def reports (parts : Parts) : Occurrence → List WorkItem
  | .socket id event => parts.socketReports id event
  | .unheeding event =>
      if parts.platform.hasUnheeding then parts.relay.lets event.asks else []
  | .connection id event =>
      (parts.audienceOf id event.kind).flatMap (ConnectionAudience.asks (parts.hears event))
  | .channelOpened id => (parts.rolesOn id).flatMap fun role => role.asks id .opened
  | .channelMessage id text => (parts.rolesOn id).flatMap fun role => role.asks id (.message text)
  | .channelClosed _ => []

/-- Whatever happens on the platform raises what it reports. -/
theorem raises_undergo {parts : Parts} (calm : parts.Calm) (occurrence : Occurrence) :
    parts.Raises (parts.undergo occurrence) (parts.reports occurrence) := by
  cases occurrence with
  | socket id event => exact raises_socketEmits calm id event
  | unheeding event =>
      simp only [undergo, reports]
      cases parts.platform.hasUnheeding with
      | true => exact raises_relayHeard calm .unheeding event
      | false => exact .refl calm
  | connection id event => exact (raises_connectionEmits calm id event).recover
  | channelOpened id => exact (raises_openChannelNow calm id).recover
  | channelMessage id text => exact (raises_channelEmits calm id (.message text)).recover
  | channelClosed id => exact (raises_of_voice calm (voice_closeChannel parts id)).recover

/-! ## Work that raises nothing -/

/-- Sending to the peer raises nothing. -/
theorem voice_sendToPeer (parts : Parts) (text : String) :
    (parts.sendToPeer text).voice = parts.voice := by
  unfold sendToPeer
  split <;> rfl

/-- Sending over the relay raises nothing. -/
theorem voice_sendOnSocket (parts : Parts) (socket : HeldSocket) (text : String) :
    (parts.sendOnSocket socket text).voice = parts.voice := by
  unfold sendOnSocket
  split <;> rfl

/-- Giving up the relay raises nothing. -/
theorem voice_cleanUpRelay (parts : Parts) : parts.cleanUpRelay.voice = parts.voice := by
  unfold cleanUpRelay
  dsimp only
  split <;> rfl

private theorem voice_useChannel (parts : Parts) (id : ChannelId) :
    (parts.useChannel id).voice = parts.voice := by
  unfold useChannel
  split <;> rfl

/-- Opening a channel raises nothing. -/
theorem voice_openChannel (parts : Parts) (connection : PeerConnection) :
    (parts.openChannel connection).voice = parts.voice := by
  unfold openChannel
  split
  · rfl
  · rw [voice_useChannel]
    rfl

private theorem voice_unregister (parts : Parts) (registrations : List ChannelRegistration) :
    (parts.unregister registrations).voice = parts.voice :=
  unregister_eq voice (fun _ _ _ => rfl) parts registrations

/-- Adding the local tracks raises nothing. -/
theorem voice_addLocalTracks (parts : Parts) (id : ConnectionId) :
    (parts.addLocalTracks id).voice = parts.voice := by
  unfold addLocalTracks
  split <;> rfl

/-- Setting up the link to the peer raises nothing. -/
theorem voice_initPeer (parts : Parts) : parts.initPeer.2.voice = parts.voice :=
  initPeer_eq voice fun _ => rfl

/-- Only arming the dispatcher makes it break off. -/
theorem voice_adjust (parts : Parts) {adjustment : Adjustment}
    (unarmed : ∀ traps, adjustment ≠ .trap traps) :
    (parts.adjust adjustment).voice = parts.voice := by
  cases adjustment with
  | trap traps => exact (unarmed traps rfl).elim
  | _ => rfl

private theorem voice_releaseChannel (parts : Parts) :
    parts.releaseChannel.voice = parts.voice := by
  unfold releaseChannel
  split
  · rfl
  · exact (voice_closeChannel _ _).trans (voice_unregister _ _)

/-- Taking over a channel raises nothing. -/
theorem voice_adoptChannel (parts : Parts) (id : ChannelId) :
    (parts.adoptChannel id).voice = parts.voice := by
  have settled : (parts.settlePending id).voice = parts.voice := voice_unregister parts _
  unfold adoptChannel
  dsimp only
  split
  · exact settled
  · exact (voice_useChannel _ id).trans ((voice_releaseChannel _).trans settled)

/-- Cleaning up a link to the peer only shuts the gate. -/
theorem voice_cleanUpPeer (parts : Parts) : parts.cleanUpPeer.voice = parts.shutGate.voice := by
  cases present : parts.peer.connection with
  | none => rw [cleanUpPeer_of_none present]
  | some id =>
      rw [cleanUpPeer_of_some present]
      exact (voice_releaseChannel _).trans (voice_unregister _ _)

/-! ## Items -/

/-- Adding local tracks changes the added tracks only. -/
theorem connections_addLocalTracks {parts : Parts} {id : ConnectionId}
    {connection : PeerConnection} (found : parts.platform.connections[id]? = some connection) :
    ∃ tracked addedTracks, (parts.addLocalTracks id).platform.connections[id]? = some tracked ∧
      tracked = { connection with addedTracks } := by
  unfold addLocalTracks
  split
  · refine ⟨_, _, ?_, connection.addTracks_eq parts.platform.localStream.tracks⟩
    simp only [modifyConnection, Platform.modifyConnection, List.getElem?_modify_eq, found]
    rfl
  · exact ⟨connection, connection.addedTracks, found, rfl⟩

/-- An item raises the signals that it makes the peer connection tell. -/
theorem raises_applyItem {parts : Parts} (calm : parts.Calm) {id : ConnectionId}
    {connection : PeerConnection} (found : parts.platform.connections[id]? = some connection)
    (item : PeerItem) :
    parts.Raises (parts.applyItem id connection item) ((connection.tells item).map .signal) := by
  cases item with
  | userJoined =>
      exact raises_of_voice calm
        ((voice_addLocalTracks _ id).trans (voice_openChannel parts connection))
  | webrtcOffer offer =>
      have tracked : parts.Raises (parts.addLocalTracks id) [] :=
        raises_of_voice calm (voice_addLocalTracks parts id)
      obtain ⟨current, addedTracks, present, extended⟩ := connections_addLocalTracks found
      have refusal : current.refusesRemote = connection.refusesRemote := by rw [extended]
      have answer : current.nextAnswer = connection.nextAnswer := by
        rw [extended]
        rfl
      simp only [applyItem, present, PeerConnection.tells]
      rw [← refusal, ← answer]
      rcases Bool.eq_false_or_eq_true current.refusesRemote with refuses | willing
      · rw [acceptOffer_of_refuses refuses, if_pos refuses]
        exact tracked
      · rw [acceptOffer_of_willing willing, if_neg (Bool.eq_false_iff.mp willing)]
        dsimp only
        refine Raises.raise ?_ _
        exact tracked.quietly rfl
  | webrtcAcceptance answer =>
      simp only [applyItem, PeerConnection.tells]
      split
      · exact .refl calm
      · exact raises_of_voice calm rfl
  | webrtcCandidate candidate =>
      simp only [applyItem, PeerConnection.tells]
      split
      · exact raises_of_voice calm rfl
      · exact raises_of_voice calm rfl
  | dataChannel channel =>
      exact raises_of_voice calm
        ((voice_sendToPeer _ _).trans (voice_adoptChannel parts channel))
  | sendInitialState => exact raises_of_voice calm (voice_sendToPeer parts _)
  | negotiationNeeded =>
      simp only [applyItem, PeerConnection.tells]
      rcases Bool.eq_false_or_eq_true connection.closed with closed | working
      · rw [makeOffer_of_closed closed, if_pos closed]
        exact .refl calm
      · rw [makeOffer_of_open working, if_neg (Bool.eq_false_iff.mp working)]
        dsimp only
        refine Raises.raise ?_ _
        exact raises_of_voice calm rfl

/-- What an item makes a link tell the peer; without a peer connection it is refused. -/
def tells (parts : Parts) (item : PeerItem) : List Signal :=
  parts.peerConnection?.elim [] fun current => current.2.tells item

/-- An item raises the signals that it makes the link tell, and nothing without a peer connection.
-/
theorem raises_processItem {parts : Parts} (calm : parts.Calm) (item : PeerItem) :
    parts.Raises (parts.processItem item).2 ((parts.tells item).map .signal) := by
  unfold processItem tells
  cases inUse : parts.peerConnection? with
  | none => exact .refl calm
  | some current =>
      obtain ⟨id, connection⟩ := current
      exact raises_applyItem calm (peerConnection?_eq_some inUse).2 item

/-! ## Moves of a link -/

/-- The items that a move of a link that is not cleaned up raises. -/
def raisedBy (parts : Parts) : LinkMove → List WorkItem
  | .item item => (parts.tells item).map .signal
  | .event occurrence => parts.reports occurrence
  | _ => []

/-- A move that neither cleans up nor arms the dispatcher raises what it says. -/
theorem raises_linkMove {parts : Parts} (calm : parts.Calm) {move : LinkMove}
    (kept : move ≠ .cleanUp) (unarmed : ∀ traps, move ≠ .adjust (.trap traps)) :
    parts.Raises (parts.linkMove move) (parts.raisedBy move) := by
  cases move with
  | initialise =>
      refine Raises.recover ?_
      exact raises_of_voice calm (voice_initPeer parts)
  | item item => exact (raises_processItem calm item).recover
  | sendState requestState => exact raises_of_voice calm (voice_sendToPeer parts _)
  | sendEvent event => exact raises_of_voice calm (voice_sendToPeer parts _)
  | cleanUp => exact (kept rfl).elim
  | event occurrence => exact raises_undergo calm occurrence
  | adjust adjustment =>
      exact raises_of_voice calm
        (voice_adjust parts fun traps same => unarmed traps (congrArg LinkMove.adjust same))

/-- A link that was never set up is calm. -/
theorem calm_bareLink (localStream : MediaStream) (tokens : TokenScript)
    (iceConfiguration : Except Failure IceConfiguration) (label : String) :
    (bareLink localStream tokens iceConfiguration label).Calm :=
  ⟨rfl, rfl, rfl⟩

/-- A link stays calm until it is cleaned up, unless the dispatcher is armed. -/
theorem Calm.linkRun {parts : Parts} (calm : parts.Calm) {moves : List LinkMove}
    (kept : .cleanUp ∉ moves) (unarmed : ∀ traps, .adjust (.trap traps) ∉ moves) :
    (parts.linkRun moves).Calm := by
  refine linkRun_preserves ?_ calm
  intro current move member still
  refine (raises_linkMove still ?_ ?_).calm
  · rintro rfl
    exact kept member
  · rintro traps rfl
    exact unarmed traps member

end Parts

end CallControl
