import CallControl.Proofs.Asides

/-! # Silence

Items leave a call's parts through two outlets: the gate of the link to the peer and the
link to the relay. Once the gate is no longer passing and the relay is muted, nothing
leaves any more: no work on the parts changes what was dispatched or opens an outlet
again (`Parts.Hushed`). It does not matter who asks for that work, so this covers
listeners that are invoked although they were taken off.
-/

namespace CallControl.Parts

/-- Where items leave, and those that left. -/
structure Outlets where
  gate : Gate
  muted : Bool
  dispatched : List WorkItem

/-- The outlets of a call's parts. -/
def outlets (parts : Parts) : Outlets :=
  ⟨parts.peer.gate, parts.relay.muted, parts.platform.dispatched⟩

/-- Both outlets are shut. -/
def Hushed (parts : Parts) : Prop :=
  parts.outlets.gate ≠ .passing ∧ parts.outlets.muted = true

/-- Whatever leaves the outlets alone leaves them shut. -/
theorem Hushed.congr {before after : Parts} (same : after.outlets = before.outlets)
    (hushed : before.Hushed) : after.Hushed := by
  unfold Hushed
  rw [same]
  exact hushed

namespace Hushed

variable {parts : Parts}

/-- Work for some elements that keeps the outlets of hushed parts for each of them. -/
theorem outlets_eachUntilCrash (hushed : parts.Hushed) {Element : Type}
    {step : Parts → Element → Parts} {elements : List Element}
    (kept : ∀ current : Parts, ∀ element, current.Hushed →
      (step current element).outlets = current.outlets) :
    (parts.eachUntilCrash step elements).outlets = parts.outlets := by
  refine eachUntilCrash_preserves (motive := fun current => current.outlets = parts.outlets) ?_ rfl
  intro current element _ same
  exact (kept current element (hushed.congr same)).trans same

/-! ## The link to the peer -/

private theorem raiseFromPeer_eq (hushed : parts.Hushed) (item : WorkItem) :
    parts.raiseFromPeer item = parts := by
  unfold raiseFromPeer
  split
  · rename_i passing
    exact (hushed.1 passing).elim
  · rfl

/-- What is heard on a channel goes out through no shut outlet. -/
theorem outlets_channelHeard (hushed : parts.Hushed) (id : ChannelId) (event : ChannelEvent)
    (role : ChannelRole) : (parts.channelHeard id event role).outlets = parts.outlets := by
  cases role with
  | awaitOpen =>
      cases event with
      | opened =>
          simp only [channelHeard]
          rw [hushed.raiseFromPeer_eq]
      | message text => rfl
      | closed => rfl
  | peerMessages =>
      cases event with
      | opened => rfl
      | closed => rfl
      | message text =>
          simp only [channelHeard]
          split
          · apply hushed.outlets_eachUntilCrash
            intro current item silent
            rw [silent.raiseFromPeer_eq]
          · rfl
  | note => rfl

private theorem outlets_channelEmits (hushed : parts.Hushed) (id : ChannelId)
    (event : ChannelEvent) :
    (parts.channelEmits id event).outlets = parts.outlets := by
  unfold channelEmits
  split
  · rfl
  · exact hushed.outlets_eachUntilCrash fun current role silent =>
      silent.outlets_channelHeard id event role

private theorem outlets_closeChannel (hushed : parts.Hushed) (id : ChannelId) :
    (parts.closeChannel id).outlets = parts.outlets := by
  unfold closeChannel
  split
  · rfl
  · split
    · rfl
    · apply outlets_channelEmits
      exact hushed

private theorem outlets_openChannelNow (hushed : parts.Hushed) (id : ChannelId) :
    (parts.openChannelNow id).outlets = parts.outlets := by
  unfold openChannelNow
  apply outlets_channelEmits
  exact hushed

end Hushed

private theorem outlets_sendToPeer (parts : Parts) (text : String) :
    (parts.sendToPeer text).outlets = parts.outlets := by
  unfold sendToPeer
  split <;> rfl

private theorem outlets_useChannel (parts : Parts) (id : ChannelId) :
    (parts.useChannel id).outlets = parts.outlets := by
  unfold useChannel
  split <;> rfl

private theorem outlets_openChannel (parts : Parts) (connection : PeerConnection) :
    (parts.openChannel connection).outlets = parts.outlets := by
  unfold openChannel
  split
  · rfl
  · rw [outlets_useChannel]
    rfl

private theorem outlets_unregister (parts : Parts) (registrations : List ChannelRegistration) :
    (parts.unregister registrations).outlets = parts.outlets :=
  unregister_eq outlets (fun _ _ _ => rfl) parts registrations

private theorem outlets_addLocalTracks (parts : Parts) (id : ConnectionId) :
    (parts.addLocalTracks id).outlets = parts.outlets := by
  unfold addLocalTracks
  split <;> rfl

private theorem outlets_initPeer (parts : Parts) : parts.initPeer.2.outlets = parts.outlets :=
  initPeer_eq outlets fun _ => rfl

namespace Hushed

variable {parts : Parts}

private theorem outlets_releaseChannel (hushed : parts.Hushed) :
    parts.releaseChannel.outlets = parts.outlets := by
  unfold releaseChannel
  split
  · rfl
  · rename_i registration _
    have same := outlets_unregister { parts with peer := { parts.peer with adopted := none } }
      [registration]
    exact ((hushed.congr same).outlets_closeChannel registration.channel).trans same

private theorem outlets_adoptChannel (hushed : parts.Hushed) (id : ChannelId) :
    (parts.adoptChannel id).outlets = parts.outlets := by
  have settled : (parts.settlePending id).outlets = parts.outlets := outlets_unregister parts _
  unfold adoptChannel
  dsimp only
  split
  · exact settled
  · rw [outlets_useChannel, (hushed.congr settled).outlets_releaseChannel]
    exact settled

/-- What is heard of the peer connection goes out through no shut outlet. -/
theorem outlets_peerHeard (hushed : parts.Hushed) (event : ConnectionEvent) :
    (parts.peerHeard event).outlets = parts.outlets := by
  cases event with
  | negotiationNeeded =>
      simp only [peerHeard]
      rw [hushed.raiseFromPeer_eq]
  | iceCandidate candidate =>
      cases candidate with
      | none => rfl
      | some candidate =>
          simp only [peerHeard]
          rw [hushed.raiseFromPeer_eq]
  | track track =>
      simp only [peerHeard]
      rw [raiseFromPeer_eq]
      · rfl
      · exact hushed
  | iceState state =>
      simp only [peerHeard, pathChanged]
      split
      · rw [raiseFromPeer_eq]
        · rfl
        · exact hushed
      · rfl
  | dataChannel id =>
      simp only [peerHeard, channelAnnounced]
      split
      · rfl
      · split
        · rw [hushed.raiseFromPeer_eq]
        · rfl

private theorem outlets_connectionEmits (hushed : parts.Hushed) (id : ConnectionId)
    (event : ConnectionEvent) : (parts.connectionEmits id event).outlets = parts.outlets := by
  unfold connectionEmits
  split
  · rfl
  · have changed : (parts.modifyConnection id (·.after event)).Hushed := hushed
    refine changed.outlets_eachUntilCrash ?_
    intro current audience silent
    cases audience with
    | link => exact silent.outlets_peerHeard event
    | note => rfl

private theorem outlets_applyItem (hushed : parts.Hushed) (id : ConnectionId)
    (connection : PeerConnection) (item : PeerItem) :
    (parts.applyItem id connection item).outlets = parts.outlets := by
  cases item with
  | userJoined => exact (outlets_addLocalTracks _ id).trans (outlets_openChannel parts connection)
  | webrtcOffer offer =>
      simp only [applyItem]
      have tracked := outlets_addLocalTracks parts id
      split
      · exact tracked
      · split
        · exact tracked
        · rw [raiseFromPeer_eq]
          · exact tracked
          · exact hushed.congr tracked
  | webrtcAcceptance answer =>
      simp only [applyItem]
      split <;> rfl
  | webrtcCandidate candidate =>
      simp only [applyItem]
      split <;> rfl
  | dataChannel channel =>
      exact (outlets_sendToPeer _ _).trans (hushed.outlets_adoptChannel channel)
  | sendInitialState => exact outlets_sendToPeer parts _
  | negotiationNeeded =>
      simp only [applyItem]
      split
      · rfl
      · rw [raiseFromPeer_eq]
        · rfl
        · exact hushed

private theorem outlets_processItem (hushed : parts.Hushed) (item : PeerItem) :
    (parts.processItem item).2.outlets = parts.outlets := by
  unfold processItem
  split
  · rfl
  · exact hushed.outlets_applyItem _ _ _

/-- A gate that does not let through stays as it is when it is shut. -/
theorem shutGate_eq (hushed : parts.Hushed) : parts.shutGate = parts := by
  have same : parts.peer.gate.close = parts.peer.gate := by
    cases current : parts.peer.gate with
    | passing => exact (hushed.1 current).elim
    | shut => rfl
    | broken => rfl
  unfold shutGate
  rw [same]

/-- Cleaning up the link to the peer opens no outlet. -/
theorem outlets_cleanUpPeer (hushed : parts.Hushed) :
    parts.cleanUpPeer.outlets = parts.outlets := by
  cases present : parts.peer.connection with
  | none => rw [cleanUpPeer_of_none present, hushed.shutGate_eq]
  | some id =>
      rw [cleanUpPeer_of_some present, hushed.shutGate_eq]
      have dropped : (parts.unlisten id).dropPending.outlets = parts.outlets :=
        outlets_unregister (parts.unlisten id) _
      exact (hushed.congr dropped).outlets_releaseChannel.trans dropped

/-! ## The link to the relay -/

private theorem raiseFromRelay_eq (hushed : parts.Hushed) (item : WorkItem) :
    parts.raiseFromRelay item = parts := by
  have muted : parts.relay.muted = true := hushed.2
  unfold raiseFromRelay
  rw [if_pos muted]

private theorem outlets_relayHeard (hushed : parts.Hushed) (socket : HeldSocket)
    (event : SocketEvent) :
    (parts.relayHeard socket event).outlets = parts.outlets := by
  cases event with
  | opened =>
      simp only [relayHeard, relayOpened, fetchToken, greet]
      split
      · unfold sendOnSocket
        split <;> rfl
      · rfl
      · rfl
  | message text =>
      simp only [relayHeard, relayDelivered]
      split
      · rw [raiseFromRelay_eq]
        · rfl
        · exact hushed
      · rfl
  | closed code reason =>
      simp only [relayHeard]
      rw [hushed.raiseFromRelay_eq]
  | error text => rfl

private theorem outlets_socketEmits (hushed : parts.Hushed) (id : SocketId) (event : SocketEvent) :
    (parts.socketEmits id event).outlets = parts.outlets := by
  unfold socketEmits
  split
  · rfl
  · have changed : (parts.modifySocket id (·.after event)).Hushed := hushed
    dsimp only
    split
    · rfl
    · rename_i observer _
      cases observer with
      | link => exact changed.outlets_relayHeard _ _
      | note => rfl

/-! ## Everything that can happen -/

private theorem outlets_occur (hushed : parts.Hushed) (occurrence : Occurrence) :
    (parts.occur occurrence).outlets = parts.outlets := by
  cases occurrence with
  | socket id event => exact hushed.outlets_socketEmits id event
  | unheeding event => exact hushed.outlets_relayHeard .unheeding event
  | connection id event => exact hushed.outlets_connectionEmits id event
  | channelOpened id => exact hushed.outlets_openChannelNow id
  | channelMessage id text => exact hushed.outlets_channelEmits id (.message text)
  | channelClosed id => exact hushed.outlets_closeChannel id

/-- Nothing that happens goes out through shut outlets. -/
theorem outlets_undergo (hushed : parts.Hushed) (occurrence : Occurrence) :
    (parts.undergo occurrence).outlets = parts.outlets := by
  rcases undergo_cases parts occurrence with same | same
  · rw [same]
  · rw [same]
    exact hushed.outlets_occur occurrence

end Hushed

/-- A change that nobody is told of leaves the outlets alone. -/
theorem outlets_adjust (parts : Parts) (adjustment : Adjustment) :
    (parts.adjust adjustment).outlets = parts.outlets := by
  cases adjustment <;> rfl

/-- Nothing that happens to a hushed link raises anything. -/
theorem Hushed.outlets_linkMove {parts : Parts} (hushed : parts.Hushed) (move : LinkMove) :
    (parts.linkMove move).outlets = parts.outlets := by
  cases move with
  | initialise => exact outlets_initPeer parts
  | item item => exact hushed.outlets_processItem item
  | sendState requestState => exact outlets_sendToPeer parts _
  | sendEvent event => exact outlets_sendToPeer parts _
  | cleanUp => exact hushed.outlets_cleanUpPeer
  | event occurrence => exact hushed.outlets_undergo occurrence
  | adjust adjustment => exact outlets_adjust parts adjustment

end CallControl.Parts
