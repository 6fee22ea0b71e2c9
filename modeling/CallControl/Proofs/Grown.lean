import CallControl.Proofs.Headway

/-! # Nothing raised is taken back

What was handed to the dispatcher stays, in its order, and whatever a call does adds to it
at the end only (`Call.grows_move`). Unlike what is said of calm parts, this does not
depend on whether the gate lets through or the dispatcher breaks off.
-/

namespace CallControl

namespace Parts

/-- What was raised before was raised first. -/
def Grows (before after : Parts) : Prop :=
  before.platform.dispatched <+: after.platform.dispatched

namespace Grows

private theorem refl (parts : Parts) : parts.Grows parts := List.prefix_rfl

private theorem trans {first second third : Parts} (earlier : first.Grows second)
    (later : second.Grows third) : first.Grows third :=
  List.IsPrefix.trans earlier later

private theorem of_voice {before after : Parts} (same : after.voice = before.voice) :
    before.Grows after := by
  have unchanged : after.platform.dispatched = before.platform.dispatched :=
    congrArg Voice.dispatched same
  exact ⟨[], (List.append_nil _).trans unchanged.symm⟩

/-- Work that raises nothing comes first. -/
theorem after_voice {before between after : Parts} (grows : between.Grows after)
    (same : between.voice = before.voice) : before.Grows after :=
  (of_voice same).trans grows

end Grows

/-! ## Listeners -/

private theorem grows_dispatch (parts : Parts) (item : WorkItem) :
    parts.Grows { parts with platform := parts.platform.dispatch item } := by
  unfold Grows Platform.dispatch
  split
  · exact List.prefix_rfl
  · exact List.prefix_append _ _

private theorem grows_raiseFromPeer (parts : Parts) (item : WorkItem) :
    parts.Grows (parts.raiseFromPeer item) := by
  unfold raiseFromPeer
  split
  · exact parts.grows_dispatch item
  · exact .refl parts

private theorem grows_raiseFromRelay (parts : Parts) (item : WorkItem) :
    parts.Grows (parts.raiseFromRelay item) := by
  unfold raiseFromRelay
  split
  · exact .refl parts
  · exact parts.grows_dispatch item

private theorem grows_eachUntilCrash {Element : Type} {step : Parts → Element → Parts}
    (grows : ∀ (current : Parts) (element : Element), current.Grows (step current element))
    (parts : Parts) (elements : List Element) : parts.Grows (parts.eachUntilCrash step elements) :=
  eachUntilCrash_preserves (motive := parts.Grows)
    (fun current element _ grown => grown.trans (grows current element)) (.refl parts)

private theorem grows_channelHeard (parts : Parts) (id : ChannelId) (event : ChannelEvent)
    (role : ChannelRole) : parts.Grows (parts.channelHeard id event role) := by
  cases role with
  | awaitOpen =>
      cases event with
      | opened => exact parts.grows_raiseFromPeer _
      | message text => exact .refl parts
      | closed => exact .refl parts
  | peerMessages =>
      cases event with
      | opened => exact .refl parts
      | closed => exact .refl parts
      | message text =>
          simp only [channelHeard]
          split
          · exact grows_eachUntilCrash grows_raiseFromPeer parts _
          · exact .refl parts
  | note => exact .of_voice rfl

private theorem grows_channelEmits (parts : Parts) (id : ChannelId) (event : ChannelEvent) :
    parts.Grows (parts.channelEmits id event) := by
  unfold channelEmits
  split
  · exact .refl parts
  · exact grows_eachUntilCrash (fun current role => current.grows_channelHeard id event role)
      parts _

private theorem grows_peerHeard (parts : Parts) (event : ConnectionEvent) :
    parts.Grows (parts.peerHeard event) := by
  cases event with
  | negotiationNeeded => exact parts.grows_raiseFromPeer _
  | iceCandidate candidate =>
      cases candidate with
      | none => exact .refl parts
      | some candidate => exact parts.grows_raiseFromPeer _
  | track track =>
      refine (grows_raiseFromPeer _ _).after_voice ?_
      rfl
  | iceState state =>
      simp only [peerHeard, pathChanged]
      split
      · refine (grows_raiseFromPeer _ _).after_voice ?_
        rfl
      · exact .of_voice rfl
  | dataChannel id =>
      simp only [peerHeard, channelAnnounced]
      split
      · exact .refl parts
      · split
        · exact parts.grows_raiseFromPeer _
        · exact .of_voice rfl

private theorem grows_connectionEmits (parts : Parts) (id : ConnectionId)
    (event : ConnectionEvent) :
    parts.Grows (parts.connectionEmits id event) := by
  have heard (current : Parts) (audience : ConnectionAudience) :
      current.Grows (connectionHeard event current audience) := by
    cases audience with
    | link => exact current.grows_peerHeard event
    | note => exact .of_voice rfl
  unfold connectionEmits
  split
  · exact .refl parts
  · refine (grows_eachUntilCrash heard _ _).after_voice ?_
    rfl

private theorem grows_relayHeard (parts : Parts) (socket : HeldSocket) (event : SocketEvent) :
    parts.Grows (parts.relayHeard socket event) := by
  cases event with
  | opened =>
      simp only [relayHeard, relayOpened, fetchToken, greet]
      split
      · exact .of_voice (voice_sendOnSocket _ _ _)
      · exact .refl parts
      · exact .refl parts
  | message text =>
      simp only [relayHeard, relayDelivered]
      split
      · refine (grows_raiseFromRelay _ _).after_voice ?_
        rfl
      · exact .of_voice rfl
  | closed code reason => exact parts.grows_raiseFromRelay _
  | error text => exact .refl parts

private theorem grows_socketEmits (parts : Parts) (id : SocketId) (event : SocketEvent) :
    parts.Grows (parts.socketEmits id event) := by
  unfold socketEmits
  split
  · exact .refl parts
  · dsimp only
    split
    · exact .of_voice rfl
    · rename_i observer _
      cases observer with
      | link =>
          refine (grows_relayHeard _ _ _).after_voice ?_
          rfl
      | note => exact .of_voice rfl

private theorem grows_occur (parts : Parts) (occurrence : Occurrence) :
    parts.Grows (parts.occur occurrence) := by
  cases occurrence with
  | socket id event => exact parts.grows_socketEmits id event
  | unheeding event => exact parts.grows_relayHeard .unheeding event
  | connection id event => exact parts.grows_connectionEmits id event
  | channelOpened id =>
      refine (grows_channelEmits _ id .opened).after_voice ?_
      rfl
  | channelMessage id text => exact parts.grows_channelEmits id _
  | channelClosed id => exact .of_voice (voice_closeChannel parts id)

private theorem grows_recover (parts : Parts) : parts.Grows parts.recover := .refl parts

/-- Nothing that happens takes anything away from a platform. -/
theorem grows_undergo (parts : Parts) (occurrence : Occurrence) :
    parts.Grows (parts.undergo occurrence) := by
  rcases parts.undergo_cases occurrence with same | occurs
  · rw [same]
    exact .refl parts
  · rw [occurs]
    exact (parts.grows_occur occurrence).trans (grows_recover _)

/-! ## Items -/

private theorem grows_applyItem (parts : Parts) (id : ConnectionId) (connection : PeerConnection)
    (item : PeerItem) : parts.Grows (parts.applyItem id connection item) := by
  cases item with
  | userJoined =>
      exact .of_voice ((voice_addLocalTracks _ id).trans (voice_openChannel parts connection))
  | webrtcOffer offer =>
      have tracked : parts.Grows (parts.addLocalTracks id) :=
        .of_voice (voice_addLocalTracks parts id)
      simp only [applyItem]
      split
      · exact tracked
      · split
        · exact tracked
        · refine tracked.trans ((grows_raiseFromPeer _ _).after_voice ?_)
          rfl
  | webrtcAcceptance answer =>
      simp only [applyItem]
      split
      · exact .refl parts
      · exact .of_voice rfl
  | webrtcCandidate candidate =>
      simp only [applyItem]
      split
      · exact .of_voice rfl
      · exact .of_voice rfl
  | dataChannel channel =>
      exact .of_voice ((voice_sendToPeer _ _).trans (voice_adoptChannel parts channel))
  | sendInitialState => exact .of_voice (voice_sendToPeer parts _)
  | negotiationNeeded =>
      simp only [applyItem]
      split
      · exact .refl parts
      · refine (grows_raiseFromPeer _ _).after_voice ?_
        rfl

private theorem grows_processItem (parts : Parts) (item : PeerItem) :
    parts.Grows (parts.processItem item).2 := by
  unfold processItem
  split
  · exact .refl parts
  · exact parts.grows_applyItem _ _ item

private theorem grows_cleanUpPeer (parts : Parts) : parts.Grows parts.cleanUpPeer := by
  have unchanged : parts.cleanUpPeer.platform.dispatched = parts.platform.dispatched :=
    congrArg Voice.dispatched parts.voice_cleanUpPeer
  exact ⟨[], (List.append_nil _).trans unchanged.symm⟩

private theorem grows_adjust (parts : Parts) (adjustment : Adjustment) :
    parts.Grows (parts.adjust adjustment) := by
  cases adjustment <;> exact .refl parts

end Parts

namespace Call

open Parts

/-! ## Moves of a call -/

variable (call : Call)

private theorem grows_releaseRelay : call.toParts.Grows call.releaseRelay.toParts := by
  unfold releaseRelay
  split
  · exact .of_voice (voice_cleanUpRelay call.toParts)
  · exact .refl call.toParts

private theorem grows_endCall : call.toParts.Grows call.endCall.toParts := by
  unfold endCall
  split
  · exact .refl call.toParts
  · refine (call.grows_releaseRelay.trans (grows_cleanUpPeer _)).trans ?_
    exact .of_voice (voice_setLifecycle _ _)

private theorem grows_coordinate (item : CoordinatorItem) :
    call.toParts.Grows (call.coordinate item).toParts := by
  cases item with
  | peerConnected =>
      exact (grows_releaseRelay _).after_voice (call.voice_setLifecycle .connected)
  | closedSignaller =>
      simp only [coordinate]
      split
      · exact call.grows_releaseRelay
      · exact call.grows_endCall
  | peerConnectionEnded => exact call.grows_endCall
  | peerStreamTrackUpdate => exact .of_voice ((voice_setFlags _ _).trans (voice_tell _ _))
  | peerMicTurnedOn => exact .of_voice (voice_setFlags _ _)
  | peerMicTurnedOff => exact .of_voice (voice_setFlags _ _)
  | peerVideoTurnedOn => exact .of_voice (voice_setFlags _ _)
  | peerVideoTurnedOff => exact .of_voice (voice_setFlags _ _)

private theorem grows_negotiate (item : PeerItem) :
    call.toParts.Grows (call.negotiate item).toParts := by
  simp only [negotiate]
  split
  · exact (grows_processItem _ item).after_voice (call.voice_setLifecycle .connecting)
  · exact grows_processItem _ item

private theorem grows_route (item : WorkItem) : call.toParts.Grows (call.route item).toParts := by
  unfold route
  split
  · exact .refl call.toParts
  · cases item with
    | signal signal =>
        simp only [Call.signal]
        split
        · exact .of_voice (voice_sendOnSocket _ _ _)
        · exact .refl call.toParts
    | peer item => exact call.grows_negotiate item
    | coordinator item => exact call.grows_coordinate item

private theorem grows_runTask (task : CallTask) :
    call.toParts.Grows (call.runTask task).toParts := by
  cases task with
  | setMic enabled =>
      simp only [runTask, setMic]
      split
      · exact .refl call.toParts
      · exact .of_voice ((voice_sendToPeer _ _).trans (voice_setFlags _ _))
  | setVideo enabled =>
      simp only [runTask, setVideo]
      split
      · exact .refl call.toParts
      · exact .of_voice ((voice_sendToPeer _ _).trans (voice_setFlags _ _))
  | connectTimeout =>
      simp only [runTask, connectTimeout]
      split
      · exact call.grows_endCall
      · exact call.grows_endCall
      · exact .refl call.toParts
      · exact .refl call.toParts
  | endCall => exact call.grows_endCall

/-- No move of a call takes anything away from its platform. -/
theorem grows_move (move : CallMove) : call.toParts.Grows (call.move move).toParts := by
  cases move with
  | item item => exact (call.grows_route item).trans (grows_recover _)
  | task task => exact (call.grows_runTask task).trans (grows_recover _)
  | event occurrence => exact grows_undergo _ occurrence
  | adjust adjustment => exact grows_adjust _ adjustment

end Call

end CallControl
