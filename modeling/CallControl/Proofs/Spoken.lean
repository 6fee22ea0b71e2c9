import CallControl.Proofs.Flags

/-! # What a call tells its peer

A call sends on the channel in use and on no other, and each move sends one message at
most: a switch of this side is told as an event, and a channel that is taken over or an
item that asks for it is answered with the full state (`Call.sends_move`).
-/

namespace CallControl

namespace Parts

/-- What was sent on a channel. -/
def sentOn (parts : Parts) (id : ChannelId) : List String :=
  (parts.platform.channels[id]?).elim [] DataChannel.sent

/-- A channel is in use and takes what is sent on it. -/
def accepts (parts : Parts) (id : ChannelId) : Bool :=
  (parts.peer.adopted.any fun registration => registration.channel == id) &&
    (parts.platform.channels[id]?).any DataChannel.takes

/-! ## What sends nothing -/

private theorem sentOn_of_channels {before after : Parts}
    (same : after.platform.channels = before.platform.channels) :
    after.sentOn = before.sentOn := by
  unfold sentOn
  rw [same]

/-- Reports send nothing on channels. -/
theorem sentOn_of_reports {before after : Parts}
    (same : after.besidesReports = before.besidesReports) : after.sentOn = before.sentOn :=
  sentOn_of_channels (channels_of_reports same)

private theorem sentOn_of_relay {before after : Parts}
    (same : after.besidesRelay = before.besidesRelay) : after.sentOn = before.sentOn :=
  (congrArg (fun rest : Parts => rest.sentOn) same :)

private theorem sentOn_modifyChannel (parts : Parts) (target : ChannelId)
    {change : DataChannel → DataChannel}
    (kept : ∀ channel : DataChannel, (change channel).sent = channel.sent) :
    (parts.modifyChannel target change).sentOn = parts.sentOn :=
  funext fun id => elim_modify_of_eq kept parts.platform.channels target id []

private theorem sentOn_addChannel (parts : Parts) {channel : DataChannel}
    (unused : channel.sent = []) :
    Parts.sentOn { parts with platform := parts.platform.addChannel channel } = parts.sentOn := by
  funext id
  unfold sentOn Platform.addChannel
  rw [List.getElem?_append]
  split
  · rfl
  · rename_i beyond
    rw [List.getElem?_eq_none (Nat.le_of_not_lt beyond)]
    cases id - parts.platform.channels.length <;> simp [unused]

private theorem sentOn_channelEmits (parts : Parts) (id : ChannelId) (event : ChannelEvent) :
    (parts.channelEmits id event).sentOn = parts.sentOn :=
  sentOn_of_reports (besidesReports_channelEmits ..)

private theorem sentOn_closeChannel (parts : Parts) (id : ChannelId) :
    (parts.closeChannel id).sentOn = parts.sentOn := by
  unfold closeChannel
  split
  · rfl
  · split
    · rfl
    · exact (sentOn_channelEmits ..).trans (sentOn_modifyChannel parts id fun _ => rfl)

private theorem sentOn_openChannelNow (parts : Parts) (id : ChannelId) :
    (parts.openChannelNow id).sentOn = parts.sentOn :=
  (sentOn_channelEmits ..).trans (sentOn_modifyChannel parts id fun _ => rfl)

private theorem sentOn_unregister (parts : Parts) (registrations : List ChannelRegistration) :
    (parts.unregister registrations).sentOn = parts.sentOn :=
  unregister_eq sentOn (fun current target _ => sentOn_modifyChannel current target fun _ => rfl)
    parts registrations

private theorem sentOn_useChannel (parts : Parts) (id : ChannelId) :
    (parts.useChannel id).sentOn = parts.sentOn := by
  unfold useChannel
  split
  · rfl
  · exact sentOn_modifyChannel parts id fun _ => rfl

private theorem sentOn_openChannel (parts : Parts) (connection : PeerConnection) :
    (parts.openChannel connection).sentOn = parts.sentOn := by
  unfold openChannel
  split
  · rfl
  · exact (sentOn_useChannel ..).trans (sentOn_addChannel parts rfl)

private theorem sentOn_releaseChannel (parts : Parts) :
    parts.releaseChannel.sentOn = parts.sentOn := by
  unfold releaseChannel
  split
  · rfl
  · exact (sentOn_closeChannel ..).trans (sentOn_unregister ..)

private theorem sentOn_adoptChannel (parts : Parts) (id : ChannelId) :
    (parts.adoptChannel id).sentOn = parts.sentOn := by
  have settled : (parts.settlePending id).sentOn = parts.sentOn := sentOn_unregister parts _
  unfold adoptChannel
  dsimp only
  split
  · exact settled
  · exact (sentOn_useChannel ..).trans ((sentOn_releaseChannel _).trans settled)

private theorem sentOn_channelAnnounced (parts : Parts) (id : ChannelId) :
    (parts.channelAnnounced id).sentOn = parts.sentOn := by
  unfold channelAnnounced
  split
  · rfl
  · split
    · exact sentOn_of_reports (besidesReports_raiseFromPeer ..)
    · exact sentOn_modifyChannel parts id fun _ => rfl

/-- Whatever happens on the platform, nothing is sent to the peer. -/
theorem sentOn_undergo (parts : Parts) (occurrence : Occurrence) :
    (parts.undergo occurrence).sentOn = parts.sentOn :=
  undergo_eq sentOn sentOn_of_relay
    (fun current _ event => connectionEmits_eq sentOn (fun _ => rfl)
      (fun current => peerHeard_eq sentOn
        (fun current _ => sentOn_of_reports (besidesReports_raiseFromPeer current _))
        sentOn_channelAnnounced (fun _ _ _ => rfl) current event)
      (fun _ => rfl) current)
    sentOn_openChannelNow (fun _ _ _ => sentOn_channelEmits ..) sentOn_closeChannel parts
    occurrence

/-- A change that nobody is told of sends nothing on channels. -/
theorem sentOn_adjust (parts : Parts) (adjustment : Adjustment) :
    (parts.adjust adjustment).sentOn = parts.sentOn := by
  cases adjustment with
  | newChannel label => exact sentOn_addChannel parts rfl
  | channelFails id fails => exact sentOn_modifyChannel parts id fun _ => rfl
  | overhearChannel id => exact sentOn_modifyChannel parts id fun _ => rfl
  | _ => rfl

private theorem sentOn_cleanUpPeer (parts : Parts) : parts.cleanUpPeer.sentOn = parts.sentOn := by
  cases used : parts.peer.connection with
  | none => rw [cleanUpPeer_of_none used]; rfl
  | some id =>
      rw [cleanUpPeer_of_some used]
      calc ((parts.shutGate.unlisten id).dropPending.releaseChannel.dropConnection id).sentOn
          = (parts.shutGate.unlisten id).dropPending.releaseChannel.sentOn := rfl
        _ = (parts.shutGate.unlisten id).dropPending.sentOn := sentOn_releaseChannel _
        _ = (parts.shutGate.unlisten id).sentOn := sentOn_unregister ..
        _ = parts.sentOn := rfl

private theorem sentOn_addLocalTracks (parts : Parts) (id : ConnectionId) :
    (parts.addLocalTracks id).sentOn = parts.sentOn := by
  unfold addLocalTracks
  split <;> rfl

/-! ## What sends -/

/-- A channel after a text for it, which it takes or refuses. -/
def offer (text : String) (channel : DataChannel) : DataChannel :=
  { channel with sent := channel.sent ++ if channel.takes then [text] else [] }

private theorem send_eq (channel : DataChannel) (text : String) :
    (match channel.send text with
      | .ok sent => sent
      | .error _ => channel) = offer text channel := by
  have free : channel.takes = !(channel.failsToSend || channel.state == .closed) := rfl
  unfold DataChannel.send offer
  rw [free]
  cases channel.failsToSend || channel.state == .closed
  · rfl
  · exact congrArg (fun sent => { channel with sent }) (List.append_nil _).symm

private theorem sendToPeer_eq {parts : Parts} {registration : ChannelRegistration}
    (used : parts.peer.adopted = some registration) (text : String) :
    parts.sendToPeer text = parts.modifyChannel registration.channel (offer text) := by
  unfold sendToPeer
  rw [used]
  exact congrArg (parts.modifyChannel registration.channel) (funext fun _ => send_eq _ text)

/-- Reports do not matter to which channel takes what is sent. -/
theorem accepts_of_reports {before after : Parts}
    (same : after.besidesReports = before.besidesReports) : after.accepts = before.accepts :=
  (congrArg (fun rest : Parts => rest.accepts) same :)

/-- Sending does not change what is taken. -/
theorem accepts_sendToPeer (parts : Parts) (text : String) :
    (parts.sendToPeer text).accepts = parts.accepts := by
  funext id
  cases used : parts.peer.adopted with
  | none =>
      unfold sendToPeer
      rw [used]
  | some registration =>
      have kept (channel : DataChannel) : (offer text channel).takes = channel.takes := rfl
      have taken := elim_modify_of_eq kept parts.platform.channels registration.channel id false
      have any (found : Option DataChannel) :
          found.any DataChannel.takes = found.elim false DataChannel.takes := by
        cases found <;> rfl
      rw [sendToPeer_eq used]
      unfold accepts
      rw [any, any]
      exact congrArg (_ && ·) taken

/-- A text for the peer is sent on the channel in use, if that takes it, and on no other. -/
theorem sentOn_sendToPeer (parts : Parts) (text : String) (id : ChannelId) :
    (parts.sendToPeer text).sentOn id =
      parts.sentOn id ++ if parts.accepts id then [text] else [] := by
  cases used : parts.peer.adopted with
  | none =>
      unfold sendToPeer accepts
      rw [used]
      exact (List.append_nil _).symm
  | some registration =>
      rw [sendToPeer_eq used]
      unfold accepts
      rw [used, Option.any_some]
      by_cases same : registration.channel = id
      · subst same
        change ((parts.platform.channels.modify registration.channel _)[registration.channel]?).elim
          [] DataChannel.sent = _
        unfold sentOn
        rw [List.getElem?_modify_eq, beq_self_eq_true, Bool.true_and]
        cases parts.platform.channels[registration.channel]? <;> rfl
      · have other : (registration.channel == id) = false := beq_false_of_ne same
        change ((parts.platform.channels.modify registration.channel _)[id]?).elim
          [] DataChannel.sent = _
        rw [List.getElem?_modify_ne _ _ same, other]
        exact (List.append_nil _).symm

/-- Between two states some texts were sent on the channel in use, if that takes them, and
nothing on any other. -/
def Sends (before after : Parts) (texts : List String) : Prop :=
  ∀ id, after.sentOn id = before.sentOn id ++ if after.accepts id then texts else []

/-- What sends nothing, whether or not a channel would take it. -/
theorem Sends.quiet {before after : Parts} (same : after.sentOn = before.sentOn) :
    before.Sends after [] := fun id => by
  rw [same, ite_self, List.append_nil]

private theorem Sends.after_quiet {before between after : Parts} {texts : List String}
    (sends : between.Sends after texts) (same : between.sentOn = before.sentOn) :
    before.Sends after texts :=
  fun id => (sends id).trans (congrArg (· id ++ _) same)

private theorem sends_sendToPeer (parts : Parts) (text : String) :
    parts.Sends (parts.sendToPeer text) [text] := fun id => by
  rw [accepts_sendToPeer, sentOn_sendToPeer]

private theorem sends_sendState (parts : Parts) (requestState : Bool) :
    parts.Sends (parts.sendState requestState) [(parts.stateReport requestState).toText] :=
  sends_sendToPeer parts _

/-- The state that an item for the link to the peer has it tell. -/
def stateFor? (parts : Parts) : PeerItem → Option StateReport
  | .dataChannel _ => some (parts.stateReport true)
  | .sendInitialState => some (parts.stateReport false)
  | _ => none

private theorem sends_applyItem (parts : Parts) (connection : ConnectionId)
    (current : PeerConnection) (item : PeerItem) :
    parts.Sends (parts.applyItem connection current item)
      ((parts.stateFor? item).toList.map StateReport.toText) := by
  cases item with
  | userJoined => exact .quiet ((sentOn_addLocalTracks ..).trans (sentOn_openChannel ..))
  | webrtcOffer offer =>
      have tracked := sentOn_addLocalTracks parts connection
      apply Sends.quiet
      simp only [applyItem]
      split
      · exact tracked
      · split
        · exact tracked
        · rw [sentOn_of_reports (besidesReports_raiseFromPeer _ _)]
          exact tracked
  | webrtcAcceptance answer =>
      apply Sends.quiet
      simp only [applyItem]
      split <;> rfl
  | webrtcCandidate candidate =>
      apply Sends.quiet
      simp only [applyItem]
      split <;> rfl
  | dataChannel channel =>
      have report : (parts.adoptChannel channel).stateReport true = parts.stateReport true :=
        (congrArg (fun rest : Parts => rest.stateReport true)
          (besidesChannels_adoptChannel parts channel) :)
      have told := sends_sendState (parts.adoptChannel channel) true
      rw [report] at told
      exact told.after_quiet (sentOn_adoptChannel parts channel)
  | sendInitialState => exact sends_sendState parts false
  | negotiationNeeded =>
      apply Sends.quiet
      simp only [applyItem]
      split
      · rfl
      · rw [sentOn_of_reports (besidesReports_raiseFromPeer _ _)]
        rfl

/-- Without a channel in use none takes what is sent. -/
theorem accepts_of_unused {parts : Parts} (unused : parts.peer.adopted = none)
    (id : ChannelId) : parts.accepts id = false := by
  unfold accepts
  rw [unused]
  rfl

/-- Without a channel in use nothing is sent, whatever it would be. -/
theorem Sends.of_unused {before after : Parts} (same : after.sentOn = before.sentOn)
    (unused : after.peer.adopted = none) {texts : List String} : before.Sends after texts :=
  fun id => by
    rw [accepts_of_unused unused, same, if_neg Bool.false_ne_true, List.append_nil]

end Parts

namespace Call

open Parts

variable {call : Call}

/-- The message that a move sends to the peer, if a channel takes it. -/
def message? (call : Call) : CallMove → Option PeerMessage
  | .item (.peer item) => (call.toParts.stateFor? item).map .state
  | .task (.setMic enabled) => some (.toggle (.turned .audio enabled))
  | .task (.setVideo enabled) => some (.toggle (.turned .video enabled))
  | _ => none

/-- Without a peer connection no channel is in use. -/
theorem Sound.unused (sound : call.Sound) (absent : call.toParts.peerConnection? = none) :
    call.peer.adopted = none := by
  have accounted := sound.coupled.accounted
  cases used : call.peer.connection with
  | none => exact (accounted.resting used).2.2.1
  | some id =>
      have there := accounted.connections.present id used
      rw [peerConnection?_eq used (List.getElem?_eq_getElem there)] at absent
      cases absent

/-! ### Work that does not send -/

section

variable {motive : Parts → Prop}
  (relayed : ∀ {before after : Parts}, after.besidesRelay = before.besidesRelay →
    motive before → motive after)
  (cleaned : ∀ {current : Parts}, motive current → motive current.cleanUpPeer)

include relayed

private theorem releaseRelay_keeps (holds : motive call.toParts) :
    motive call.releaseRelay.toParts := by
  unfold releaseRelay
  split
  · exact relayed (besidesRelay_cleanUpRelay call.toParts) holds
  · exact holds

/-- A signal keeps what sending over the relay keeps. -/
theorem signal_keeps (holds : motive call.toParts) (signal : Signal) :
    motive (call.signal signal).toParts := by
  unfold Call.signal
  split
  · exact relayed (besidesRelay_sendSignal _ signal) holds
  · exact holds

include cleaned

/-- Ending a call keeps what giving up the relay and cleaning up keep. -/
theorem endCall_keeps (holds : motive call.toParts) : motive call.endCall.toParts := by
  unfold endCall
  split
  · exact holds
  · apply relayed (besidesRelay_congr (besidesReports_setLifecycle ..))
    exact cleaned (releaseRelay_keeps relayed holds)

/-- What does not depend on the relay's side and survives cleaning up survives an item for
the coordinator. -/
theorem coordinate_keeps (holds : motive call.toParts) (item : CoordinatorItem) :
    motive (call.coordinate item).toParts := by
  have shown {current : Call} (flags : CallFlags) (still : motive current.toParts) :
      motive (current.setFlags flags).toParts :=
    relayed (besidesRelay_congr (besidesReports_setFlags ..)) still
  cases item with
  | peerConnected =>
      apply releaseRelay_keeps relayed
      exact relayed (besidesRelay_congr (besidesReports_setLifecycle ..)) holds
  | closedSignaller =>
      simp only [coordinate]
      split
      · exact releaseRelay_keeps relayed holds
      · exact endCall_keeps relayed cleaned holds
  | peerConnectionEnded => exact endCall_keeps relayed cleaned holds
  | peerStreamTrackUpdate =>
      apply shown
      exact relayed (besidesRelay_congr (besidesReports_tell ..)) holds
  | peerMicTurnedOn => exact shown _ holds
  | peerMicTurnedOff => exact shown _ holds
  | peerVideoTurnedOn => exact shown _ holds
  | peerVideoTurnedOff => exact shown _ holds

/-- A timeout keeps what ending the call keeps. -/
theorem connectTimeout_keeps (holds : motive call.toParts) :
    motive call.connectTimeout.toParts := by
  unfold connectTimeout
  split
  · exact endCall_keeps relayed cleaned holds
  · exact endCall_keeps relayed cleaned holds
  · exact holds
  · exact holds

end

/-! ### Moves -/

private theorem sends_negotiate (sound : call.Sound) (item : PeerItem) :
    call.toParts.Sends (call.negotiate item).toParts
      ((call.toParts.stateFor? item).toList.map StateReport.toText) := by
  have processed {staged : Parts} (same : staged.besidesReports = call.toParts.besidesReports) :
      call.toParts.Sends (staged.processItem item).2
        ((call.toParts.stateFor? item).toList.map StateReport.toText) := by
    have told : staged.stateFor? item = call.toParts.stateFor? item :=
      (congrArg (fun rest : Parts => rest.stateFor? item) same :)
    have connection : staged.peerConnection? = call.toParts.peerConnection? :=
      (congrArg (fun rest : Parts => rest.peerConnection?) same :)
    rw [← told]
    refine Sends.after_quiet ?_ (sentOn_of_reports same)
    unfold processItem
    cases inUse : staged.peerConnection? with
    | none =>
        have unused := sound.unused (connection.symm.trans inUse)
        exact .of_unused rfl ((congrArg (fun rest : Parts => rest.peer.adopted) same).trans unused)
    | some used => exact sends_applyItem staged used.1 used.2 item
  simp only [negotiate]
  split
  · exact processed (besidesReports_setLifecycle ..)
  · exact processed rfl

/-- A switch is told on the channel in use. -/
theorem sends_tellSwitch (call : Call) (kind : MediaKind) (enabled : Bool) :
    call.toParts.Sends ((call.switch kind enabled).toParts.sendEvent (.turned kind enabled))
      [(PeerMessage.toggle (.turned kind enabled)).toText] := by
  have switched : (call.switch kind enabled).toParts.sentOn = call.toParts.sentOn :=
    (sentOn_of_reports (call.besidesReports_switch kind enabled)).trans rfl
  exact (sends_sendToPeer _ _).after_quiet switched

/-- What was sent, as one of the things that work on the relay's side keeps. -/
theorem sentOn_keeps {sent : ChannelId → List String} {before after : Parts}
    (same : after.besidesRelay = before.besidesRelay) (holds : before.sentOn = sent) :
    after.sentOn = sent :=
  (sentOn_of_relay same).trans holds

private theorem sentOn_cleans {sent : ChannelId → List String} {current : Parts}
    (holds : current.sentOn = sent) : current.cleanUpPeer.sentOn = sent :=
  (sentOn_cleanUpPeer current).trans holds

private theorem sends_route (sound : call.Sound) (running : call.lifecycle ≠ .ended)
    (item : WorkItem) :
    call.toParts.Sends (call.route item).toParts
      ((call.message? (.item item)).toList.map PeerMessage.toText) := by
  unfold route
  rw [if_neg running]
  cases item with
  | signal signal => exact .quiet (signal_keeps sentOn_keeps rfl signal)
  | coordinator item => exact .quiet (coordinate_keeps sentOn_keeps sentOn_cleans rfl item)
  | peer item =>
      have texts : (call.message? (.item (.peer item))).toList.map PeerMessage.toText =
          (call.toParts.stateFor? item).toList.map StateReport.toText := by
        change ((call.toParts.stateFor? item).map PeerMessage.state).toList.map _ = _
        cases call.toParts.stateFor? item <;> rfl
      rw [texts]
      exact sends_negotiate sound item

private theorem sends_runTask (running : call.lifecycle ≠ .ended) (task : CallTask) :
    call.toParts.Sends (call.runTask task).toParts
      ((call.message? (.task task)).toList.map PeerMessage.toText) := by
  cases task with
  | setMic enabled =>
      rw [runTask, setMic_eq running]
      exact call.sends_tellSwitch .audio enabled
  | setVideo enabled =>
      rw [runTask, setVideo_eq running]
      exact call.sends_tellSwitch .video enabled
  | connectTimeout => exact .quiet (connectTimeout_keeps sentOn_keeps sentOn_cleans rfl)
  | endCall => exact .quiet (endCall_keeps sentOn_keeps sentOn_cleans rfl)

/-- A move sends one message at most, on the channel in use if that takes it. -/
theorem sends_move (sound : call.Sound) (move : CallMove) :
    call.toParts.Sends (call.move move).toParts
      ((call.message? move).toList.map PeerMessage.toText) := by
  -- A call that is over uses no channel, so that it is quiet whatever it would tell.
  have unheeded (finished : call.lifecycle = .ended) {after : Call}
      (same : after = call.withParts Parts.recover) (texts : List String) :
      call.toParts.Sends after.toParts texts := by
    subst same
    exact .of_unused rfl (sound.coupled.accounted.resting (sound.finished finished).1).2.2.1
  cases move with
  | item item =>
      by_cases finished : call.lifecycle = .ended
      · exact unheeded finished
          (congrArg (Call.withParts · Parts.recover) (route_of_ended finished item)) _
      · exact sends_route sound finished item
  | task task =>
      by_cases finished : call.lifecycle = .ended
      · exact unheeded finished
          (congrArg (Call.withParts · Parts.recover) (runTask_of_ended finished task)) _
      · exact sends_runTask finished task
  | event occurrence => exact .quiet (sentOn_undergo call.toParts occurrence)
  | adjust adjustment => exact .quiet (sentOn_adjust call.toParts adjustment)

end Call

end CallControl
