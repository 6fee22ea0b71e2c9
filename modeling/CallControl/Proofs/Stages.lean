import CallControl.Proofs.CleanUp

/-! # The stage of a call and its links

A call is past connecting only without its link to the relay, and it is over only when
its link to the peer was cleaned up (`Call.Sound`). The link to the relay is held with
its socket, or given up for good with the socket detached and closed, and the listeners
of the link to the peer are accounted for (`Parts.Coupled`). Every move of a call keeps
both, and no move takes it back to an earlier stage (`Call.Advances.move`).
-/

namespace CallControl

/-- A socket that is closed and tells nobody. -/
structure RelaySocket.Spent (socket : RelaySocket) : Prop where
  detached : socket.detached = true
  closed : socket.closed = true
  unobserved : socket.observer = none

/-- A spent socket stays so, whatever it reports. -/
theorem RelaySocket.Spent.after {socket : RelaySocket} (spent : socket.Spent)
    (event : SocketEvent) : (socket.after event).Spent := by
  cases event with
  | opened => exact ⟨spent.detached, spent.closed, spent.unobserved⟩
  | message text => exact spent
  | closed code reason => exact ⟨spent.detached, rfl, rfl⟩
  | error text => exact spent

namespace Parts

/-- The link to the relay holds the only socket. -/
structure RelayHeld (parts : Parts) : Prop where
  only : parts.platform.sockets.length = 1
  held : parts.relay.socket = .simulated 0
  heeding : parts.platform.hasUnheeding = false

/-- The link to the relay was given up, and the only socket with it. -/
structure RelayGone (parts : Parts) : Prop where
  spent : ∃ socket, parts.platform.sockets = [socket] ∧ socket.Spent
  absent : parts.relay.socket = .absent
  muted : parts.relay.muted = true
  heeding : parts.platform.hasUnheeding = false

/-! ## The link to the relay -/

private theorem RelayHeld.of_peer {before after : Parts}
    (same : after.besidesPeer = before.besidesPeer)
    (held : before.RelayHeld) : after.RelayHeld := by
  have erased : after.besidesPeer.RelayHeld := by
    rw [same]
    exact ⟨held.only, held.held, held.heeding⟩
  exact ⟨erased.only, erased.held, erased.heeding⟩

private theorem RelayGone.of_peer {before after : Parts}
    (same : after.besidesPeer = before.besidesPeer)
    (gone : before.RelayGone) : after.RelayGone := by
  have erased : after.besidesPeer.RelayGone := by
    rw [same]
    exact ⟨gone.spent, gone.absent, gone.muted, gone.heeding⟩
  exact ⟨erased.spent, erased.absent, erased.muted, erased.heeding⟩

/-- Reports leave alone what is not about the link to the peer. -/
theorem besidesPeer_of_reports {before after : Parts}
    (same : after.besidesReports = before.besidesReports) :
    after.besidesPeer = before.besidesPeer :=
  besidesPeer_congr (besidesChannels_congr same)

/-- A link that holds its socket holds it whatever becomes of the socket. -/
theorem RelayHeld.modifySocket {parts : Parts} (held : parts.RelayHeld) (id : SocketId)
    (change : RelaySocket → RelaySocket) : (parts.modifySocket id change).RelayHeld :=
  ⟨(List.length_modify ..).trans held.only, held.held, held.heeding⟩

private theorem RelayHeld.sendOnSocket {parts : Parts} (held : parts.RelayHeld)
    (socket : HeldSocket) (text : String) : (parts.sendOnSocket socket text).RelayHeld := by
  unfold Parts.sendOnSocket
  split
  · exact held.modifySocket _ _
  · exact held

/-- A link that holds its socket goes on holding it when it hears from it. -/
theorem RelayHeld.relayHeard {parts : Parts} (held : parts.RelayHeld) (socket : HeldSocket)
    (event : SocketEvent) : (parts.relayHeard socket event).RelayHeld := by
  cases event with
  | opened =>
      simp only [Parts.relayHeard, relayOpened, fetchToken, greet]
      split
      · refine RelayHeld.sendOnSocket ?_ socket _
        exact ⟨held.only, held.held, held.heeding⟩
      · exact ⟨held.only, held.held, held.heeding⟩
      · exact ⟨held.only, held.held, held.heeding⟩
  | message text =>
      simp only [Parts.relayHeard, relayDelivered]
      split
      · refine RelayHeld.of_peer (besidesPeer_of_reports (besidesReports_raiseFromRelay _ _)) ?_
        exact ⟨held.only, held.held, held.heeding⟩
      · exact ⟨held.only, held.held, held.heeding⟩
  | closed code reason =>
      exact held.of_peer (besidesPeer_of_reports (besidesReports_raiseFromRelay parts _))
  | error text => exact held

/-- A link that holds its socket goes on holding it when a socket reports. -/
theorem RelayHeld.socketEmits {parts : Parts} (held : parts.RelayHeld) (id : SocketId)
    (event : SocketEvent) : (parts.socketEmits id event).RelayHeld := by
  unfold Parts.socketEmits
  split
  · exact held
  · have changed := held.modifySocket id (·.after event)
    dsimp only
    split
    · exact changed
    · rename_i observer _
      cases observer with
      | link => exact changed.relayHeard _ event
      | note => exact ⟨changed.only, changed.held, changed.heeding⟩

/-- Giving up the link closes its socket without hearing of it. -/
theorem RelayHeld.cleanUpRelay {parts : Parts} (held : parts.RelayHeld) :
    parts.cleanUpRelay.RelayGone := by
  let letGo (socket : RelaySocket) : RelaySocket :=
    if socket.detach.closed then socket.detach else socket.detach.shut
  have same : parts.cleanUpRelay =
      ({ parts with relay := { parts.relay with socket := .absent, muted := true } } :
        Parts).modifySocket 0 letGo := by
    unfold Parts.cleanUpRelay
    rw [held.held]
  obtain ⟨socket, single⟩ := List.length_eq_one_iff.mp held.only
  rw [same]
  refine ⟨⟨letGo socket, congrArg (fun sockets => sockets.modify 0 letGo) single, ?_⟩, rfl, rfl,
    held.heeding⟩
  by_cases closed : socket.detach.closed = true
  · simp only [letGo, if_pos closed]
    exact ⟨rfl, closed, rfl⟩
  · simp only [letGo, if_neg closed]
    exact ⟨rfl, rfl, rfl⟩

/-- A socket that nobody observes reports to nobody. -/
theorem socketEmits_of_unobserved {parts : Parts} {id : SocketId}
    (unobserved : ∀ socket, parts.platform.sockets[id]? = some socket → socket.observer = none)
    (event : SocketEvent) : parts.socketEmits id event = parts.modifySocket id (·.after event) := by
  unfold Parts.socketEmits
  cases found : parts.platform.sockets[id]? with
  | none => exact (modifySocket_of_none found _).symm
  | some socket =>
      dsimp only
      rw [unobserved socket found]

/-- A spent socket that reports something is told of to nobody. -/
theorem RelayGone.socketEmits_eq {parts : Parts} (gone : parts.RelayGone) (id : SocketId)
    (event : SocketEvent) : parts.socketEmits id event = parts.modifySocket id (·.after event) := by
  obtain ⟨socket, single, spent⟩ := gone.spent
  refine socketEmits_of_unobserved (fun other found => ?_) event
  have member := List.mem_of_getElem? found
  rw [single] at member
  cases List.mem_singleton.mp member
  exact spent.unobserved

/-- A link that gave up its socket goes on so while spent sockets stay spent. -/
theorem RelayGone.modifySocket {parts : Parts} (gone : parts.RelayGone) (id : SocketId)
    {change : RelaySocket → RelaySocket}
    (kept : ∀ socket : RelaySocket, socket.Spent → (change socket).Spent) :
    (parts.modifySocket id change).RelayGone := by
  obtain ⟨⟨socket, single, spent⟩, absent, muted, heeding⟩ := gone
  refine ⟨?_, absent, muted, heeding⟩
  have changed : (parts.modifySocket id change).platform.sockets = [socket].modify id change :=
    congrArg (fun sockets => sockets.modify id change) single
  rw [changed]
  cases id with
  | zero => exact ⟨change socket, rfl, kept socket spent⟩
  | succ id => exact ⟨socket, by rw [List.modify_succ_cons, List.modify_nil], spent⟩

/-! ## What happens on the platform -/

/-- A call's parts, with its link to the relay held or not. -/
structure Coupled (parts : Parts) (holdsRelay : Bool) : Prop where
  accounted : parts.Accounted
  held : holdsRelay = true → parts.RelayHeld
  gone : holdsRelay = false → parts.RelayGone

namespace Coupled

variable {parts : Parts} {holdsRelay : Bool}

private theorem of_peer {after : Parts} (coupled : parts.Coupled holdsRelay)
    (same : after.besidesPeer = parts.besidesPeer) (accounted : after.Accounted) :
    after.Coupled holdsRelay :=
  ⟨accounted, fun holds => (coupled.held holds).of_peer same,
    fun lacks => (coupled.gone lacks).of_peer same⟩

/-- Reports do not matter to how a link to the relay and the holding of it agree. -/
theorem congr {after : Parts} (coupled : parts.Coupled holdsRelay)
    (same : after.besidesReports = parts.besidesReports) : after.Coupled holdsRelay :=
  coupled.of_peer (besidesPeer_of_reports same) (coupled.accounted.congr same)

private theorem socketEmits (coupled : parts.Coupled holdsRelay) (id : SocketId)
    (event : SocketEvent) :
    (parts.socketEmits id event).Coupled holdsRelay where
  accounted := coupled.accounted.of_relay (besidesRelay_socketEmits parts id event)
  held := fun holds => (coupled.held holds).socketEmits id event
  gone := fun lacks => by
    rw [(coupled.gone lacks).socketEmits_eq]
    exact (coupled.gone lacks).modifySocket id fun _ spent => spent.after event

private theorem undergo (coupled : parts.Coupled holdsRelay) (occurrence : Occurrence) :
    (parts.undergo occurrence).Coupled holdsRelay := by
  have accounted := coupled.accounted.undergo occurrence
  cases occurrence with
  | socket id event => exact (coupled.socketEmits id event).congr (besidesReports_recover _)
  | unheeding event =>
      have heeding : parts.platform.hasUnheeding = false := by
        cases holdsRelay with
        | true => exact (coupled.held rfl).heeding
        | false => exact (coupled.gone rfl).heeding
      simp only [Parts.undergo, heeding, Bool.false_eq_true, ↓reduceIte]
      exact coupled
  | connection id event =>
      exact coupled.of_peer (besidesPeer_connectionEmits parts id event) accounted
  | channelOpened id =>
      exact coupled.of_peer (besidesPeer_congr (besidesChannels_openChannelNow parts id)) accounted
  | channelMessage id text =>
      exact coupled.of_peer (besidesPeer_congr (besidesChannels_channelEmits parts id _)) accounted
  | channelClosed id =>
      exact coupled.of_peer (besidesPeer_congr (besidesChannels_closeChannel parts id)) accounted

private theorem adjust (coupled : parts.Coupled holdsRelay) (adjustment : Adjustment) :
    (parts.adjust adjustment).Coupled holdsRelay where
  accounted := coupled.accounted.adjust adjustment
  held := fun holds => by
    have held := coupled.held holds
    cases adjustment with
    | socketFails id fails => exact held.modifySocket id _
    | _ => exact ⟨held.only, held.held, held.heeding⟩
  gone := fun lacks => by
    have gone := coupled.gone lacks
    cases adjustment with
    | socketFails id fails =>
        exact gone.modifySocket id fun _ spent => ⟨spent.detached, spent.closed, spent.unobserved⟩
    | _ => exact ⟨gone.spent, gone.absent, gone.muted, gone.heeding⟩

private theorem cleanUpRelay (coupled : parts.Coupled true) : parts.cleanUpRelay.Coupled false where
  accounted := coupled.accounted.of_relay (besidesRelay_cleanUpRelay parts)
  held := fun holds => nomatch holds
  gone := fun _ => (coupled.held rfl).cleanUpRelay

private theorem sendSignal (coupled : parts.Coupled true) (signal : Signal) :
    (parts.sendSignal signal).Coupled true where
  accounted := coupled.accounted.of_relay (besidesRelay_sendSignal parts signal)
  held := fun _ => (coupled.held rfl).sendOnSocket _ _
  gone := fun lacks => nomatch lacks

end Coupled

/-- The parts of a call over the first socket of a platform of its own, without a peer
connection. -/
def overRelay (localStream : MediaStream) (tokens : TokenScript)
    (iceConfiguration : Except Failure IceConfiguration) (label url : String) : Parts :=
  let bare := bareLink localStream tokens iceConfiguration label
  { bare with
    platform := { bare.platform with sockets := [.make url .link] }
    relay := ⟨.simulated 0, false, 0⟩ }

private theorem coupled_overRelay (localStream : MediaStream) (tokens : TokenScript)
    (iceConfiguration : Except Failure IceConfiguration) (label url : String) :
    (overRelay localStream tokens iceConfiguration label url).Coupled true := by
  have accounted := Accounted.bareLink localStream tokens iceConfiguration label
  exact ⟨⟨accounted.channels, accounted.connections, accounted.resting⟩, fun _ => ⟨rfl, rfl, rfl⟩,
    fun lacks => nomatch lacks⟩

end Parts

namespace Call

open Parts

/-! ## What a call does with its parts -/

/-- Only what was written down changes when the observer is told something. -/
theorem besidesReports_tell (call : Call) (note : Note) :
    (call.tell note).toParts.besidesReports = call.toParts.besidesReports := by
  unfold tell
  split <;> rfl

/-- Another stage is only reported. -/
theorem besidesReports_setLifecycle (call : Call) (stage : Lifecycle) :
    (call.setLifecycle stage).toParts.besidesReports = call.toParts.besidesReports := by
  unfold setLifecycle
  split
  · rfl
  · exact besidesReports_tell _ _

/-- Other flags are only reported. -/
theorem besidesReports_setFlags (call : Call) (flags : CallFlags) :
    (call.setFlags flags).toParts.besidesReports = call.toParts.besidesReports := by
  unfold setFlags
  split
  · rfl
  · exact besidesReports_tell _ _

private theorem outlets_tell (call : Call) (note : Note) :
    (call.tell note).toParts.outlets = call.toParts.outlets := by
  unfold tell
  split <;> rfl

private theorem outlets_setLifecycle (call : Call) (stage : Lifecycle) :
    (call.setLifecycle stage).toParts.outlets = call.toParts.outlets := by
  unfold setLifecycle
  split
  · rfl
  · exact outlets_tell _ _

/-- The stage of a call and whether it holds its link to the relay. -/
def standing (call : Call) : Lifecycle × Bool := (call.lifecycle, call.holdsRelay)

/-- Telling the observer something changes neither the stage nor the holding. -/
theorem standing_tell (call : Call) (note : Note) : (call.tell note).standing = call.standing := by
  unfold tell
  split <;> rfl

/-- Another stage leaves the relay as it is held. -/
theorem standing_setLifecycle (call : Call) (stage : Lifecycle) :
    (call.setLifecycle stage).standing = (stage, call.holdsRelay) := by
  unfold setLifecycle
  split
  · rename_i same
    rw [← same]
    rfl
  · exact standing_tell _ _

/-- Other flags change neither the stage nor the holding. -/
theorem standing_setFlags (call : Call) (flags : CallFlags) :
    (call.setFlags flags).standing = call.standing := by
  unfold setFlags
  split
  · rfl
  · exact standing_tell _ _

/-- Giving up the relay leaves the stage as it is. -/
theorem standing_releaseRelay (call : Call) :
    call.releaseRelay.standing = (call.lifecycle, false) := by
  unfold releaseRelay
  by_cases holds : call.holdsRelay = true
  · rw [if_pos holds]
    rfl
  · rw [if_neg holds, standing, Bool.eq_false_iff.mpr holds]

/-- A call that is ended is over and holds no relay. -/
theorem standing_endCall {call : Call} (running : call.lifecycle ≠ .ended) :
    call.endCall.standing = (.ended, false) := by
  unfold endCall
  rw [if_neg running]
  dsimp only
  rw [standing_setLifecycle]
  exact congrArg (fun standing => (Lifecycle.ended, standing.2)) call.standing_releaseRelay

/-! ## One move -/

/-- The stage of a call agrees with its links. -/
structure Sound (call : Call) : Prop where
  coupled : call.toParts.Coupled call.holdsRelay
  past : 2 ≤ call.lifecycle.rank → call.holdsRelay = false
  finished : call.lifecycle = .ended → call.peer.connection = none ∧ call.toParts.Hushed

/-- What one move makes of a call that is not over. If that ends the call, the channel
in use is closed. -/
structure Advances (before after : Call) : Prop where
  sound : after.Sound
  forward : before.lifecycle.rank ≤ after.lifecycle.rank
  closes : after.lifecycle = .ended → ∀ registration,
    before.peer.adopted = some registration → after.toParts.ChannelClosed registration.channel

variable {call : Call}

/-- How the relay is held can be read off the standing of a call. -/
theorem coupled_of_standing {after : Call} {stage : Lifecycle} {holds : Bool}
    (standing : after.standing = (stage, holds)) (coupled : after.toParts.Coupled holds) :
    after.toParts.Coupled after.holdsRelay := by
  have same : after.holdsRelay = holds := congrArg Prod.snd standing
  rw [same]
  exact coupled

/-- A move after which the call is not over. -/
theorem Advances.running {after : Call} {stage : Lifecycle} {holds : Bool}
    (standing : after.standing = (stage, holds)) (coupled : after.toParts.Coupled holds)
    (running : stage ≠ .ended) (past : 2 ≤ stage.rank → holds = false)
    (forward : call.lifecycle.rank ≤ stage.rank) : call.Advances after := by
  have sameStage : after.lifecycle = stage := congrArg Prod.fst standing
  have sameHolds : after.holdsRelay = holds := congrArg Prod.snd standing
  refine ⟨⟨coupled_of_standing standing coupled, ?_, ?_⟩, ?_, ?_⟩
  · rw [sameStage, sameHolds]
    exact past
  · intro finished
    exact (running (sameStage.symm.trans finished)).elim
  · rw [sameStage]
    exact forward
  · intro finished
    exact (running (sameStage.symm.trans finished)).elim

/-- A move that concerns neither the stage nor the link to the relay. -/
theorem Advances.of_same {after : Call} (sound : call.Sound) (running : call.lifecycle ≠ .ended)
    (standing : after.standing = call.standing)
    (coupled : after.toParts.Coupled call.holdsRelay) : call.Advances after :=
  .running standing coupled running sound.past (Nat.le_refl _)

private theorem coupled_releaseRelay (coupled : call.toParts.Coupled call.holdsRelay) :
    call.releaseRelay.toParts.Coupled false := by
  unfold releaseRelay
  cases holds : call.holdsRelay with
  | true =>
      rw [holds] at coupled
      exact coupled.cleanUpRelay
  | false =>
      rw [holds] at coupled
      exact coupled

/-- Ending a call gives up both links. -/
theorem Advances.endCall (sound : call.Sound) (running : call.lifecycle ≠ .ended) :
    call.Advances call.endCall := by
  have standing := standing_endCall running
  have finished : call.endCall.lifecycle = .ended := congrArg Prod.fst standing
  have released := coupled_releaseRelay sound.coupled
  have muted : call.releaseRelay.relay.muted = true := (released.gone rfl).muted
  have shown : call.endCall.toParts.besidesReports =
      call.releaseRelay.toParts.cleanUpPeer.besidesReports := by
    unfold Call.endCall
    rw [if_neg running]
    exact besidesReports_setLifecycle _ _
  have silent : call.endCall.toParts.outlets = call.releaseRelay.toParts.cleanUpPeer.outlets := by
    unfold Call.endCall
    rw [if_neg running]
    exact outlets_setLifecycle _ _
  have coupled : call.endCall.toParts.Coupled false :=
    (released.of_peer (besidesPeer_cleanUpPeer _) released.accounted.cleanUpPeer).congr shown
  refine ⟨⟨coupled_of_standing standing coupled, fun _ => congrArg Prod.snd standing, fun _ => ?_⟩,
    ?_, fun _ => ?_⟩
  · refine ⟨?_, (hushed_cleanUpPeer muted).congr silent⟩
    exact (connection_of_channels (besidesChannels_congr shown)).trans (connection_cleanUpPeer _)
  · rw [finished]
    cases call.lifecycle <;> decide
  · intro registration used
    unfold ChannelClosed
    rw [channels_of_reports shown]
    refine released.accounted.channelClosed_cleanUpPeer ?_
    unfold releaseRelay
    split
    · have same := besidesRelay_cleanUpRelay call.toParts
      have adopted : call.toParts.cleanUpRelay.peer.adopted = call.peer.adopted :=
        (congrArg (fun rest : Parts => rest.peer.adopted) same :)
      exact adopted.trans used
    · exact used

private theorem Advances.releaseRelay (sound : call.Sound) (running : call.lifecycle ≠ .ended) :
    call.Advances call.releaseRelay :=
  .running call.standing_releaseRelay (coupled_releaseRelay sound.coupled) running (fun _ => rfl)
    (Nat.le_refl _)

private theorem Advances.setFlags (sound : call.Sound) (running : call.lifecycle ≠ .ended)
    (flags : CallFlags) : call.Advances (call.setFlags flags) :=
  .of_same sound running (call.standing_setFlags flags)
    (sound.coupled.congr (call.besidesReports_setFlags flags))

private theorem Advances.coordinate (sound : call.Sound) (running : call.lifecycle ≠ .ended)
    (item : CoordinatorItem) : call.Advances (call.coordinate item) := by
  cases item with
  | peerConnected =>
      have shown := sound.coupled.congr (call.besidesReports_setLifecycle .connected)
      have standing := call.standing_setLifecycle .connected
      have released := (call.setLifecycle .connected).standing_releaseRelay
      rw [show (call.setLifecycle .connected).lifecycle = .connected from
        congrArg Prod.fst standing] at released
      refine .running released (coupled_releaseRelay (coupled_of_standing standing shown))
        (fun same => nomatch same) (fun _ => rfl) ?_
      revert running
      cases call.lifecycle <;> decide
  | closedSignaller =>
      simp only [Call.coordinate]
      split
      · exact .releaseRelay sound running
      · exact .endCall sound running
  | peerConnectionEnded => exact .endCall sound running
  | peerStreamTrackUpdate =>
      refine .of_same sound running ((standing_setFlags _ _).trans (standing_tell _ _)) ?_
      exact sound.coupled.congr
        ((besidesReports_setFlags _ _).trans (besidesReports_tell _ _))
  | peerMicTurnedOn => exact .setFlags sound running _
  | peerMicTurnedOff => exact .setFlags sound running _
  | peerVideoTurnedOn => exact .setFlags sound running _
  | peerVideoTurnedOff => exact .setFlags sound running _

private theorem Advances.negotiate (sound : call.Sound) (running : call.lifecycle ≠ .ended)
    (item : PeerItem) : call.Advances (call.negotiate item) := by
  have processed {staged : Call} (coupled : staged.toParts.Coupled call.holdsRelay) :
      (staged.toParts.processItem item).2.Coupled call.holdsRelay :=
    coupled.of_peer (besidesPeer_processItem _ item) (coupled.accounted.processItem item)
  unfold Call.negotiate
  dsimp only
  split
  · rename_i starts
    refine .running (call.standing_setLifecycle .connecting) (processed ?_)
      (fun same => nomatch same) (fun past => ?_) ?_
    · exact sound.coupled.congr (call.besidesReports_setLifecycle .connecting)
    · exact absurd past (by decide)
    · rw [starts.1]
      decide
  · exact .of_same sound running rfl (processed sound.coupled)

private theorem Advances.signal (sound : call.Sound) (running : call.lifecycle ≠ .ended)
    (signal : Signal) : call.Advances (call.signal signal) := by
  unfold Call.signal
  split
  · rename_i holds
    refine .of_same sound running rfl ?_
    have coupled := sound.coupled
    rw [holds] at coupled ⊢
    exact coupled.sendSignal signal
  · exact .of_same sound running rfl sound.coupled

/-- Switching the microphone or the camera. -/
theorem Advances.switch (sound : call.Sound) (running : call.lifecycle ≠ .ended)
    (kind : MediaKind) (enabled : Bool) (flags : CallFlags) (event : ToggleEvent) :
    call.Advances { (call.setLocalEnabled kind enabled).setFlags flags with
      toParts :=
        ((call.setLocalEnabled kind enabled).setFlags flags).toParts.sendEvent event } := by
  have switched : (call.setLocalEnabled kind enabled).toParts.Coupled call.holdsRelay :=
    sound.coupled.adjust (.changeMedia (call.platform.localStream.setEnabled kind enabled))
  have shown := switched.congr (besidesReports_setFlags (call.setLocalEnabled kind enabled) flags)
  refine .of_same sound running (standing_setFlags (call.setLocalEnabled kind enabled) flags) ?_
  exact shown.of_peer (besidesPeer_congr (besidesChannels_sendEvent _ event))
    (shown.accounted.sendToPeer _)

private theorem Advances.runTask (sound : call.Sound) (running : call.lifecycle ≠ .ended)
    (task : CallTask) : call.Advances (call.runTask task) := by
  cases task with
  | setMic enabled =>
      simp only [Call.runTask, setMic, if_neg running]
      exact .switch sound running .audio enabled _ _
  | setVideo enabled =>
      simp only [Call.runTask, setVideo, if_neg running]
      exact .switch sound running .video enabled _ _
  | connectTimeout =>
      simp only [Call.runTask, connectTimeout]
      split
      · exact .endCall sound running
      · exact .endCall sound running
      · exact .of_same sound running rfl sound.coupled
      · exact .of_same sound running rfl sound.coupled
  | endCall => exact .endCall sound running

private theorem Advances.route (sound : call.Sound) (running : call.lifecycle ≠ .ended)
    (item : WorkItem) : call.Advances (call.route item) := by
  unfold Call.route
  rw [if_neg running]
  cases item with
  | signal signal => exact .signal sound running signal
  | peer item => exact .negotiate sound running item
  | coordinator item => exact .coordinate sound running item

private theorem Advances.recover {after : Call} (advances : call.Advances after) :
    call.Advances (after.withParts Parts.recover) where
  sound := {
    coupled := advances.sound.coupled.congr (besidesReports_recover _)
    past := advances.sound.past
    finished := advances.sound.finished }
  forward := advances.forward
  closes := advances.closes

/-- What a move makes of a call that is not over. -/
theorem Advances.move (sound : call.Sound) (running : call.lifecycle ≠ .ended)
    (move : CallMove) : call.Advances (call.move move) := by
  cases move with
  | item item => exact (Advances.route sound running item).recover
  | task task => exact (Advances.runTask sound running task).recover
  | event occurrence => exact .of_same sound running rfl (sound.coupled.undergo occurrence)
  | adjust adjustment => exact .of_same sound running rfl (sound.coupled.adjust adjustment)

/-! ## A call that is over -/

/-- A call that is over drops every item. -/
theorem route_of_ended (finished : call.lifecycle = .ended) (item : WorkItem) :
    call.route item = call := by
  unfold route
  rw [if_pos finished]

/-- A call that is over drops every task. -/
theorem runTask_of_ended (finished : call.lifecycle = .ended) (task : CallTask) :
    call.runTask task = call := by
  cases task with
  | setMic enabled => exact if_pos finished
  | setVideo enabled => exact if_pos finished
  | connectTimeout =>
      simp only [runTask, connectTimeout]
      rw [finished]
  | endCall => exact if_pos finished

/-- No move changes the stage of a call that is over. -/
theorem lifecycle_move_of_ended (finished : call.lifecycle = .ended) (move : CallMove) :
    (call.move move).lifecycle = .ended := by
  cases move with
  | item item =>
      simp only [Call.move]
      rw [route_of_ended finished]
      exact finished
  | task task =>
      simp only [Call.move]
      rw [runTask_of_ended finished]
      exact finished
  | event occurrence => exact finished
  | adjust adjustment => exact finished

private theorem Sound.recover (sound : call.Sound) : (call.withParts Parts.recover).Sound :=
  ⟨sound.coupled.congr (besidesReports_recover _), sound.past, sound.finished⟩

/-- Every move keeps a call sound. -/
theorem Sound.move (sound : call.Sound) (move : CallMove) : (call.move move).Sound := by
  by_cases finished : call.lifecycle = .ended
  · obtain ⟨absent, hushed⟩ := sound.finished finished
    cases move with
    | item item =>
        simp only [Call.move]
        rw [route_of_ended finished]
        exact sound.recover
    | task task =>
        simp only [Call.move]
        rw [runTask_of_ended finished]
        exact sound.recover
    | event occurrence =>
        refine ⟨sound.coupled.undergo occurrence, sound.past, fun _ => ⟨?_, ?_⟩⟩
        · exact (connection_undergo _ occurrence).trans absent
        · exact hushed.congr (hushed.outlets_undergo occurrence)
    | adjust adjustment =>
        refine ⟨sound.coupled.adjust adjustment, sound.past, fun _ => ⟨absent, ?_⟩⟩
        exact hushed.congr (outlets_adjust _ adjustment)
  · exact (Advances.move sound finished move).sound

/-! ## Every run -/

/-- A call begins with its link to the relay. -/
theorem Begins.holdsRelay {start : Call} (begins : start.Begins) : start.holdsRelay = true := by
  cases begins
  rfl

/-- The parts of a call that was just set up: its link to the peer has a new peer
connection or none. -/
theorem Begins.parts {start : Call} (begins : start.Begins) :
    ∃ localStream tokens iceConfiguration label url,
      let connected := Parts.overRelay localStream tokens iceConfiguration label url
      start.toParts = connected ∨ start.toParts = connected.initPeer.2 := by
  obtain ⟨silent, ready⟩ := begins
  rename_i localStream tokens iceConfiguration config line negotiates parts
  refine ⟨localStream, tokens, iceConfiguration, config.dataChannelLabel, config.lineUrl line, ?_⟩
  cases negotiates with
  | false =>
      cases ready
      exact Or.inl rfl
  | true =>
      simp only [Parts.setUp, Bool.false_eq_true, ↓reduceIte] at ready
      split at ready
      · cases ready
      · rename_i linked same
        cases same
        split at ready
        · cases ready
        · rename_i initialised
          cases ready
          exact Or.inr (congrArg Prod.snd initialised).symm

/-- A call begins ringing. -/
theorem Begins.lifecycle {start : Call} (begins : start.Begins) : start.lifecycle = .ringing := by
  cases begins
  rfl

/-- A call that was just set up agrees with its links. -/
theorem Begins.sound {start : Call} (begins : start.Begins) : start.Sound := by
  obtain ⟨localStream, tokens, iceConfiguration, label, url, setUp⟩ := begins.parts
  have connected := coupled_overRelay localStream tokens iceConfiguration label url
  have initialised := connected.of_peer (besidesPeer_initPeer _) connected.accounted.initPeer
  have ringing := begins.lifecycle
  refine ⟨?_, fun past => ?_, fun finished => nomatch ringing.symm.trans finished⟩
  · rw [begins.holdsRelay]
    rcases setUp with bare | complete
    · rw [bare]
      exact connected
    · rw [complete]
      exact initialised
  · rw [ringing] at past
    exact absurd past (by decide)

/-- Whatever happens to a call, it is sound. -/
theorem Begins.sound_run {start : Call} (begins : start.Begins) (moves : List CallMove) :
    (start.run moves).Sound :=
  run_preserves (fun _ move _ sound => sound.move move) begins.sound

/-- No move takes a call back to an earlier stage. -/
theorem Sound.forward (sound : call.Sound) (move : CallMove) :
    call.lifecycle.rank ≤ (call.move move).lifecycle.rank := by
  by_cases finished : call.lifecycle = .ended
  · have same : call.lifecycle = (call.move move).lifecycle :=
      finished.trans (lifecycle_move_of_ended finished move).symm
    exact Nat.le_of_eq (congrArg Lifecycle.rank same)
  · exact (Advances.move sound finished move).forward

/-- A call never goes back to an earlier stage. -/
theorem Sound.forward_run (sound : call.Sound) (moves : List CallMove) :
    call.lifecycle.rank ≤ (call.run moves).lifecycle.rank := by
  induction moves generalizing call with
  | nil => exact Nat.le_refl _
  | cons move rest ih => exact Nat.le_trans (sound.forward move) (ih (sound.move move))

end Call

end CallControl
