import CallControl.Proofs.Attention
import CallControl.Proofs.Stages

/-! # How a call goes on

What a move does to a call that is not over is said once. Either it is one of the moves
that end the call (`Call.ends`), or the call goes on: its stage, whether the path to the
peer works, and the items that are raised can all be told from the move
(`Call.Ready.proceeds`). What reaches the coordinator of such a call comes from few
sources (`Call.Ready.mem_reports`).
-/

namespace CallControl

/-- What may make the links of a call raise an item for the coordinator. -/
def CoordinatorItem.comesFrom (id : ConnectionId) : CoordinatorItem → Occurrence → Bool
  | .closedSignaller, .socket _ (.closed _ _) => true
  | .closedSignaller, .unheeding (.closed _ _) => true
  | .closedSignaller, .connection target (.iceState .completed) => target == id
  | .peerConnected, .connection target (.iceState .connected) => target == id
  | .peerConnectionEnded, .connection target (.iceState .disconnected) => target == id
  | .peerConnectionEnded, .connection target (.iceState .closed) => target == id
  | .peerStreamTrackUpdate, .connection target (.track _) => target == id
  | .peerMicTurnedOn, .channelMessage _ _ => true
  | .peerMicTurnedOff, .channelMessage _ _ => true
  | .peerVideoTurnedOn, .channelMessage _ _ => true
  | .peerVideoTurnedOff, .channelMessage _ _ => true
  | _, _ => false

namespace CoordinatorItem

variable {id : ConnectionId} {occurrence : Occurrence}

/-- That the peer is connected comes from its path being reported so. -/
theorem peerConnected_comesFrom (comes : peerConnected.comesFrom id occurrence = true) :
    occurrence = .connection id (.iceState .connected) := by
  cases occurrence with
  | connection target event =>
      cases event with
      | iceState state =>
          cases state with
          | connected => rw [eq_of_beq comes]
          | _ => cases comes
      | _ => cases comes
  | _ => cases comes

/-- That the peer connection ended comes from its path being reported disconnected or closed. -/
theorem peerConnectionEnded_comesFrom (comes : peerConnectionEnded.comesFrom id occurrence = true) :
    occurrence = .connection id (.iceState .disconnected) ∨
      occurrence = .connection id (.iceState .closed) := by
  cases occurrence with
  | connection target event =>
      cases event with
      | iceState state =>
          cases state with
          | disconnected => exact Or.inl (by rw [eq_of_beq comes])
          | closed => exact Or.inr (by rw [eq_of_beq comes])
          | _ => cases comes
      | _ => cases comes
  | _ => cases comes

/-- Two different things make the relay count as closed. -/
theorem closedSignaller_comesFrom (comes : closedSignaller.comesFrom id occurrence = true) :
    (∃ socket code reason, occurrence = .socket socket (.closed code reason)) ∨
      (∃ code reason, occurrence = .unheeding (.closed code reason)) ∨
      occurrence = .connection id (.iceState .completed) := by
  cases occurrence with
  | socket socket event =>
      cases event with
      | closed code reason => exact Or.inl ⟨socket, code, reason, rfl⟩
      | _ => cases comes
  | unheeding event =>
      cases event with
      | closed code reason => exact Or.inr (Or.inl ⟨code, reason, rfl⟩)
      | _ => cases comes
  | connection target event =>
      cases event with
      | iceState state =>
          cases state with
          | completed => exact Or.inr (Or.inr (by rw [eq_of_beq comes]))
          | _ => cases comes
      | _ => cases comes
  | _ => cases comes

end CoordinatorItem

/-- Nothing on a data channel concerns the state of the call. -/
theorem PeerMessage.comesFrom_of_mem_asks {text : String} {item : CoordinatorItem}
    (member : .coordinator item ∈ asks text) (id : ConnectionId) (channel : ChannelId) :
    item.comesFrom id (.channelMessage channel text) = true := by
  have toggled (event : ToggleEvent) :
      event.report.comesFrom id (.channelMessage channel text) = true := by
    cases event <;> rfl
  unfold asks at member
  cases parsed : parse? text with
  | none =>
      rw [parsed] at member
      cases member
  | some message =>
      rw [parsed] at member
      cases message with
      | toggle event =>
          cases List.mem_singleton.mp member
          exact toggled event
      | state report =>
          rcases List.mem_append.mp member with asked | told
          · split at asked
            · cases List.mem_singleton.mp asked
            · cases asked
          · rcases List.mem_cons.mp told with same | rest
            · cases same
              exact toggled _
            · cases List.mem_singleton.mp rest
              exact toggled _

namespace Parts

/-- Some items were raised, and a link hears as much of its peer connection as before and
thinks the same of its path. -/
structure Keeps (before after : Parts) (id : ConnectionId) (items : List WorkItem) : Prop where
  raises : before.Raises after items
  attentive : after.Attentive id
  connected : after.peer.connected = before.peer.connected

namespace Keeps

variable {before after : Parts} {id : ConnectionId}

private theorem of_channels (calm : before.Calm) (attentive : before.Attentive id)
    (quiet : after.voice = before.voice) (same : after.besidesChannels = before.besidesChannels) :
    before.Keeps after id [] :=
  ⟨raises_of_voice calm quiet, attentive.of_channels same, connected_of_channels same⟩

private theorem of_relay (calm : before.Calm) (attentive : before.Attentive id)
    (quiet : after.voice = before.voice) (same : after.besidesRelay = before.besidesRelay) :
    before.Keeps after id [] :=
  ⟨raises_of_voice calm quiet, attentive.of_relay same, connected_of_relay same⟩

private theorem refl (calm : before.Calm) (attentive : before.Attentive id) :
    before.Keeps before id [] :=
  ⟨.refl calm, attentive, rfl⟩

private theorem trans {between : Parts} {items more : List WorkItem}
    (earlier : before.Keeps between id items) (later : between.Keeps after id more) :
    before.Keeps after id (items ++ more) :=
  ⟨earlier.raises.trans later.raises, later.attentive, later.connected.trans earlier.connected⟩

private theorem recover {items : List WorkItem} (keeps : before.Keeps after id items) :
    before.Keeps after.recover id items :=
  ⟨keeps.raises.recover, keeps.attentive, keeps.connected⟩

/-- An item handled by the link to the peer. -/
theorem processItem (calm : before.Calm) (attentive : before.Attentive id) (item : PeerItem) :
    before.Keeps (before.processItem item).2 id ((before.tells item).map .signal) where
  raises := raises_processItem calm item
  attentive := attentive.processItem item
  connected := by
    have same := besidesNegotiation_processItem before item
    exact (congrArg (fun rest : Parts => rest.peer.connected) same :)

end Keeps

/-- Reports do not matter to what an item tells. -/
theorem tells_of_reports {before after : Parts}
    (same : after.besidesReports = before.besidesReports) (item : PeerItem) :
    after.tells item = before.tells item :=
  (congrArg (fun rest : Parts => rest.tells item) same :)

end Parts

namespace Call

open Parts

/-- Telling the observer something raises nothing. -/
theorem voice_tell (call : Call) (note : Note) :
    (call.tell note).toParts.voice = call.toParts.voice := by
  unfold tell
  split <;> rfl

/-- Another stage raises nothing. -/
theorem voice_setLifecycle (call : Call) (stage : Lifecycle) :
    (call.setLifecycle stage).toParts.voice = call.toParts.voice := by
  unfold setLifecycle
  split
  · rfl
  · exact voice_tell _ _

/-- Other flags raise nothing. -/
theorem voice_setFlags (call : Call) (flags : CallFlags) :
    (call.setFlags flags).toParts.voice = call.toParts.voice := by
  unfold setFlags
  split
  · rfl
  · exact voice_tell _ _

/-! ## What a move may do -/

/-- The moves that end a call. -/
def ends (call : Call) : CallMove → Bool
  | .item (.coordinator .closedSignaller) => !call.peer.connected
  | .item (.coordinator .peerConnectionEnded) => true
  | .task .connectTimeout => call.lifecycle != .connected
  | .task .endCall => true
  | _ => false

/-- The stage after a move that does not end a call. -/
def stageAfter (call : Call) : CallMove → Lifecycle
  | .item (.coordinator .peerConnected) => .connected
  | .item (.peer item) =>
      if call.lifecycle = .ringing ∧ showsPeer item = true then .connecting else call.lifecycle
  | _ => call.lifecycle

/-- Whether the path works after a move that does not end a call. -/
def connectedAfter (call : Call) (id : ConnectionId) : CallMove → Bool
  | .event (.connection target event) =>
      if target = id then event.connectedAfter call.peer.connected else call.peer.connected
  | _ => call.peer.connected

/-- The items that are raised by a move that does not end a call. -/
def raisedBy (call : Call) : CallMove → List WorkItem
  | .item (.peer item) => (call.toParts.tells item).map .signal
  | .event occurrence => call.toParts.reports occurrence
  | _ => []

/-- A call that is not over, hears its peer connection, and loses nothing that is
raised. -/
structure Ready (call : Call) (id : ConnectionId) : Prop where
  sound : call.Sound
  running : call.lifecycle ≠ .ended
  calm : call.toParts.Calm
  attentive : call.toParts.Attentive id

/-- How a call went on in a move. -/
structure Proceeds (before after : Call) (id : ConnectionId) (move : CallMove) : Prop where
  ready : after.Ready id
  stage : after.lifecycle = before.stageAfter move
  connected : after.peer.connected = before.connectedAfter id move
  raises : before.toParts.Raises after.toParts (before.raisedBy move)

private theorem stageAfter_ne_ended {call : Call} (running : call.lifecycle ≠ .ended)
    (move : CallMove) :
    call.stageAfter move ≠ .ended := by
  unfold stageAfter
  split
  · exact nofun
  · split
    · exact nofun
    · exact running
  · exact running

namespace Ready

variable {call : Call} {id : ConnectionId}

/-! ## The pieces of a move -/

private theorem keeps_of_reports {after : Call} (ready : call.Ready id)
    (quiet : after.toParts.voice = call.toParts.voice)
    (same : after.toParts.besidesReports = call.toParts.besidesReports) :
    call.toParts.Keeps after.toParts id [] :=
  .of_channels ready.calm ready.attentive quiet (besidesChannels_congr same)

private theorem keeps_setLifecycle (ready : call.Ready id) (stage : Lifecycle) :
    call.toParts.Keeps (call.setLifecycle stage).toParts id [] :=
  ready.keeps_of_reports (call.voice_setLifecycle stage) (call.besidesReports_setLifecycle stage)

private theorem keeps_setFlags (ready : call.Ready id) (flags : CallFlags) :
    call.toParts.Keeps (call.setFlags flags).toParts id [] :=
  ready.keeps_of_reports (call.voice_setFlags flags) (call.besidesReports_setFlags flags)

private theorem keeps_releaseRelay {call : Call} (calm : call.toParts.Calm)
    (attentive : call.toParts.Attentive id) :
    call.toParts.Keeps call.releaseRelay.toParts id [] := by
  unfold Call.releaseRelay
  split
  · exact .of_relay calm attentive (voice_cleanUpRelay call.toParts)
      (besidesRelay_cleanUpRelay call.toParts)
  · exact .refl calm attentive

private theorem keeps_signal (ready : call.Ready id) (signal : Signal) :
    call.toParts.Keeps (call.signal signal).toParts id [] := by
  unfold Call.signal
  split
  · exact .of_relay ready.calm ready.attentive (voice_sendOnSocket ..)
      (besidesRelay_sendSignal call.toParts signal)
  · exact .refl ready.calm ready.attentive

private theorem keeps_negotiate (ready : call.Ready id) (item : PeerItem) :
    call.toParts.Keeps (call.negotiate item).toParts id
      ((call.toParts.tells item).map .signal) := by
  have processed {staged : Call} (staging : call.toParts.Keeps staged.toParts id [])
      (same : staged.toParts.besidesReports = call.toParts.besidesReports) :
      call.toParts.Keeps (staged.toParts.processItem item).2 id
        ((call.toParts.tells item).map .signal) := by
    rw [← tells_of_reports same]
    exact staging.trans (.processItem staging.raises.calm staging.attentive item)
  unfold Call.negotiate
  dsimp only
  split
  · exact processed (ready.keeps_setLifecycle .connecting)
      (call.besidesReports_setLifecycle .connecting)
  · exact processed (.refl ready.calm ready.attentive) rfl

private theorem keeps_coordinate (ready : call.Ready id) {item : CoordinatorItem}
    (goes : call.ends (.item (.coordinator item)) = false) :
    call.toParts.Keeps (call.coordinate item).toParts id [] := by
  cases item with
  | peerConnected =>
      have staged := ready.keeps_setLifecycle .connected
      exact staged.trans (keeps_releaseRelay staged.raises.calm staged.attentive)
  | closedSignaller =>
      have works : call.peer.connected = true := by
        simpa only [Call.ends, Bool.not_eq_false'] using goes
      simp only [Call.coordinate]
      rw [if_pos works]
      exact keeps_releaseRelay ready.calm ready.attentive
  | peerConnectionEnded => cases goes
  | peerStreamTrackUpdate =>
      refine ready.keeps_of_reports ?_ ?_
      · exact (voice_setFlags _ _).trans (voice_tell _ _)
      · exact (besidesReports_setFlags _ _).trans (besidesReports_tell _ _)
  | peerMicTurnedOn => exact ready.keeps_setFlags _
  | peerMicTurnedOff => exact ready.keeps_setFlags _
  | peerVideoTurnedOn => exact ready.keeps_setFlags _
  | peerVideoTurnedOff => exact ready.keeps_setFlags _

/-- The microphone or the camera is switched, and the peer is told. -/
theorem keeps_switch (ready : call.Ready id) (kind : MediaKind) (enabled : Bool)
    (flags : CallFlags) (event : ToggleEvent) :
    call.toParts.Keeps
      (((call.setLocalEnabled kind enabled).setFlags flags).toParts.sendEvent event) id [] := by
  let switched := call.setLocalEnabled kind enabled
  have calm : switched.toParts.Calm :=
    ⟨ready.calm.passing, ready.calm.untrapped, ready.calm.uncrashed⟩
  have attentive : switched.toParts.Attentive id := ready.attentive
  have shown : switched.toParts.Keeps (switched.setFlags flags).toParts id [] :=
    .of_channels calm attentive (voice_setFlags _ _)
      (besidesChannels_congr (besidesReports_setFlags _ _))
  have told := shown.trans (.of_channels shown.raises.calm shown.attentive
    (voice_sendToPeer _ event.name) (besidesChannels_sendToPeer _ event.name))
  exact ⟨⟨told.raises.dispatched, told.raises.calm⟩, told.attentive, told.connected⟩

/-! ## Moves that end the call, and moves in which it goes on -/

/-- An item that ends a call does nothing else. -/
theorem route_of_ends (ready : call.Ready id) {item : WorkItem}
    (ends : call.ends (.item item) = true) : call.route item = call.endCall := by
  unfold Call.route
  rw [if_neg ready.running]
  cases item with
  | signal signal => cases ends
  | peer item => cases ends
  | coordinator item =>
      cases item with
      | closedSignaller =>
          have broken : call.peer.connected = false := by
            simpa only [Call.ends, Bool.not_eq_true'] using ends
          exact if_neg (Bool.eq_false_iff.mp broken)
      | peerConnectionEnded => rfl
      | _ => cases ends

/-- A task that ends a call does nothing else. -/
theorem runTask_of_ends (ready : call.Ready id) {task : CallTask}
    (ends : call.ends (.task task) = true) : call.runTask task = call.endCall := by
  cases task with
  | connectTimeout =>
      have early : call.lifecycle ≠ .connected := by
        simpa only [Call.ends, bne_iff_ne] using ends
      simp only [Call.runTask, Call.connectTimeout]
      split
      · rfl
      · rfl
      · rename_i reached
        exact (early reached).elim
      · rename_i ended
        exact (ready.running ended).elim
  | endCall => rfl
  | setMic enabled => cases ends
  | setVideo enabled => cases ends

/-- The moves that end a call do so. -/
theorem ended_of_ends (ready : call.Ready id) {move : CallMove} (ends : call.ends move = true) :
    (call.move move).lifecycle = .ended := by
  have ended : call.endCall.lifecycle = .ended :=
    congrArg Prod.fst (standing_endCall ready.running)
  cases move with
  | item item =>
      simp only [Call.move, ready.route_of_ends ends]
      exact ended
  | task task =>
      simp only [Call.move, ready.runTask_of_ends ends]
      exact ended
  | event occurrence => cases ends
  | adjust adjustment => cases ends

/-- An item that does not end the call. -/
theorem keeps_route (ready : call.Ready id) {item : WorkItem}
    (goes : call.ends (.item item) = false) :
    call.toParts.Keeps (call.route item).toParts id (call.raisedBy (.item item)) := by
  unfold Call.route
  rw [if_neg ready.running]
  cases item with
  | signal signal => exact ready.keeps_signal signal
  | peer item => exact ready.keeps_negotiate item
  | coordinator item => exact ready.keeps_coordinate goes

/-- The timeout of a call that has connected does nothing. -/
theorem connectTimeout_of_goes (goes : call.ends (.task .connectTimeout) = false) :
    call.connectTimeout = call := by
  have reached : call.lifecycle = .connected := by
    simpa only [Call.ends, bne_eq_false_iff_eq] using goes
  unfold Call.connectTimeout
  rw [reached]

/-- A task that does not end the call. -/
theorem keeps_runTask (ready : call.Ready id) {task : CallTask}
    (goes : call.ends (.task task) = false) :
    call.toParts.Keeps (call.runTask task).toParts id [] := by
  cases task with
  | setMic enabled =>
      simp only [Call.runTask, Call.setMic, if_neg ready.running]
      exact ready.keeps_switch .audio enabled _ _
  | setVideo enabled =>
      simp only [Call.runTask, Call.setVideo, if_neg ready.running]
      exact ready.keeps_switch .video enabled _ _
  | connectTimeout =>
      simp only [Call.runTask, connectTimeout_of_goes goes]
      exact .refl ready.calm ready.attentive
  | endCall => cases goes

/-- A move that keeps the link to the peer as attentive as it is. -/
theorem proceeds_of_keeps (ready : call.Ready id) {move : CallMove}
    (stage : (call.move move).lifecycle = call.stageAfter move)
    (keeps : call.toParts.Keeps (call.move move).toParts id (call.raisedBy move))
    (connected : call.connectedAfter id move = call.peer.connected) :
    call.Proceeds (call.move move) id move where
  ready := {
    sound := ready.sound.move move
    running := by
      rw [stage]
      exact stageAfter_ne_ended ready.running move
    calm := keeps.raises.calm
    attentive := keeps.attentive }
  stage := stage
  connected := keeps.connected.trans connected.symm
  raises := keeps.raises

private theorem stage_route (ready : call.Ready id) {item : WorkItem}
    (goes : call.ends (.item item) = false) :
    (call.route item).lifecycle = call.stageAfter (.item item) := by
  have staged (flags : CallFlags) (current : Call) :
      (current.setFlags flags).lifecycle = current.lifecycle :=
    congrArg Prod.fst (standing_setFlags current flags)
  unfold Call.route
  rw [if_neg ready.running]
  cases item with
  | signal signal =>
      simp only [Call.signal]
      split <;> rfl
  | peer item =>
      simp only [Call.negotiate, stageAfter]
      split
      · exact congrArg Prod.fst (standing_setLifecycle call .connecting)
      · rfl
  | coordinator item =>
      cases item with
      | peerConnected =>
          refine (congrArg Prod.fst (standing_releaseRelay _)).trans ?_
          exact congrArg Prod.fst (standing_setLifecycle call .connected)
      | closedSignaller =>
          have works : call.peer.connected = true := by
            simpa only [Call.ends, Bool.not_eq_false'] using goes
          simp only [Call.coordinate]
          rw [if_pos works]
          exact congrArg Prod.fst call.standing_releaseRelay
      | peerConnectionEnded => cases goes
      | peerStreamTrackUpdate =>
          exact (staged _ _).trans (congrArg Prod.fst (standing_tell call _))
      | peerMicTurnedOn => exact staged _ call
      | peerMicTurnedOff => exact staged _ call
      | peerVideoTurnedOn => exact staged _ call
      | peerVideoTurnedOff => exact staged _ call

private theorem stage_runTask (ready : call.Ready id) {task : CallTask}
    (goes : call.ends (.task task) = false) :
    (call.runTask task).lifecycle = call.lifecycle := by
  cases task with
  | setMic enabled =>
      simp only [Call.runTask, Call.setMic, if_neg ready.running]
      exact congrArg Prod.fst (standing_setFlags (call.setLocalEnabled .audio enabled) _)
  | setVideo enabled =>
      simp only [Call.runTask, Call.setVideo, if_neg ready.running]
      exact congrArg Prod.fst (standing_setFlags (call.setLocalEnabled .video enabled) _)
  | connectTimeout => exact congrArg Call.lifecycle (connectTimeout_of_goes goes)
  | endCall => cases goes

/-- A move that does not end a call lets it go on. -/
theorem proceeds (ready : call.Ready id) {move : CallMove} (goes : call.ends move = false)
    (unarmed : ∀ traps, move ≠ .adjust (.trap traps)) : call.Proceeds (call.move move) id move := by
  cases move with
  | item item =>
      exact ready.proceeds_of_keeps (ready.stage_route goes) (ready.keeps_route goes).recover rfl
  | task task =>
      exact ready.proceeds_of_keeps (ready.stage_runTask goes) (ready.keeps_runTask goes).recover
        rfl
  | event occurrence =>
      have raises := raises_undergo ready.calm occurrence
      have accounted := ready.sound.coupled.accounted
      refine ⟨⟨ready.sound.move _, ready.running, raises.calm, ready.attentive.undergo occurrence⟩,
        rfl, ?_, raises⟩
      refine (ready.attentive.connected_undergo accounted ready.calm occurrence).trans ?_
      cases occurrence <;> rfl
  | adjust adjustment =>
      have quiet : (call.toParts.adjust adjustment).voice = call.toParts.voice :=
        voice_adjust call.toParts fun traps same =>
          unarmed traps (congrArg CallMove.adjust same)
      refine ready.proceeds_of_keeps rfl ?_ rfl
      exact ⟨raises_of_voice ready.calm quiet, ready.attentive.adjust adjustment, rfl⟩

/-! ## Where the items for the coordinator come from -/

/-- An item for the coordinator comes from the occurrence that reports it. -/
theorem mem_reports (ready : call.Ready id) {item : CoordinatorItem} {occurrence : Occurrence}
    (member : .coordinator item ∈ call.toParts.reports occurrence) :
    item.comesFrom id occurrence = true := by
  -- Of the relay's events only the closing of its socket raises an item for the coordinator.
  have relayed {event : SocketEvent} (raised : .coordinator item ∈ call.relay.lets event.asks) :
      item = .closedSignaller ∧ ∃ code reason, event = .closed code reason := by
    unfold RelayLink.lets at raised
    split at raised
    · cases raised
    · cases event with
      | opened => cases raised
      | message text =>
          obtain ⟨_, _, same⟩ := List.mem_map.mp raised
          cases same
      | closed code reason =>
          cases List.mem_singleton.mp raised
          exact ⟨rfl, code, reason, rfl⟩
      | error text => cases raised
  cases occurrence with
  | socket socket event =>
      simp only [reports, socketReports] at member
      split at member
      · obtain ⟨rfl, code, reason, rfl⟩ := relayed member
        rfl
      · cases member
  | unheeding event =>
      simp only [reports] at member
      split at member
      · obtain ⟨rfl, code, reason, rfl⟩ := relayed member
        rfl
      · cases member
  | connection target event =>
      rw [ready.attentive.reports_connection ready.sound.coupled.accounted] at member
      split at member
      · rename_i same
        subst same
        cases event with
        | negotiationNeeded => cases List.mem_singleton.mp member
        | iceCandidate candidate =>
            obtain ⟨_, _, same⟩ := List.mem_map.mp member
            cases same
        | track track =>
            cases List.mem_singleton.mp member
            exact beq_self_eq_true target
        | iceState state =>
            cases state with
            | new => cases member
            | checking => cases member
            | failed => cases member
            | _ =>
                cases List.mem_singleton.mp member
                exact beq_self_eq_true target
        | dataChannel channel =>
            simp only [hears] at member
            split at member
            · cases List.mem_singleton.mp member
            · cases member
      · cases member
  | channelOpened channel =>
      obtain ⟨role, _, raised⟩ := List.mem_flatMap.mp member
      cases role with
      | awaitOpen => cases List.mem_singleton.mp raised
      | peerMessages => cases raised
      | note => cases raised
  | channelMessage channel text =>
      obtain ⟨role, _, raised⟩ := List.mem_flatMap.mp member
      cases role with
      | awaitOpen => cases raised
      | peerMessages => exact PeerMessage.comesFrom_of_mem_asks raised id channel
      | note => cases raised
  | channelClosed channel => cases member

/-- A state of the path that the coordinator is told of. -/
theorem mem_reports_iceState (ready : call.Ready id) {state : IceState} {item : CoordinatorItem}
    (report : PeerLink.pathReport? state = some item) :
    .coordinator item ∈ call.toParts.reports (.connection id (.iceState state)) := by
  rw [ready.attentive.reports_connection ready.sound.coupled.accounted, if_pos rfl]
  simp only [hears, report, Option.toList_some, List.map_cons, List.map_nil, List.mem_singleton]

/-- Whatever is raised for the coordinator comes from what happens on the platform. -/
theorem mem_raisedBy (ready : call.Ready id) {move : CallMove} {item : CoordinatorItem}
    (member : .coordinator item ∈ call.raisedBy move) :
    ∃ occurrence, move = .event occurrence ∧ item.comesFrom id occurrence = true := by
  cases move with
  | item handled =>
      cases handled with
      | peer handled =>
          obtain ⟨_, _, same⟩ := List.mem_map.mp member
          cases same
      | signal signal => cases member
      | coordinator handled => cases member
  | task task => cases member
  | event occurrence => exact ⟨occurrence, rfl, ready.mem_reports member⟩
  | adjust adjustment => cases member

end Ready

/-! ## The beginning -/

private theorem connected_initPeer (parts : Parts) :
    parts.initPeer.2.peer.connected = parts.peer.connected :=
  initPeer_eq (·.peer.connected) fun _ => rfl

/-- A call begins without a working path. -/
theorem Begins.unconnected {start : Call} (begins : start.Begins) :
    start.peer.connected = false := by
  obtain ⟨localStream, tokens, iceConfiguration, label, url, bare | complete⟩ := begins.parts
  · rw [bare]
    rfl
  · rw [complete, connected_initPeer]
    rfl

/-- A call that was just set up with a peer connection is ready. -/
theorem Begins.ready {start : Call} (begins : start.Begins) {id : ConnectionId}
    (initialised : start.peer.connection = some id) : start.Ready id := by
  obtain ⟨localStream, tokens, iceConfiguration, label, url, setUp⟩ := begins.parts
  let connected := Parts.overRelay localStream tokens iceConfiguration label url
  have calm : connected.Calm := ⟨rfl, rfl, rfl⟩
  have complete : start.toParts = connected.initPeer.2 := by
    rcases setUp with bare | complete
    · rw [bare] at initialised
      cases initialised
    · exact complete
  refine ⟨begins.sound, ?_, ?_, ?_⟩
  · rw [begins.lifecycle]
    exact nofun
  · rw [complete]
    exact (raises_of_voice calm (voice_initPeer connected)).calm
  · rw [complete] at initialised ⊢
    exact .initPeer rfl initialised

end Call

end CallControl
