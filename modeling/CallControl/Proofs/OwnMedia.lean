import CallControl.Proofs.Stages

/-! # The microphone and the camera of this side

A call shows its own microphone and camera as its local tracks have them, and while it
uses a peer connection the tracks are handed over to it. As long as the local tracks are
switched through the call only, this is so after every run (`Call.Begins.attuned_run`).
-/

namespace CallControl

/-- Switching tracks makes none of another kind. -/
theorem MediaStream.hasKind_setEnabled (stream : MediaStream) (kind other : MediaKind)
    (enabled : Bool) : (stream.setEnabled kind enabled).hasKind other = stream.hasKind other := by
  unfold setEnabled hasKind
  rw [List.any_map]
  congr 1
  funext track
  simp only [Function.comp_apply]
  split <;> rfl

/-- The flag of a kind of local track. -/
def CallFlags.own (flags : CallFlags) : MediaKind → Bool
  | .audio => flags.myMic
  | .video => flags.myVideo

/-- The flags after a kind of local track was switched. -/
def CallFlags.turn (flags : CallFlags) (kind : MediaKind) (enabled : Bool) : CallFlags :=
  match kind with
  | .audio => { flags with myMic := enabled }
  | .video => { flags with myVideo := enabled }

/-- A switch of a kind changes the own flag of that kind only. -/
theorem CallFlags.own_turn (flags : CallFlags) (kind : MediaKind) (enabled : Bool) :
    (flags.turn kind enabled).own = Function.update flags.own kind enabled := by
  funext other
  cases kind <;> cases other <;> rfl

/-- The event of a kind of local track switched on or off. -/
def ToggleEvent.turned : MediaKind → Bool → ToggleEvent
  | .audio, enabled => .mic enabled
  | .video, enabled => .video enabled

/-- The local tracks, and the peer connection that they are sent over. -/
structure OwnMedia where
  stream : MediaStream
  connection : Option ConnectionId
  handedOver : Bool

namespace Parts

/-- The local tracks of a call's parts, and whether they are handed to its peer connection. -/
def ownMedia (parts : Parts) : OwnMedia :=
  ⟨parts.platform.localStream, parts.peer.connection, parts.peer.sendsLocalMedia⟩

/-- What happens to channels leaves the own media alone. -/
theorem ownMedia_of_channels {before after : Parts}
    (same : after.besidesChannels = before.besidesChannels) : after.ownMedia = before.ownMedia :=
  (congrArg (fun rest : Parts => rest.ownMedia) same :)

/-- Reports leave the own media alone. -/
theorem ownMedia_of_reports {before after : Parts}
    (same : after.besidesReports = before.besidesReports) : after.ownMedia = before.ownMedia :=
  ownMedia_of_channels (besidesChannels_congr same)

/-- What happens to the relay leaves the own media alone. -/
theorem ownMedia_of_relay {before after : Parts}
    (same : after.besidesRelay = before.besidesRelay) : after.ownMedia = before.ownMedia :=
  (congrArg (fun rest : Parts => rest.ownMedia) same :)

/-- An item for the link to the peer leaves the own media alone. -/
theorem ownMedia_processItem (parts : Parts) (item : PeerItem) :
    (parts.processItem item).2.ownMedia = parts.ownMedia :=
  (congrArg (fun rest : Parts => rest.ownMedia) (besidesNegotiation_processItem parts item) :)

private theorem ownMedia_peerHeard (parts : Parts) (event : ConnectionEvent) :
    (parts.peerHeard event).ownMedia = parts.ownMedia :=
  peerHeard_eq ownMedia
    (fun current item => ownMedia_of_reports (besidesReports_raiseFromPeer current item))
    (fun current id => ownMedia_of_channels (besidesChannels_channelAnnounced current id))
    (fun _ _ _ => rfl) parts event

/-- Nothing that happens on the platform switches a local track. -/
theorem ownMedia_undergo (parts : Parts) (occurrence : Occurrence) :
    (parts.undergo occurrence).ownMedia = parts.ownMedia :=
  undergo_eq ownMedia ownMedia_of_relay
    (fun current _ event => connectionEmits_eq ownMedia (fun _ => rfl)
      (fun current => ownMedia_peerHeard current event) (fun _ => rfl) current)
    (fun _ _ => ownMedia_of_channels (besidesChannels_openChannelNow ..))
    (fun _ _ _ => ownMedia_of_channels (besidesChannels_channelEmits ..))
    (fun _ _ => ownMedia_of_channels (besidesChannels_closeChannel ..)) parts occurrence

/-- Changes that nobody is told of switch no local track, unless they replace the tracks. -/
theorem ownMedia_adjust (parts : Parts) {adjustment : Adjustment}
    (unswapped : ∀ localStream, adjustment ≠ .changeMedia localStream) :
    (parts.adjust adjustment).ownMedia = parts.ownMedia := by
  cases adjustment with
  | changeMedia localStream => exact (unswapped localStream rfl).elim
  | _ => rfl

/-- Cleaning up lets go of the peer connection only. -/
theorem ownMedia_cleanUpPeer (parts : Parts) :
    parts.cleanUpPeer.platform.localStream = parts.platform.localStream ∧
      parts.cleanUpPeer.peer.connection = none :=
  ⟨(congrArg (fun rest : Parts => rest.platform.localStream) (besidesPeer_cleanUpPeer parts) :),
    connection_cleanUpPeer parts⟩

end Parts

namespace Call

open Parts

/-- A call shows its own microphone and camera as its local tracks have them, if it has any,
and its local tracks are handed to the peer connection that it uses. -/
structure Attuned (call : Call) : Prop where
  handed : ∀ id, call.peer.connection = some id → call.peer.sendsLocalMedia = true
  shown : ∀ kind, call.platform.localStream.hasKind kind = true →
    call.flags.own kind = call.platform.localStream.hasEnabled kind

/-- Telling the observer something changes no flag. -/
theorem flags_tell (call : Call) (note : Note) : (call.tell note).flags = call.flags := by
  unfold tell
  split <;> rfl

/-- Another stage changes no flag. -/
theorem flags_setLifecycle (call : Call) (stage : Lifecycle) :
    (call.setLifecycle stage).flags = call.flags := by
  unfold setLifecycle
  split
  · rfl
  · exact flags_tell _ _

/-- The flags that are set are shown. -/
theorem flags_setFlags (call : Call) (flags : CallFlags) : (call.setFlags flags).flags = flags := by
  unfold setFlags
  split
  · rename_i same
    exact same
  · exact flags_tell _ _

/-- Giving up the relay changes no flag. -/
theorem flags_releaseRelay (call : Call) : call.releaseRelay.flags = call.flags := by
  unfold releaseRelay
  split <;> rfl

/-- The call with its local tracks of a kind switched, and with that shown. -/
def switch (call : Call) (kind : MediaKind) (enabled : Bool) : Call :=
  (call.setLocalEnabled kind enabled).setFlags (call.flags.turn kind enabled)

/-- A running call that is asked to switch its microphone does so and tells its peer. -/
theorem setMic_eq {call : Call} (running : call.lifecycle ≠ .ended) (enabled : Bool) :
    call.setMic enabled = { call.switch .audio enabled with
      toParts := (call.switch .audio enabled).toParts.sendEvent (.turned .audio enabled) } :=
  if_neg running

/-- A running call that is asked to switch its camera does so and tells its peer. -/
theorem setVideo_eq {call : Call} (running : call.lifecycle ≠ .ended) (enabled : Bool) :
    call.setVideo enabled = { call.switch .video enabled with
      toParts := (call.switch .video enabled).toParts.sendEvent (.turned .video enabled) } :=
  if_neg running

/-- A switch of a kind is shown in the flags. -/
theorem flags_switch (call : Call) (kind : MediaKind) (enabled : Bool) :
    (call.switch kind enabled).flags = call.flags.turn kind enabled :=
  flags_setFlags _ _

/-- Besides its report a switch only switches the local tracks. -/
theorem besidesReports_switch (call : Call) (kind : MediaKind) (enabled : Bool) :
    (call.switch kind enabled).toParts.besidesReports =
      (call.setLocalEnabled kind enabled).toParts.besidesReports :=
  besidesReports_setFlags _ _

variable {call : Call}

namespace Attuned

/-- Work that concerns neither the local tracks nor how they are shown. -/
theorem of_same {after : Call} (attuned : call.Attuned)
    (media : after.toParts.ownMedia = call.toParts.ownMedia)
    (flags : after.flags.own = call.flags.own) : after.Attuned := by
  have stream : after.platform.localStream = call.platform.localStream :=
    congrArg OwnMedia.stream media
  have connection : after.peer.connection = call.peer.connection :=
    congrArg OwnMedia.connection media
  have handedOver : after.peer.sendsLocalMedia = call.peer.sendsLocalMedia :=
    congrArg OwnMedia.handedOver media
  constructor
  · rw [connection, handedOver]
    exact attuned.handed
  · rw [stream, flags]
    exact attuned.shown

/-- Work that lets go of the peer connection and leaves the local tracks alone. -/
theorem of_released {after : Call} (attuned : call.Attuned)
    (stream : after.platform.localStream = call.platform.localStream)
    (released : after.peer.connection = none) (flags : after.flags.own = call.flags.own) :
    after.Attuned := by
  constructor
  · intro id used
    exact nomatch released.symm.trans used
  · rw [stream, flags]
    exact attuned.shown

private theorem setFlags (attuned : call.Attuned) {flags : CallFlags}
    (own : flags.own = call.flags.own) : (call.setFlags flags).Attuned :=
  attuned.of_same (ownMedia_of_reports (call.besidesReports_setFlags flags))
    ((congrArg CallFlags.own (call.flags_setFlags flags)).trans own)

private theorem tell (attuned : call.Attuned) (note : Note) : (call.tell note).Attuned :=
  attuned.of_same (ownMedia_of_reports (call.besidesReports_tell note))
    (congrArg CallFlags.own (call.flags_tell note))

private theorem releaseRelay (attuned : call.Attuned) : call.releaseRelay.Attuned := by
  refine attuned.of_same ?_ (congrArg CallFlags.own call.flags_releaseRelay)
  unfold Call.releaseRelay
  split
  · exact ownMedia_of_relay (besidesRelay_cleanUpRelay call.toParts)
  · rfl

private theorem setLifecycle (attuned : call.Attuned) (stage : Lifecycle) :
    (call.setLifecycle stage).Attuned :=
  attuned.of_same (ownMedia_of_reports (call.besidesReports_setLifecycle stage))
    (congrArg CallFlags.own (call.flags_setLifecycle stage))

private theorem endCall (attuned : call.Attuned) : call.endCall.Attuned := by
  unfold Call.endCall
  split
  · exact attuned
  · refine setLifecycle ?_ .ended
    obtain ⟨stream, released⟩ := ownMedia_cleanUpPeer call.releaseRelay.toParts
    exact attuned.releaseRelay.of_released stream released rfl

private theorem coordinate (attuned : call.Attuned) (item : CoordinatorItem) :
    (call.coordinate item).Attuned := by
  cases item with
  | peerConnected => exact (attuned.setLifecycle .connected).releaseRelay
  | closedSignaller =>
      simp only [Call.coordinate]
      split
      · exact attuned.releaseRelay
      · exact attuned.endCall
  | peerConnectionEnded => exact attuned.endCall
  | peerStreamTrackUpdate =>
      refine setFlags ?_ rfl
      exact attuned.tell _
  | peerMicTurnedOn => exact attuned.setFlags rfl
  | peerMicTurnedOff => exact attuned.setFlags rfl
  | peerVideoTurnedOn => exact attuned.setFlags rfl
  | peerVideoTurnedOff => exact attuned.setFlags rfl

private theorem negotiate (attuned : call.Attuned) (item : PeerItem) :
    (call.negotiate item).Attuned := by
  simp only [Call.negotiate]
  split
  · exact (attuned.setLifecycle .connecting).of_same (ownMedia_processItem _ item) rfl
  · exact attuned.of_same (ownMedia_processItem _ item) rfl

private theorem route (attuned : call.Attuned) (item : WorkItem) : (call.route item).Attuned := by
  unfold Call.route
  split
  · exact attuned
  · cases item with
    | signal signal =>
        simp only [Call.signal]
        split
        · exact attuned.of_same (ownMedia_of_relay (besidesRelay_sendSignal _ signal)) rfl
        · exact attuned
    | peer item => exact attuned.negotiate item
    | coordinator item => exact attuned.coordinate item

/-- A call whose flags agree with its tracks goes on so after a switch. -/
theorem switch (attuned : call.Attuned) (kind : MediaKind) (enabled : Bool) :
    (call.switch kind enabled).Attuned := by
  have media := ownMedia_of_reports (call.besidesReports_switch kind enabled)
  constructor
  · intro id used
    have still : call.peer.connection = some id :=
      (congrArg OwnMedia.connection media).symm.trans used
    exact (congrArg OwnMedia.handedOver media).trans (attuned.handed id still)
  · -- Without tracks of a kind only its flag is switched: this holds of present kinds only.
    have stream : (call.switch kind enabled).platform.localStream =
        call.platform.localStream.setEnabled kind enabled :=
      congrArg OwnMedia.stream media
    intro other
    rw [stream, flags_switch, CallFlags.own_turn, MediaStream.hasKind_setEnabled]
    intro there
    by_cases same : other = kind
    · subst same
      rw [Function.update_self, MediaStream.hasEnabled_setEnabled, there, Bool.true_and]
    · rw [Function.update_of_ne same, MediaStream.hasEnabled_setEnabled_of_ne _ same]
      exact attuned.shown other there

private theorem sendEvent (attuned : call.Attuned) (event : ToggleEvent) :
    Attuned { call with toParts := call.toParts.sendEvent event } :=
  attuned.of_same (ownMedia_of_channels (besidesChannels_sendEvent _ event)) rfl

private theorem runTask (attuned : call.Attuned) (task : CallTask) :
    (call.runTask task).Attuned := by
  by_cases running : call.lifecycle = .ended
  · rw [runTask_of_ended running]
    exact attuned
  cases task with
  | setMic enabled =>
      rw [Call.runTask, setMic_eq running]
      exact (attuned.switch .audio enabled).sendEvent _
  | setVideo enabled =>
      rw [Call.runTask, setVideo_eq running]
      exact (attuned.switch .video enabled).sendEvent _
  | connectTimeout =>
      simp only [Call.runTask, connectTimeout]
      split
      · exact attuned.endCall
      · exact attuned.endCall
      · exact attuned
      · exact attuned
  | endCall => exact attuned.endCall

/-- A call whose flags agree with its tracks goes on so as long as the tracks are not exchanged
for others. -/
theorem move (attuned : call.Attuned) {move : CallMove}
    (unswapped : ∀ localStream, move ≠ .adjust (.changeMedia localStream)) :
    (call.move move).Attuned := by
  cases move with
  | item item =>
      have routed := attuned.route item
      exact ⟨routed.handed, routed.shown⟩
  | task task =>
      have done := attuned.runTask task
      exact ⟨done.handed, done.shown⟩
  | event occurrence => exact attuned.of_same (ownMedia_undergo _ occurrence) rfl
  | adjust adjustment =>
      refine attuned.of_same (ownMedia_adjust _ fun localStream same => ?_) rfl
      exact unswapped localStream (congrArg CallMove.adjust same)

end Attuned

/-- A call that was just set up handed its local tracks to its peer connection, if it has
one. -/
theorem Begins.attuned {start : Call} (begins : start.Begins) : start.Attuned := by
  constructor
  · intro id used
    obtain ⟨localStream, tokens, iceConfiguration, label, url, bare | complete⟩ := begins.parts
    · rw [bare] at used
      cases used
    · rw [complete] at used ⊢
      rcases initPeer_cases (overRelay localStream tokens iceConfiguration label url) with
        ⟨_, same, _⟩ | ⟨_, _, same⟩
      · rw [same] at used
        cases used
      · rw [same]
        rfl
  · cases begins
    intro kind _
    cases kind <;> rfl

/-- A call whose local tracks are only ever switched through it shows them as they are. -/
theorem Begins.attuned_run {start : Call} (begins : start.Begins) {moves : List CallMove}
    (unswapped : ∀ localStream, .adjust (.changeMedia localStream) ∉ moves) :
    (start.run moves).Attuned := by
  refine run_preserves ?_ begins.attuned
  intro current move member attuned
  refine attuned.move ?_
  rintro localStream rfl
  exact unswapped localStream member

end Call

end CallControl
