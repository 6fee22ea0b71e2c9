import Mathlib.Data.List.Chain
import CallControl.Proofs.Flags

/-! # What the observer of a call is told

A move of a call changes its stage and its flags once at most, and its observer is told of
that and of nothing else, but that the stream of the peer can be shown after a look at its
tracks (`Call.informs_move`). So the observer can tell the stage and the flags of the call
from what it was told, and none of it was said twice (`Call.Begins.observer_told`).
-/

namespace CallControl

namespace Note

/-- The stage that a note tells of. -/
def stage? : Note → Option Lifecycle
  | .lifecycle _ stage => some stage
  | _ => none

/-- The flags that a note tells of. -/
def flags? : Note → Option CallFlags
  | .flags _ shown => some shown
  | _ => none

/-- The stream that a note tells of, with the number of its tracks. -/
def stream? : Note → Option (String × Nat)
  | .stream _ id tracks => some (id, tracks)
  | _ => none

/-- The line whose call a note is about. -/
def line? : Note → Option String
  | .lifecycle line _ => some line
  | .flags line _ => some line
  | .stream line _ _ => some line
  | _ => none

end Note

namespace Parts

/-- What the observer of a call was told, oldest first. -/
def told (parts : Parts) : List Note := parts.platform.journal.filter Note.ofCall

/-! ## Work that tells the observer nothing -/

@[simp] theorem told_note {parts : Parts} {note : Note} (other : note.ofCall = false) :
    (parts.note note).told = parts.told := by
  have nothing : [note].filter Note.ofCall = [] := by simp only [other, List.filter_singleton]; rfl
  unfold told Parts.note Platform.note
  rw [List.filter_append, nothing, List.append_nil]

private theorem told_dispatch (parts : Parts) (item : WorkItem) :
    ({ parts with platform := parts.platform.dispatch item } : Parts).told = parts.told := by
  unfold Platform.dispatch
  split <;> rfl

@[simp] theorem told_raiseFromPeer (parts : Parts) (item : WorkItem) :
    (parts.raiseFromPeer item).told = parts.told := by
  unfold raiseFromPeer
  split
  · exact told_dispatch parts item
  · rfl

@[simp] theorem told_raiseFromRelay (parts : Parts) (item : WorkItem) :
    (parts.raiseFromRelay item).told = parts.told := by
  unfold raiseFromRelay
  split
  · rfl
  · exact told_dispatch parts item

private theorem told_channelHeard (parts : Parts) (id : ChannelId) (event : ChannelEvent)
    (role : ChannelRole) : (parts.channelHeard id event role).told = parts.told := by
  cases role with
  | awaitOpen =>
      cases event with
      | opened => exact told_raiseFromPeer ..
      | message text => rfl
      | closed => rfl
  | peerMessages =>
      cases event with
      | opened => rfl
      | closed => rfl
      | message text =>
          simp only [channelHeard]
          split
          · exact eachUntilCrash_preserves (motive := fun current => current.told = parts.told)
              (fun current item _ same => (told_raiseFromPeer current item).trans same) rfl
          · rfl
  | note => exact told_note rfl

@[simp] theorem told_channelEmits (parts : Parts) (id : ChannelId) (event : ChannelEvent) :
    (parts.channelEmits id event).told = parts.told := by
  unfold channelEmits
  split
  · rfl
  · exact eachUntilCrash_preserves (motive := fun current => current.told = parts.told)
      (fun current role _ same => (told_channelHeard current id event role).trans same) rfl

@[simp] theorem told_closeChannel (parts : Parts) (id : ChannelId) :
    (parts.closeChannel id).told = parts.told := by
  unfold closeChannel
  split
  · rfl
  · split
    · rfl
    · exact told_channelEmits _ id .closed

private theorem told_useChannel (parts : Parts) (id : ChannelId) :
    (parts.useChannel id).told = parts.told := by
  unfold useChannel
  split <;> rfl

private theorem told_sendToPeer (parts : Parts) (text : String) :
    (parts.sendToPeer text).told = parts.told := by
  unfold sendToPeer
  split <;> rfl

private theorem told_unregister (parts : Parts) (registrations : List ChannelRegistration) :
    (parts.unregister registrations).told = parts.told :=
  unregister_eq told (fun _ _ _ => rfl) parts registrations

private theorem told_releaseChannel (parts : Parts) : parts.releaseChannel.told = parts.told := by
  unfold releaseChannel
  split
  · rfl
  · exact (told_closeChannel _ _).trans (told_unregister _ _)

private theorem told_adoptChannel (parts : Parts) (id : ChannelId) :
    (parts.adoptChannel id).told = parts.told := by
  have settled : (parts.settlePending id).told = parts.told := told_unregister parts _
  unfold adoptChannel
  dsimp only
  split
  · exact settled
  · exact (told_useChannel _ id).trans ((told_releaseChannel _).trans settled)

private theorem told_openChannel (parts : Parts) (connection : PeerConnection) :
    (parts.openChannel connection).told = parts.told := by
  unfold openChannel
  split
  · rfl
  · exact told_useChannel _ _

private theorem told_addLocalTracks (parts : Parts) (id : ConnectionId) :
    (parts.addLocalTracks id).told = parts.told := by
  unfold addLocalTracks
  split <;> rfl

/-- Items for the link to the peer tell the observer nothing. -/
theorem told_applyItem (parts : Parts) (id : ConnectionId) (connection : PeerConnection)
    (item : PeerItem) : (parts.applyItem id connection item).told = parts.told := by
  cases item with
  | userJoined => exact (told_addLocalTracks _ id).trans (told_openChannel parts connection)
  | webrtcOffer offer =>
      have tracked := told_addLocalTracks parts id
      simp only [applyItem]
      split
      · exact tracked
      · split
        · exact tracked
        · exact (told_raiseFromPeer _ _).trans tracked
  | webrtcAcceptance answer =>
      simp only [applyItem]
      split <;> rfl
  | webrtcCandidate candidate =>
      simp only [applyItem]
      split <;> rfl
  | dataChannel channel => exact (told_sendToPeer _ _).trans (told_adoptChannel parts channel)
  | sendInitialState => exact told_sendToPeer parts _
  | negotiationNeeded =>
      simp only [applyItem]
      split
      · rfl
      · exact told_raiseFromPeer _ _

private theorem told_processItem (parts : Parts) (item : PeerItem) :
    (parts.processItem item).2.told = parts.told := by
  unfold processItem
  split
  · rfl
  · exact told_applyItem ..

private theorem told_sendOnSocket (parts : Parts) (socket : HeldSocket) (text : String) :
    (parts.sendOnSocket socket text).told = parts.told := by
  unfold sendOnSocket
  split <;> rfl

/-- Giving up the relay tells the observer nothing. -/
theorem told_cleanUpRelay (parts : Parts) : parts.cleanUpRelay.told = parts.told := by
  unfold cleanUpRelay
  dsimp only
  split <;> rfl

private theorem told_cleanUpPeer (parts : Parts) : parts.cleanUpPeer.told = parts.told := by
  cases present : parts.peer.connection with
  | none =>
      rw [cleanUpPeer_of_none present]
      rfl
  | some id =>
      rw [cleanUpPeer_of_some present]
      calc ((parts.shutGate.unlisten id).dropPending.releaseChannel.dropConnection id).told
          = (parts.shutGate.unlisten id).dropPending.releaseChannel.told := rfl
        _ = (parts.shutGate.unlisten id).dropPending.told := told_releaseChannel _
        _ = (parts.shutGate.unlisten id).told := told_unregister _ _
        _ = parts.told := rfl

/-- What the link to the relay hears it does not tell the observer. -/
theorem told_relayHeard (parts : Parts) (socket : HeldSocket) (event : SocketEvent) :
    (parts.relayHeard socket event).told = parts.told := by
  cases event with
  | opened =>
      simp only [relayHeard, relayOpened, fetchToken, greet]
      split
      · exact told_sendOnSocket _ socket _
      · rfl
      · rfl
  | message text =>
      simp only [relayHeard, relayDelivered]
      split
      · exact told_raiseFromRelay _ _
      · rfl
  | closed code reason => exact told_raiseFromRelay ..
  | error text => rfl

/-- What a socket reports is not told to the observer. -/
theorem told_socketEmits (parts : Parts) (id : SocketId) (event : SocketEvent) :
    (parts.socketEmits id event).told = parts.told := by
  unfold socketEmits
  split
  · rfl
  · dsimp only
    split
    · rfl
    · rename_i observer _
      cases observer with
      | link => exact told_relayHeard _ _ event
      | note => exact told_note rfl

private theorem told_channelAnnounced (parts : Parts) (id : ChannelId) :
    (parts.channelAnnounced id).told = parts.told := by
  unfold channelAnnounced
  split
  · rfl
  · split
    · exact told_raiseFromPeer _ _
    · rfl

/-- Whatever happens on the platform, the observer is told nothing. -/
theorem told_undergo (parts : Parts) (occurrence : Occurrence) :
    (parts.undergo occurrence).told = parts.told := by
  rcases undergo_cases parts occurrence with same | same
  · rw [same]
  · rw [same]
    change (parts.occur occurrence).told = parts.told
    cases occurrence with
    | socket id event => exact told_socketEmits parts id event
    | unheeding event => exact told_relayHeard parts .unheeding event
    | connection id event =>
        exact connectionEmits_eq told (fun _ => rfl)
          (fun current => peerHeard_eq told told_raiseFromPeer told_channelAnnounced
            (fun _ _ _ => rfl) current event)
          (fun _ => told_note rfl) parts
    | channelOpened id => exact told_channelEmits _ id .opened
    | channelMessage id text => exact told_channelEmits parts id _
    | channelClosed id => exact told_closeChannel parts id

private theorem told_adjust (parts : Parts) (adjustment : Adjustment) :
    (parts.adjust adjustment).told = parts.told := by
  cases adjustment <;> rfl

end Parts

namespace Call

variable {call : Call}

/-- What the observer of a call has to go by, beside what it should have been told of. -/
def outlook (call : Call) : (List Note × String × Bool) × Lifecycle × CallFlags :=
  ((call.toParts.told, call.line, call.silent), call.lifecycle, call.flags)

private theorem outlook_withParts (call : Call) (change : Parts → Parts)
    (same : (change call.toParts).told = call.toParts.told) :
    (call.withParts change).outlook = call.outlook :=
  congrArg (fun told => ((told, call.line, call.silent), call.lifecycle, call.flags)) same

private theorem outlook_releaseRelay (call : Call) : call.releaseRelay.outlook = call.outlook := by
  unfold releaseRelay
  split
  · exact call.outlook_withParts Parts.cleanUpRelay (Parts.told_cleanUpRelay _)
  · rfl

/-- What the observer of a call should be told when it becomes another one. -/
def changes (before after : Call) : List Note :=
  (if after.lifecycle = before.lifecycle then []
    else [.lifecycle before.line after.lifecycle]) ++
  if after.flags = before.flags then [] else [.flags before.line after.flags]

/-- The observer was told of some streams and of what changed, in that order. -/
structure Informs (before after : Call) (streams : List Note) : Prop where
  told : after.toParts.told = before.toParts.told ++ (streams ++ before.changes after)
  line : after.line = before.line
  silent : after.silent = before.silent

namespace Informs

private theorem refl (call : Call) : call.Informs call [] := by
  refine ⟨?_, rfl, rfl⟩
  simp only [changes, ↓reduceIte, List.append_nil]

/-- Work follows that does not concern the observer. -/
theorem quietly {before between after : Call} {streams : List Note}
    (informs : before.Informs between streams) (same : after.outlook = between.outlook) :
    before.Informs after streams := by
  have stage : after.lifecycle = between.lifecycle := congrArg (·.2.1) same
  have flags : after.flags = between.flags := congrArg (·.2.2) same
  have told : after.toParts.told = between.toParts.told := congrArg (·.1.1) same
  refine ⟨?_, (congrArg (·.1.2.1) same).trans informs.line,
    (congrArg (·.1.2.2) same).trans informs.silent⟩
  rw [told, informs.told]
  unfold changes
  rw [stage, flags]

/-- Work that does not concern the observer comes first. -/
theorem after_quiet {before between after : Call} {streams : List Note}
    (informs : between.Informs after streams) (same : between.outlook = before.outlook) :
    before.Informs after streams := by
  have stage : between.lifecycle = before.lifecycle := congrArg (·.2.1) same
  have flags : between.flags = before.flags := congrArg (·.2.2) same
  have told : between.toParts.told = before.toParts.told := congrArg (·.1.1) same
  have line : between.line = before.line := congrArg (·.1.2.1) same
  refine ⟨?_, informs.line.trans line, informs.silent.trans (congrArg (·.1.2.2) same)⟩
  rw [informs.told, told]
  unfold changes
  rw [stage, flags, line]

private theorem of_quiet {before after : Call} (same : after.outlook = before.outlook) :
    before.Informs after [] :=
  (refl before).quietly same

end Informs

/-! ## One move -/

private theorem tell_of_observed (observed : call.silent = false) (note : Note) :
    call.tell note = { call with toParts := call.toParts.note note } := by
  unfold tell
  rw [observed, if_neg Bool.false_ne_true]

private theorem told_tell (call : Call) (observed : call.silent = false) {note : Note}
    (own : note.ofCall = true) :
    (call.tell note).toParts.told = call.toParts.told ++ [note] := by
  rw [tell_of_observed observed]
  unfold Parts.told Parts.note Platform.note
  rw [List.filter_append, List.filter_cons_of_pos own, List.filter_nil]

private theorem informs_setLifecycle (observed : call.silent = false) (stage : Lifecycle) :
    call.Informs (call.setLifecycle stage) [] := by
  unfold setLifecycle
  split
  · exact .refl call
  · rename_i other
    refine ⟨(told_tell { call with lifecycle := stage } observed rfl).trans ?_, ?_, ?_⟩
    all_goals simp only [tell, observed, changes, Bool.false_eq_true, ↓reduceIte,
      Ne.symm other, List.nil_append, List.append_nil]

private theorem informs_setFlags (observed : call.silent = false) (flags : CallFlags) :
    call.Informs (call.setFlags flags) [] := by
  unfold setFlags
  split
  · exact .refl call
  · rename_i other
    refine ⟨(told_tell { call with flags } observed rfl).trans ?_, ?_, ?_⟩
    all_goals simp only [tell, observed, changes, Bool.false_eq_true, ↓reduceIte,
      Ne.symm other, List.nil_append]

private theorem informs_endCall (observed : call.silent = false) :
    call.Informs call.endCall [] := by
  unfold endCall
  split
  · exact .refl call
  · have released := call.outlook_releaseRelay
    have cleaned := (call.releaseRelay.outlook_withParts Parts.cleanUpPeer
      (Parts.told_cleanUpPeer _)).trans released
    refine (informs_setLifecycle ?_ .ended).after_quiet cleaned
    exact (congrArg (·.1.2.2) cleaned).trans observed

/-- The stream of the peer that is shown when its tracks are looked at. -/
def streamShown? (call : Call) : CallMove → Option MediaStream
  | .item (.coordinator .peerStreamTrackUpdate) =>
      if call.lifecycle = .ended then none else some call.peer.remoteStream
  | _ => none

/-- What the observer of a call is told of streams in a move. -/
def streamNotes (call : Call) (move : CallMove) : List Note :=
  (call.streamShown? move).toList.map fun stream =>
    .stream call.line stream.id stream.tracks.length

private theorem informs_coordinate (observed : call.silent = false)
    (running : call.lifecycle ≠ .ended) (item : CoordinatorItem) :
    call.Informs (call.coordinate item) (call.streamNotes (.item (.coordinator item))) := by
  cases item with
  | peerConnected =>
      exact (informs_setLifecycle observed .connected).quietly (outlook_releaseRelay _)
  | closedSignaller =>
      simp only [coordinate]
      split
      · exact .of_quiet call.outlook_releaseRelay
      · exact informs_endCall observed
  | peerConnectionEnded => exact informs_endCall observed
  | peerStreamTrackUpdate =>
      let stream := call.peer.remoteStream
      let shown := call.tell (.stream call.line stream.id stream.tracks.length)
      have told : shown.toParts.told =
          call.toParts.told ++ [.stream call.line stream.id stream.tracks.length] :=
        told_tell call observed rfl
      have same : shown = call.withParts
          (·.note (.stream call.line stream.id stream.tracks.length)) := tell_of_observed observed _
      have streams : call.streamNotes trackUpdate =
          [.stream call.line stream.id stream.tracks.length] := by
        simp only [streamNotes, streamShown?, if_neg running]
        rfl
      have informs : shown.Informs (call.coordinate .peerStreamTrackUpdate) [] := by
        refine informs_setFlags ?_ _
        rw [same]
        exact observed
      refine ⟨?_, ?_, ?_⟩
      · have changes : shown.changes = call.changes := by rw [same]; rfl
        rw [informs.told, told, changes, List.append_assoc]
        exact congrArg (fun notes => _ ++ (notes ++ _)) streams.symm
      · rw [informs.line, same]
        rfl
      · rw [informs.silent, same]
        rfl
  | peerMicTurnedOn => exact informs_setFlags observed _
  | peerMicTurnedOff => exact informs_setFlags observed _
  | peerVideoTurnedOn => exact informs_setFlags observed _
  | peerVideoTurnedOff => exact informs_setFlags observed _

private theorem informs_negotiate (observed : call.silent = false) (item : PeerItem) :
    call.Informs (call.negotiate item) [] := by
  have processed {staged : Call} (informs : call.Informs staged []) :
      call.Informs { staged with toParts := (staged.toParts.processItem item).2 } [] :=
    informs.quietly (staged.outlook_withParts (fun parts => (parts.processItem item).2)
      (Parts.told_processItem _ item))
  unfold negotiate
  dsimp only
  split
  · exact processed (informs_setLifecycle observed .connecting)
  · exact processed (.refl call)

private theorem informs_signal (call : Call) (signal : Signal) :
    call.Informs (call.signal signal) [] := by
  unfold Call.signal
  split
  · exact .of_quiet (call.outlook_withParts (·.sendSignal signal) (Parts.told_sendOnSocket ..))
  · exact .refl call

private theorem informs_switch (observed : call.silent = false) (kind : MediaKind) (enabled : Bool)
    (event : ToggleEvent) :
    call.Informs { call.switch kind enabled with
      toParts := (call.switch kind enabled).toParts.sendEvent event } [] := by
  have switched : (call.setLocalEnabled kind enabled).outlook = call.outlook := rfl
  have heeds : (call.setLocalEnabled kind enabled).silent = false := observed
  have shown : call.Informs (call.switch kind enabled) [] :=
    (informs_setFlags heeds (call.flags.turn kind enabled)).after_quiet switched
  exact shown.quietly ((call.switch kind enabled).outlook_withParts (·.sendEvent event)
    (Parts.told_sendToPeer _ event.name))

private theorem informs_runTask (observed : call.silent = false) (task : CallTask) :
    call.Informs (call.runTask task) [] := by
  by_cases finished : call.lifecycle = .ended
  · rw [runTask_of_ended finished]
    exact .refl call
  · cases task with
    | setMic enabled =>
        rw [runTask, setMic_eq finished]
        exact informs_switch observed .audio enabled _
    | setVideo enabled =>
        rw [runTask, setVideo_eq finished]
        exact informs_switch observed .video enabled _
    | connectTimeout =>
        simp only [runTask, connectTimeout]
        split
        · exact informs_endCall observed
        · exact informs_endCall observed
        · exact .refl call
        · exact .refl call
    | endCall => exact informs_endCall observed

private theorem informs_route (observed : call.silent = false) (item : WorkItem) :
    call.Informs (call.route item) (call.streamNotes (.item item)) := by
  by_cases finished : call.lifecycle = .ended
  · have nothing : call.streamNotes (.item item) = [] := by
      unfold streamNotes streamShown?
      split
      · rw [if_pos finished]
        rfl
      · rfl
    rw [route_of_ended finished, nothing]
    exact .refl call
  · unfold route
    rw [if_neg finished]
    cases item with
    | signal signal => exact call.informs_signal signal
    | peer item => exact informs_negotiate observed item
    | coordinator item => exact informs_coordinate observed finished item

/-- In a move the observer is told of the stream of the peer, if its tracks are looked at,
and then of the stage and of the flags if they changed. -/
theorem informs_move (observed : call.silent = false) (move : CallMove) :
    call.Informs (call.move move) (call.streamNotes move) := by
  cases move with
  | item item => exact (informs_route observed item).quietly rfl
  | task task => exact (informs_runTask observed task).quietly rfl
  | event occurrence =>
      exact .of_quiet (call.outlook_withParts _ (Parts.told_undergo _ occurrence))
  | adjust adjustment =>
      exact .of_quiet (call.outlook_withParts _ (Parts.told_adjust _ adjustment))

/-! ## Every run -/

/-- The streams that are shown in a run: one for each look at the tracks of the peer that the
call takes before it is over. -/
def streamsShown (call : Call) : List CallMove → List MediaStream
  | [] => []
  | move :: rest => (call.streamShown? move).toList ++ (call.move move).streamsShown rest

/-- The last of some things that were seen is followed by a new one unless it is the same. -/
theorem chain_news {Seen : Type} [DecidableEq Seen] {relation : Seen → Seen → Prop}
    {first last new : Seen} {earlier later : List Seen}
    (chain : (first :: earlier).IsChain relation) (latest : earlier.getLastD first = last)
    (news : later = earlier ++ if new = last then [] else [new])
    (related : new ≠ last → relation last new) :
    (first :: later).IsChain relation ∧ later.getLastD first = new := by
  by_cases same : new = last
  · rw [if_pos same, List.append_nil] at news
    rw [news, same]
    exact ⟨chain, latest⟩
  · rw [if_neg same] at news
    rw [news, ← List.cons_append]
    refine ⟨List.isChain_append.mpr ⟨chain, .singleton new, ?_⟩, ?_⟩
    · intro before isLast next isNext
      rw [List.getLast?_cons, ← List.getLastD_eq_getLast?, latest] at isLast
      cases isLast
      cases isNext
      exact related same
    · rw [List.getLastD_eq_getLast?, List.getLast?_concat]
      rfl

/-- What the observer of a call was told since it showed some flags, oldest first, tells the
stage and the flags of the call, and it was never told the same twice. -/
structure Recounts (call : Call) (first : CallFlags) : Prop where
  forward : (.ringing :: call.toParts.told.filterMap Note.stage?).IsChain (·.rank < ·.rank)
  stage : (call.toParts.told.filterMap Note.stage?).getLastD .ringing = call.lifecycle
  varied : (first :: call.toParts.told.filterMap Note.flags?).IsChain (· ≠ ·)
  flags : (call.toParts.told.filterMap Note.flags?).getLastD first = call.flags

/-- What is no news of a stream is told with what changed. -/
theorem filterMap_told_move {News : Type} (view : Note → Option News)
    (none : ∀ line id tracks, view (.stream line id tracks) = none)
    (observed : call.silent = false) (move : CallMove) :
    (call.move move).toParts.told.filterMap view =
      call.toParts.told.filterMap view ++ (call.changes (call.move move)).filterMap view := by
  have streams : (call.streamNotes move).filterMap view = [] := by
    unfold streamNotes
    cases call.streamShown? move with
    | none => rfl
    | some stream => exact List.filterMap_cons_none (none _ _ _)
  rw [(informs_move observed move).told, List.filterMap_append, List.filterMap_append, streams,
    List.nil_append]

private theorem streams_move (observed : call.silent = false) (move : CallMove) :
    (call.move move).toParts.told.filterMap Note.stream? =
      call.toParts.told.filterMap Note.stream? ++
        (call.streamShown? move).toList.map fun stream => (stream.id, stream.tracks.length) := by
  have shown : (call.streamNotes move).filterMap Note.stream? =
      (call.streamShown? move).toList.map fun stream => (stream.id, stream.tracks.length) := by
    unfold streamNotes
    cases call.streamShown? move <;> rfl
  have nothing : (call.changes (call.move move)).filterMap Note.stream? = [] := by
    unfold changes
    split <;> split <;> rfl
  rw [(informs_move observed move).told, List.filterMap_append, List.filterMap_append, shown,
    nothing, List.append_nil]

private theorem lines_move (observed : call.silent = false) (move : CallMove) :
    ∀ note ∈ (call.move move).toParts.told,
      note ∈ call.toParts.told ∨ note.line? = some call.line := by
  intro note member
  rw [(informs_move observed move).told] at member
  rcases List.mem_append.mp member with earlier | new
  · exact Or.inl earlier
  · right
    rcases List.mem_append.mp new with shown | changed
    · obtain ⟨stream, _, rfl⟩ := List.mem_map.mp shown
      rfl
    · unfold changes at changed
      rcases List.mem_append.mp changed with stage | flags
      · split at stage
        · cases stage
        · cases List.mem_singleton.mp stage
          rfl
      · split at flags
        · cases flags
        · cases List.mem_singleton.mp flags
          rfl

private theorem Recounts.move {first : CallFlags} (recounts : call.Recounts first)
    (sound : call.Sound)
    (observed : call.silent = false) (move : CallMove) : (call.move move).Recounts first := by
  have stages := filterMap_told_move Note.stage? (fun _ _ _ => rfl) observed move
  have shown := filterMap_told_move Note.flags? (fun _ _ _ => rfl) observed move
  have stageNews : (call.changes (call.move move)).filterMap Note.stage? =
      if (call.move move).lifecycle = call.lifecycle then [] else [(call.move move).lifecycle] := by
    unfold changes
    split <;> split <;> rfl
  have flagNews : (call.changes (call.move move)).filterMap Note.flags? =
      if (call.move move).flags = call.flags then [] else [(call.move move).flags] := by
    unfold changes
    split <;> split <;> rfl
  have forward (other : (call.move move).lifecycle ≠ call.lifecycle) :
      call.lifecycle.rank < (call.move move).lifecycle.rank := by
    have ahead := sound.forward move
    revert other ahead
    cases call.lifecycle <;> cases (call.move move).lifecycle <;> decide
  rw [stageNews] at stages
  rw [flagNews] at shown
  obtain ⟨rising, stage⟩ := chain_news recounts.forward recounts.stage stages forward
  obtain ⟨varied, flags⟩ := chain_news recounts.varied recounts.flags shown Ne.symm
  exact ⟨rising, stage, varied, flags⟩

/-- A call that was just set up has told its observer nothing. -/
theorem Begins.told {start : Call} (begins : start.Begins) : start.toParts.told = [] := by
  obtain ⟨localStream, tokens, iceConfiguration, label, url, setUp⟩ := begins.parts
  rcases setUp with bare | complete
  · rw [bare]
    rfl
  · rw [complete]
    exact Parts.initPeer_eq Parts.told fun _ => rfl

/-- What the observer of a call was told in a run is about its line and recounts it. -/
theorem Begins.recounts_run {start : Call} (begins : start.Begins)
    (observed : start.silent = false) (moves : List CallMove) :
    (start.run moves).Recounts start.flags ∧
      ∀ note ∈ (start.run moves).toParts.told, note.line? = some start.line := by
  have fresh : start.Recounts start.flags := by
    refine ⟨?_, ?_, ?_, ?_⟩
    all_goals rw [begins.told]
    · exact .singleton _
    · exact begins.lifecycle.symm
    · exact .singleton _
    · rfl
  have nothing : ∀ note ∈ start.toParts.told, note.line? = some start.line := by
    rw [begins.told]
    exact nofun
  refine (run_preserves (motive := fun current => (current.Sound ∧ current.silent = false ∧
    current.line = start.line) ∧ current.Recounts start.flags ∧
    ∀ note ∈ current.toParts.told, note.line? = some start.line) ?_
    ⟨⟨begins.sound, observed, rfl⟩, fresh, nothing⟩).2
  rintro current move _ ⟨⟨sound, heeds, line⟩, recounts, own⟩
  have informs := informs_move heeds move
  refine ⟨⟨sound.move move, informs.silent.trans heeds, informs.line.trans line⟩,
    recounts.move sound heeds move, fun note member => ?_⟩
  rcases lines_move heeds move note member with earlier | new
  · exact own note earlier
  · exact new.trans (congrArg some line)

/-- The streams that the observer was told of are those that were shown. -/
theorem streams_run (observed : call.silent = false) (moves : List CallMove) :
    (call.run moves).toParts.told.filterMap Note.stream? =
      call.toParts.told.filterMap Note.stream? ++
        (call.streamsShown moves).map fun stream => (stream.id, stream.tracks.length) := by
  induction moves generalizing call with
  | nil => exact (List.append_nil _).symm
  | cons move rest ih =>
      have heeds := (informs_move observed move).silent.trans observed
      rw [run_cons, ih heeds, streams_move observed, List.append_assoc, ← List.map_append]
      rfl

/-- In every run of an observed call the observer is told of later and later stages, the last
of which is the one that the call is in, and of flags that differ from those before, the last
of which are those that the call shows. It is told of the stream of the peer once for each
look at its tracks before the call is over, and of nothing that is not about its line. -/
theorem Begins.observer_told {start : Call} (begins : start.Begins)
    (observed : start.silent = false) (moves : List CallMove) :
    let reached := start.run moves
    let told := reached.toParts.told
    (Lifecycle.ringing :: told.filterMap Note.stage?).Pairwise (·.rank < ·.rank) ∧
    (told.filterMap Note.stage?).getLastD .ringing = reached.lifecycle ∧
    (start.flags :: told.filterMap Note.flags?).IsChain (· ≠ ·) ∧
    (told.filterMap Note.flags?).getLastD start.flags = reached.flags ∧
    told.filterMap Note.stream? =
      (start.streamsShown moves).map (fun stream => (stream.id, stream.tracks.length)) ∧
    ∀ note ∈ told, note.line? = some start.line := by
  intro reached told
  obtain ⟨recounts, own⟩ := begins.recounts_run observed moves
  refine ⟨?_, recounts.stage, recounts.varied, recounts.flags, ?_, own⟩
  · have transitive : IsTrans Lifecycle (·.rank < ·.rank) := ⟨fun _ _ _ => Nat.lt_trans⟩
    exact List.isChain_iff_pairwise.mp recounts.forward
  · have streams := streams_run observed moves
    rw [begins.told] at streams
    exact streams

/-- A call whose peer joins and sends a camera that is on, and that connects and is ended: the
observer is told of each stage, of the one change of the flags, and of the stream at both
looks before the end. -/
theorem observer_told_justBegun :
    let moves : List CallMove := .item (.peer .userJoined) :: cameraShown ++
      [trackUpdate, .item (.coordinator .peerConnected), .task .endCall, trackUpdate]
    let told := (justBegun.run moves).toParts.told
    justBegun.Begins ∧ justBegun.silent = false ∧
      told.filterMap Note.stage? = [.connecting, .connected, .ended] ∧
      told.filterMap Note.flags? = [⟨false, true, false, false⟩] ∧
      (justBegun.flags :: told.filterMap Note.flags?).IsChain (· ≠ ·) ∧
      told.filterMap Note.stream? = [("remote", 1), ("remote", 1)] := by
  intro moves told
  obtain ⟨_, _, varied, _, streams, _⟩ := begins_justBegun.observer_told rfl moves
  exact ⟨begins_justBegun, rfl, rfl, rfl, varied, streams⟩

end Call

end CallControl
