import CallControl.Proofs.Spoken

/-! # What a call shows and tells of its own tracks

A call shows of its own microphone and camera what it was last asked for
(`Call.own_run`), and so they are, as far as there are tracks to switch. Without a track
of a kind the flag alone is switched, and told as an event, while a full state says that
there is nothing on. Of the kinds that are there every message says what is shown
(`Call.Begins.truthful`).
-/

namespace CallControl

private theorem CallMove.asked?_item (item : WorkItem) (kind : MediaKind) :
    (CallMove.item item).asked? kind = none := by
  cases kind <;> rfl

/-- A stream without a track of a kind has none of that kind enabled. -/
theorem MediaStream.hasEnabled_of_absent {stream : MediaStream} {kind : MediaKind}
    (absent : stream.hasKind kind = false) : stream.hasEnabled kind = false := by
  unfold hasKind at absent
  unfold hasEnabled
  rw [List.any_eq_false] at absent ⊢
  intro track member
  rw [Bool.and_eq_true, not_and]
  intro same
  exact (absent track member same).elim

namespace Call

open Parts

variable {call : Call}

/-! ## The flags of this side -/

/-- A running call shows of its own what a move asks for, and otherwise what it showed. -/
theorem own_move (running : call.lifecycle ≠ .ended) (move : CallMove) (kind : MediaKind) :
    (call.move move).flags.own kind = (move.asked? kind).getD (call.flags.own kind) := by
  rw [flags_move running]
  cases move with
  | item item =>
      rw [CallMove.asked?_item]
      cases item with
      | coordinator item => exact congrFun (CallFlags.own_afterItem ..) kind
      | signal signal => rfl
      | peer item => rfl
  | task task => cases task <;> cases kind <;> rfl
  | event occurrence => cases kind <;> rfl
  | adjust adjustment => cases kind <;> rfl

/-- The switches of a kind that a run asks for while the call is not over, in order. -/
def heeded (call : Call) (kind : MediaKind) : List CallMove → List Bool
  | [] => []
  | move :: rest =>
      (if call.lifecycle = .ended then none else move.asked? kind).toList ++
        (call.move move).heeded kind rest

/-- A call shows of its own what it was last asked for before it was over. -/
theorem own_run (call : Call) (moves : List CallMove) (kind : MediaKind) :
    (call.run moves).flags.own kind =
      ((call.heeded kind moves).getLast?).getD (call.flags.own kind) := by
  induction moves generalizing call with
  | nil => rfl
  | cons move rest ih =>
      have first : (call.move move).flags.own kind =
          (if call.lifecycle = .ended then none else move.asked? kind).getD
            (call.flags.own kind) := by
        by_cases finished : call.lifecycle = .ended
        · rw [if_pos finished, flags_move_of_ended finished]
          rfl
        · rw [if_neg finished, own_move finished]
      rw [run_cons, ih, first, heeded, List.getLast?_append]
      cases (call.move move).heeded kind rest |>.getLast? with
      | some last => rfl
      | none => cases (if call.lifecycle = .ended then none else move.asked? kind) <;> rfl

/-! ## The tracks of this side -/

/-- Items for the link to the peer leave the local tracks and the peer connection alone. -/
theorem ownMedia_route_peer (call : Call) (item : PeerItem) :
    (call.route (.peer item)).toParts.ownMedia = call.toParts.ownMedia := by
  by_cases finished : call.lifecycle = .ended
  · rw [route_of_ended finished]
  · unfold route
    rw [if_neg finished]
    simp only [negotiate]
    split
    · exact (ownMedia_processItem ..).trans (ownMedia_of_reports (besidesReports_setLifecycle ..))
    · exact ownMedia_processItem ..

section

variable {motive : MediaStream → Option ConnectionId → Prop}

/-- What survives that tracks are switched and that the peer connection is let go of survives
every move, but perhaps changes that nobody is told of. -/
theorem media_move
    (switched : ∀ kind enabled, motive call.platform.localStream call.peer.connection →
      motive (call.platform.localStream.setEnabled kind enabled) call.peer.connection)
    (released : ∀ {stream connection}, motive stream connection → motive stream none)
    (holds : motive call.platform.localStream call.peer.connection) {move : CallMove}
    (adjusted : ∀ adjustment, move = .adjust adjustment →
      motive (call.toParts.adjust adjustment).platform.localStream call.peer.connection) :
    motive (call.move move).platform.localStream (call.move move).peer.connection := by
  let kept (parts : Parts) : Prop := motive parts.platform.localStream parts.peer.connection
  have of_media {before after : Parts} (same : after.ownMedia = before.ownMedia)
      (still : kept before) : kept after := by
    have stream : after.platform.localStream = before.platform.localStream :=
      congrArg OwnMedia.stream same
    have connection : after.peer.connection = before.peer.connection :=
      congrArg OwnMedia.connection same
    simp only [kept, stream, connection]
    exact still
  have relayed {before after : Parts} (same : after.besidesRelay = before.besidesRelay) :
      kept before → kept after := of_media (ownMedia_of_relay same)
  have cleaned {current : Parts} (still : kept current) : kept current.cleanUpPeer := by
    obtain ⟨stream, connection⟩ := ownMedia_cleanUpPeer current
    simp only [kept, stream, connection]
    exact released still
  have told (kind : MediaKind) (enabled : Bool) :
      kept ((call.switch kind enabled).toParts.sendEvent (.turned kind enabled)) := by
    apply of_media (ownMedia_of_channels (besidesChannels_sendEvent ..))
    apply of_media (ownMedia_of_reports (call.besidesReports_switch kind enabled))
    exact switched kind enabled holds
  change kept (call.move move).toParts
  cases move with
  | item item =>
      change kept (call.route item).toParts
      by_cases finished : call.lifecycle = .ended
      · rw [route_of_ended finished]
        exact holds
      cases item with
      | peer item => exact of_media (call.ownMedia_route_peer item) holds
      | coordinator item =>
          rw [route_coordinator finished]
          exact coordinate_keeps relayed cleaned holds item
      | signal signal =>
          unfold route
          rw [if_neg finished]
          exact signal_keeps relayed holds signal
  | task task =>
      change kept (call.runTask task).toParts
      by_cases finished : call.lifecycle = .ended
      · rw [runTask_of_ended finished]
        exact holds
      cases task with
      | setMic enabled =>
          rw [runTask, setMic_eq finished]
          exact told .audio enabled
      | setVideo enabled =>
          rw [runTask, setVideo_eq finished]
          exact told .video enabled
      | connectTimeout => exact connectTimeout_keeps relayed cleaned holds
      | endCall => exact endCall_keeps relayed cleaned holds
  | event occurrence => exact of_media (ownMedia_undergo call.toParts occurrence) holds
  | adjust adjustment => exact adjusted adjustment rfl

end

/-- Only replacing the local tracks changes of which kinds they are. -/
theorem hasKind_run (call : Call) {moves : List CallMove}
    (unswapped : ∀ localStream, .adjust (.changeMedia localStream) ∉ moves) (kind : MediaKind) :
    (call.run moves).platform.localStream.hasKind kind =
      call.platform.localStream.hasKind kind := by
  refine run_preserves (motive := fun current =>
    current.platform.localStream.hasKind kind = call.platform.localStream.hasKind kind) ?_ rfl
  intro current move member same
  refine media_move (motive := fun stream _ => stream.hasKind kind = _) ?_ id same ?_
  · intro switched enabled still
    exact (MediaStream.hasKind_setEnabled ..).trans still
  · rintro adjustment rfl
    have media : (current.toParts.adjust adjustment).ownMedia = current.toParts.ownMedia := by
      apply ownMedia_adjust
      rintro localStream rfl
      exact unswapped localStream member
    exact (congrArg (fun media : OwnMedia => media.stream.hasKind kind) media).trans same

/-- A call without a peer connection never has one. -/
theorem unconnected_run (absent : call.peer.connection = none) (moves : List CallMove) :
    (call.run moves).peer.connection = none := by
  refine run_preserves (motive := fun current => current.peer.connection = none) ?_ absent
  intro current move _ still
  exact media_move (motive := fun _ connection => connection = none) (fun _ _ same => same)
    (fun _ => rfl) still (fun _ _ => still)

/-! ## What is told -/

/-- A call over a peer connection tells its local tracks as they are. -/
theorem Attuned.stateReport_eq (attuned : call.Attuned) {id : ConnectionId}
    (used : call.peer.connection = some id) (requestState : Bool) :
    call.toParts.stateReport requestState =
      ⟨requestState, call.platform.localStream.hasEnabled .audio,
        call.platform.localStream.hasEnabled .video⟩ := by
  unfold stateReport
  rw [if_pos (attuned.handed id used)]

/-- A message is truthful when it says of each kind of track that is there what is shown of
it afterwards. If it is an event, that is so of every kind, and if it is a full state, it says of
every kind whether a track of it is enabled. -/
structure Vouches (call : Call) (before : MediaKind → Bool) (message : PeerMessage) : Prop where
  shown : ∀ kind, call.platform.localStream.hasKind kind = true →
    message.shows before kind = call.flags.own kind
  event : ∀ event, message = .toggle event → ∀ kind,
    message.shows before kind = call.flags.own kind
  state : ∀ report, message = .state report → ∀ kind,
    message.shows before kind = call.platform.localStream.hasEnabled kind

private theorem Vouches.of_state (attuned : call.Attuned) {id : ConnectionId}
    (used : call.peer.connection = some id) (before : MediaKind → Bool) (requestState : Bool) :
    call.Vouches before (.state (call.toParts.stateReport requestState)) := by
  have tracks := PeerMessage.shows_state_own call.platform.localStream.hasEnabled before
    requestState
  rw [attuned.stateReport_eq used]
  refine ⟨?_, nofun, ?_⟩
  · intro kind present
    exact (congrFun tracks kind).trans (attuned.shown kind present).symm
  · intro _ _ kind
    exact congrFun tracks kind

/-- A running call that is asked for a switch tells it as it then shows it. -/
theorem Vouches.of_switch (running : call.lifecycle ≠ .ended) {task : CallTask}
    {kind : MediaKind} {enabled : Bool}
    (asked : (CallMove.task task).asked? = Function.update (fun _ => none) kind (some enabled)) :
    (call.move (.task task)).Vouches call.flags.own (.toggle (.turned kind enabled)) := by
  have shown (other : MediaKind) :
      (PeerMessage.toggle (.turned kind enabled)).shows call.flags.own other =
        (call.move (.task task)).flags.own other := by
    rw [PeerMessage.shows_turned, own_move running, asked]
    by_cases same : other = kind
    · subst same
      simp only [Function.update_self, Option.getD_some]
    · simp only [Function.update_of_ne same, Option.getD_none]
  exact ⟨fun other _ => shown other, fun _ _ => shown, nofun⟩

/-- What a move sends is true afterwards. -/
theorem Vouches.of_tells (sound : call.Sound) (attuned : call.Attuned) {move : CallMove}
    (unswapped : ∀ localStream, move ≠ .adjust (.changeMedia localStream)) {id : ChannelId}
    (accepted : (call.move move).toParts.accepts id = true) {message : PeerMessage}
    (tells : call.message? move = some message) :
    (call.move move).Vouches call.flags.own message := by
  -- The channel that takes the message is in use over a peer connection of a running call.
  have soundAfter : (call.move move).Sound := sound.move move
  obtain ⟨connection, used⟩ : ∃ connection, (call.move move).peer.connection = some connection := by
    by_contra absent
    have unused : (call.move move).peer.connection = none := by
      rwa [← Option.isSome_iff_exists, Option.not_isSome_iff_eq_none] at absent
    have unadopted := (soundAfter.coupled.accounted.resting unused).2.2.1
    exact nomatch (accepts_of_unused unadopted id).symm.trans accepted
  have running : call.lifecycle ≠ .ended := by
    intro finished
    have ended := soundAfter.finished (lifecycle_move_of_ended finished move)
    exact nomatch ended.1.symm.trans used
  unfold Call.message? at tells
  split at tells
  · rename_i item
    obtain ⟨report, told, rfl⟩ := Option.map_eq_some_iff.mp tells
    obtain ⟨requestState, same⟩ :
        ∃ requestState, report = call.toParts.stateReport requestState := by
      unfold Parts.stateFor? at told
      split at told
      · exact ⟨true, (Option.some.inj told).symm⟩
      · exact ⟨false, (Option.some.inj told).symm⟩
      · cases told
    have media := call.ownMedia_route_peer item
    have after : (call.move (.item (.peer item))).toParts.stateReport requestState = report := by
      rw [same]
      exact (congrArg (fun media : OwnMedia => if media.handedOver then
        (⟨requestState, media.stream.hasEnabled .audio, media.stream.hasEnabled .video⟩ :
          StateReport) else ⟨requestState, false, false⟩) media :)
    rw [← after]
    exact .of_state (attuned.move unswapped) used _ _
  · cases tells
    exact .of_switch running (by funext kind; cases kind <;> rfl)
  · cases tells
    exact .of_switch running (by funext kind; cases kind <;> rfl)
  · cases tells

/-- A call whose local tracks are only ever switched through it shows its own microphone and
camera as its tracks are, if it has any of the kind. Without a track of a kind it shows what
it was last asked for before it was over, off at first, although none is enabled. And what
each further move sends agrees with what the call shows of the tracks that it has; an event
agrees with all that it shows, and a full state says of both kinds whether a track is
enabled. -/
theorem Begins.truthful {start : Call} (begins : start.Begins) {moves : List CallMove}
    (unswapped : ∀ localStream, .adjust (.changeMedia localStream) ∉ moves) :
    let call := start.run moves
    (∀ kind, call.platform.localStream.hasKind kind = true →
      call.flags.own kind = call.platform.localStream.hasEnabled kind) ∧
    (∀ kind, call.platform.localStream.hasKind kind = false →
      call.platform.localStream.hasEnabled kind = false ∧
        call.flags.own kind = ((start.heeded kind moves).getLast?).getD false) ∧
    ∀ move, (∀ localStream, move ≠ .adjust (.changeMedia localStream)) → ∀ id,
      ∃ messages : List PeerMessage,
        (call.move move).toParts.sentOn id =
          call.toParts.sentOn id ++ messages.map PeerMessage.toText ∧
        ∀ message ∈ messages, (call.move move).Vouches call.flags.own message := by
  intro call
  have attuned : call.Attuned := begins.attuned_run unswapped
  have sound : call.Sound := begins.sound_run moves
  refine ⟨attuned.shown, fun kind absent => ⟨MediaStream.hasEnabled_of_absent absent, ?_⟩, ?_⟩
  · have first : start.flags.own kind = false := by
      rw [start.hasKind_run unswapped] at absent
      rw [← MediaStream.hasEnabled_of_absent absent]
      cases begins
      cases kind <;> rfl
    rw [← first]
    exact start.own_run moves kind
  · intro move kept id
    have sent := sends_move sound move id
    refine ⟨if (call.move move).toParts.accepts id then (call.message? move).toList else [], ?_, ?_⟩
    · rw [sent]
      split <;> rfl
    · intro message member
      by_cases accepted : (call.move move).toParts.accepts id = true
      · rw [if_pos accepted, Option.mem_toList] at member
        exact .of_tells sound attuned kept accepted member
      · rw [if_neg accepted] at member
        cases member

/-- The call with a microphone and a camera is one that begins. -/
theorem begins_equipped : equipped.Begins := by
  have ready : equippedSetUp.1 = .ok equippedSetUp.2 := rfl
  exact .setUp false ready

/-- A call with a microphone that is on switches it off, and tells so on the channel that it
opened. -/
theorem truthful_equipped :
    let moves : List CallMove := [.item (.peer .userJoined)]
    let call := equipped.run moves
    equipped.Begins ∧ (∀ localStream, .adjust (.changeMedia localStream) ∉ moves) ∧
      call.flags.own .audio = call.platform.localStream.hasEnabled .audio ∧
      ∃ messages : List PeerMessage,
        (call.move (.task (.setMic false))).toParts.sentOn 0 =
          messages.map PeerMessage.toText ∧
        ∀ message ∈ messages, message.shows call.flags.own .audio = false := by
  intro moves call
  have unswapped : ∀ localStream, .adjust (.changeMedia localStream) ∉ moves := by simp [moves]
  obtain ⟨shown, _, tells⟩ := begins_equipped.truthful unswapped
  obtain ⟨messages, sent, vouches⟩ := tells (.task (.setMic false)) nofun 0
  refine ⟨begins_equipped, unswapped, shown .audio rfl, messages, sent, fun message member => ?_⟩
  exact ((vouches message member).shown .audio rfl).trans rfl

/-- A call without a microphone that is asked to switch it on shows it on and tells the peer
so, although no track is enabled and although it tells the peer the opposite when that asks. -/
theorem untruthful_justBegun :
    let moves : List CallMove := [.item (.peer .userJoined), .task (.setMic true)]
    let call := justBegun.run moves
    justBegun.Begins ∧ (∀ localStream, .adjust (.changeMedia localStream) ∉ moves) ∧
      call.flags.own .audio = true ∧ call.platform.localStream.hasEnabled .audio = false ∧
      (call.move (.item (.peer .sendInitialState))).toParts.sentOn 0 =
        [PeerMessage.toggle .micOn, .state ⟨false, false, false⟩].map PeerMessage.toText :=
  ⟨begins_justBegun, by simp, rfl, rfl, rfl⟩

end Call

end CallControl
