import CallControl.Proofs.Stages

/-! # After a call is over

A call that is over drops every item and every task, and whatever its platform still
reports is told to others only: nothing that the call shows, raises, sends or asks of a
peer connection changes any more (`Call.Undisturbed`). The channel that was in use was
closed at the end. It is the platform alone that may report it open again, and the call
does not learn of that.
-/

namespace CallControl

/-- A note of a call's observer. -/
def Note.ofCall : Note → Bool
  | .lifecycle .. | .flags .. | .stream .. => true
  | .socket _ | .connection _ | .channel .. => false

/-- The requests made of a peer connection: all of it but the state of its path. -/
def PeerConnection.requests (connection : PeerConnection) : PeerConnection :=
  { connection with iceState := .new }

private theorem PeerConnection.requests_after (connection : PeerConnection)
    (event : ConnectionEvent) :
    (connection.after event).requests = connection.requests := by
  cases event <;> rfl

namespace Parts

/-- Nothing that a call brings about changed: what it told its observer, the frames and
messages it sent, the requests it made of peer connections, the items it raised, its
local media, and its links. -/
structure Undisturbed (before after : Parts) : Prop where
  told : after.platform.journal.filter Note.ofCall = before.platform.journal.filter Note.ofCall
  frames : after.platform.sockets.map RelaySocket.sent =
    before.platform.sockets.map RelaySocket.sent
  messages : after.platform.channels.map DataChannel.sent =
    before.platform.channels.map DataChannel.sent
  requests : after.platform.connections.map PeerConnection.requests =
    before.platform.connections.map PeerConnection.requests
  raised : after.platform.dispatched = before.platform.dispatched
  localMedia : after.platform.localStream = before.platform.localStream
  relay : after.relay = before.relay
  peer : after.peer = before.peer

private theorem Undisturbed.refl (parts : Parts) : parts.Undisturbed parts :=
  ⟨rfl, rfl, rfl, rfl, rfl, rfl, rfl, rfl⟩

private theorem Undisturbed.trans {first second third : Parts} (earlier : first.Undisturbed second)
    (later : second.Undisturbed third) : first.Undisturbed third where
  told := later.told.trans earlier.told
  frames := later.frames.trans earlier.frames
  messages := later.messages.trans earlier.messages
  requests := later.requests.trans earlier.requests
  raised := later.raised.trans earlier.raised
  localMedia := later.localMedia.trans earlier.localMedia
  relay := later.relay.trans earlier.relay
  peer := later.peer.trans earlier.peer

private theorem undisturbed_recover (parts : Parts) : parts.Undisturbed parts.recover :=
  ⟨rfl, rfl, rfl, rfl, rfl, rfl, rfl, rfl⟩

/-- What others write down does not disturb a call. -/
theorem undisturbed_note (parts : Parts) {note : Note} (other : note.ofCall = false) :
    parts.Undisturbed (parts.note note) where
  told := by
    have none : [note].filter Note.ofCall = [] := by simp [other]
    simp only [Parts.note, Platform.note]
    rw [List.filter_append, none, List.append_nil]
  frames := rfl
  messages := rfl
  requests := rfl
  raised := rfl
  localMedia := rfl
  relay := rfl
  peer := rfl

private theorem undisturbed_modifyState (parts : Parts) (id : ChannelId) (state : ChannelState) :
    parts.Undisturbed (parts.modifyChannel id fun channel => { channel with state }) where
  told := rfl
  frames := rfl
  messages := by
    have same (channel : DataChannel) : ({ channel with state } : DataChannel).sent =
        channel.sent := rfl
    exact map_modify_of_eq same _ id
  requests := rfl
  raised := rfl
  localMedia := rfl
  relay := rfl
  peer := rfl

private theorem undisturbed_modifySocket (parts : Parts) (id : SocketId)
    {change : RelaySocket → RelaySocket}
    (same : ∀ socket : RelaySocket, (change socket).sent = socket.sent) :
    parts.Undisturbed (parts.modifySocket id change) where
  told := rfl
  frames := map_modify_of_eq same _ id
  messages := rfl
  requests := rfl
  raised := rfl
  localMedia := rfl
  relay := rfl
  peer := rfl

private theorem undisturbed_modifyConnection (parts : Parts) (id : ConnectionId)
    {change : PeerConnection → PeerConnection}
    (same : ∀ connection : PeerConnection, (change connection).requests = connection.requests) :
    parts.Undisturbed (parts.modifyConnection id change) where
  told := rfl
  frames := rfl
  messages := rfl
  requests := map_modify_of_eq same _ id
  raised := rfl
  localMedia := rfl
  relay := rfl
  peer := rfl

/-! ## Events that only others are told of -/

namespace Detached

variable {parts : Parts}

private theorem undisturbed_channelEmits (detached : parts.Detached) (id : ChannelId)
    (event : ChannelEvent) : parts.Undisturbed (parts.channelEmits id event) := by
  unfold channelEmits
  split
  · exact .refl parts
  · rename_i channel found
    refine eachUntilCrash_preserves ?_ (.refl parts)
    intro current role member undisturbed
    obtain ⟨listener, inside, rfl⟩ := List.mem_map.mp member
    rw [detached.channelListeners channel (List.mem_of_getElem? found) listener inside]
    exact undisturbed.trans (undisturbed_note current rfl)

private theorem modifyState (detached : parts.Detached) (id : ChannelId) (state : ChannelState) :
    (parts.modifyChannel id fun channel => { channel with state }).Detached where
  connectionsClosed := detached.connectionsClosed
  connectionListeners := detached.connectionListeners
  channelListeners := by
    intro channel member
    obtain ⟨position, found⟩ := List.mem_iff_getElem?.mp member
    simp only [modifyChannel, Platform.modifyChannel, List.getElem?_modify] at found
    obtain ⟨earlier, foundEarlier, rfl⟩ := Option.map_eq_some_iff.mp found
    have notes := detached.channelListeners earlier (List.mem_of_getElem? foundEarlier)
    split
    · exact notes
    · exact notes

private theorem undisturbed_openChannelNow (detached : parts.Detached) (id : ChannelId) :
    parts.Undisturbed (parts.openChannelNow id) :=
  (undisturbed_modifyState parts id .opened).trans
    ((detached.modifyState id .opened).undisturbed_channelEmits id .opened)

private theorem undisturbed_closeChannel (detached : parts.Detached) (id : ChannelId) :
    parts.Undisturbed (parts.closeChannel id) := by
  unfold closeChannel
  split
  · exact .refl parts
  · split
    · exact .refl parts
    · exact (undisturbed_modifyState parts id .closed).trans
        ((detached.modifyState id .closed).undisturbed_channelEmits id .closed)

private theorem noted_connectionEmits (detached : parts.Detached) (id : ConnectionId)
    (event : ConnectionEvent) {motive : Parts → Prop}
    (changed : motive (parts.modifyConnection id (·.after event)))
    (noted : ∀ current, motive current → motive (current.note (.connection event.kind)))
    (holds : motive parts) : motive (parts.connectionEmits id event) := by
  unfold connectionEmits
  split
  · exact holds
  · rename_i connection found
    refine eachUntilCrash_preserves ?_ changed
    intro current audience member kept
    obtain ⟨listener, inside, rfl⟩ := List.mem_map.mp member
    rw [detached.connectionListeners connection (List.mem_of_getElem? found) listener
      (List.mem_filter.mp inside).1]
    exact noted current kept

private theorem undisturbed_connectionEmits (detached : parts.Detached) (id : ConnectionId)
    (event : ConnectionEvent) : parts.Undisturbed (parts.connectionEmits id event) :=
  detached.noted_connectionEmits id event
    (undisturbed_modifyConnection parts id fun connection => connection.requests_after event)
    (fun current undisturbed => undisturbed.trans (undisturbed_note current rfl)) (.refl parts)

private theorem channels_connectionEmits (detached : parts.Detached) (id : ConnectionId)
    (event : ConnectionEvent) :
    (parts.connectionEmits id event).platform.channels = parts.platform.channels :=
  detached.noted_connectionEmits id event
    (motive := fun current => current.platform.channels = parts.platform.channels) rfl
    (fun _ same => same) rfl

end Detached

/-- What happens on the platform of a call without links disturbs nothing. -/
theorem undisturbed_undergo {parts : Parts} (detached : parts.Detached) (gone : parts.RelayGone)
    (occurrence : Occurrence) : parts.Undisturbed (parts.undergo occurrence) := by
  have recovered {after : Parts} (undisturbed : parts.Undisturbed after) :
      parts.Undisturbed after.recover :=
    undisturbed.trans (undisturbed_recover after)
  cases occurrence with
  | socket id event =>
      refine recovered ?_
      simp only [occur]
      rw [gone.socketEmits_eq]
      exact undisturbed_modifySocket parts id fun socket => by cases event <;> rfl
  | unheeding event =>
      simp only [undergo, gone.heeding, Bool.false_eq_true, ↓reduceIte]
      exact .refl parts
  | connection id event => exact recovered (detached.undisturbed_connectionEmits id event)
  | channelOpened id => exact recovered (detached.undisturbed_openChannelNow id)
  | channelMessage id text => exact recovered (detached.undisturbed_channelEmits id _)
  | channelClosed id => exact recovered (detached.undisturbed_closeChannel id)

/-! ## The closed channel -/

namespace ChannelClosed

variable {parts : Parts} {id : ChannelId}

/-- Only the platform's report that it is open opens a closed channel of a call without
links. -/
theorem undergo (closed : parts.ChannelClosed id) (detached : parts.Detached)
    {occurrence : Occurrence} (other : occurrence ≠ .channelOpened id) :
    (parts.undergo occurrence).ChannelClosed id := by
  have relayed {after : Parts} (same : after.besidesRelay = parts.besidesRelay) :
      after.platform.channels = parts.platform.channels :=
    (congrArg (fun rest : Parts => rest.platform.channels) same :)
  rcases undergo_cases parts occurrence with same | same
  · rw [same]
    exact closed
  · rw [same]
    change (parts.occur occurrence).ChannelClosed id
    cases occurrence with
    | socket socket event => exact closed.of_channels (relayed (besidesRelay_socketEmits _ _ _))
    | unheeding event => exact closed.of_channels (relayed (besidesRelay_relayHeard _ _ _))
    | connection connection event =>
        exact closed.of_channels (detached.channels_connectionEmits connection event)
    | channelOpened channel =>
        refine of_channels ?_ (channels_of_reports (besidesReports_channelEmits _ _ _))
        exact closed.modifyChannel channel fun same =>
          (other (congrArg Occurrence.channelOpened same)).elim
    | channelMessage channel text =>
        exact closed.of_channels (channels_of_reports (besidesReports_channelEmits _ _ _))
    | channelClosed channel =>
        simp only [occur, closeChannel]
        split
        · exact closed
        · split
          · exact closed
          · refine of_channels ?_ (channels_of_reports (besidesReports_channelEmits _ _ _))
            exact closed.modifyChannel channel fun _ _ _ => rfl

private theorem adjust (closed : parts.ChannelClosed id) (adjustment : Adjustment) :
    (parts.adjust adjustment).ChannelClosed id := by
  cases adjustment with
  | newChannel label =>
      obtain ⟨channel, found, shut⟩ := closed
      refine ⟨channel, ?_, shut⟩
      exact (List.getElem?_append_left (List.getElem?_eq_some_iff.mp found).1).trans found
  | channelFails other fails => exact closed.modifyChannel other fun _ _ shut => shut
  | overhearChannel other => exact closed.modifyChannel other fun _ _ shut => shut
  | _ => exact closed.of_channels rfl

end ChannelClosed

end Parts

namespace Call

/-- Nothing that a call shows, raises, sends or asks for changed. -/
structure Undisturbed (before after : Call) : Prop where
  lifecycle : after.lifecycle = before.lifecycle
  flags : after.flags = before.flags
  holdsRelay : after.holdsRelay = before.holdsRelay
  parts : before.toParts.Undisturbed after.toParts

variable {call : Call}

/-- A call that is over has no links left. -/
theorem Sound.released (sound : call.Sound) (finished : call.lifecycle = .ended) :
    call.toParts.Detached ∧ call.toParts.RelayGone := by
  refine ⟨sound.coupled.accounted.detached (sound.finished finished).1, sound.coupled.gone ?_⟩
  apply sound.past
  rw [finished]
  decide

/-- A call that is over is disturbed by nothing but a change of its platform that nobody
is told of. -/
theorem Sound.undisturbed (sound : call.Sound) (finished : call.lifecycle = .ended)
    {move : CallMove} (told : ∀ adjustment, move ≠ .adjust adjustment) :
    call.Undisturbed (call.move move) := by
  obtain ⟨detached, gone⟩ := sound.released finished
  cases move with
  | item item =>
      simp only [Call.move]
      rw [route_of_ended finished]
      exact ⟨rfl, rfl, rfl, Parts.undisturbed_recover _⟩
  | task task =>
      simp only [Call.move]
      rw [runTask_of_ended finished]
      exact ⟨rfl, rfl, rfl, Parts.undisturbed_recover _⟩
  | event occurrence => exact ⟨rfl, rfl, rfl, Parts.undisturbed_undergo detached gone occurrence⟩
  | adjust adjustment => exact (told adjustment rfl).elim

/-- A closed channel stays closed once the call is over, unless the platform reports that
it is open. -/
theorem Sound.channelClosed_run (sound : call.Sound) (finished : call.lifecycle = .ended)
    {id : ChannelId} (closed : call.toParts.ChannelClosed id) {moves : List CallMove}
    (unopened : .event (.channelOpened id) ∉ moves) :
    (call.run moves).toParts.ChannelClosed id := by
  refine (run_preserves (motive := fun current =>
    current.Sound ∧ current.lifecycle = .ended ∧ current.toParts.ChannelClosed id) ?_
    ⟨sound, finished, closed⟩).2.2
  rintro current move member ⟨currentSound, currentFinished, currentClosed⟩
  refine ⟨currentSound.move move, lifecycle_move_of_ended currentFinished move, ?_⟩
  cases move with
  | item item =>
      simp only [Call.move]
      rw [route_of_ended currentFinished]
      exact currentClosed
  | task task =>
      simp only [Call.move]
      rw [runTask_of_ended currentFinished]
      exact currentClosed
  | event occurrence =>
      refine currentClosed.undergo (currentSound.released currentFinished).1 ?_
      rintro rfl
      exact unopened member
  | adjust adjustment => exact currentClosed.adjust adjustment

/-- In every run a call only moves to later stages. Once it is connected it has given up
its link to the relay, whose socket is detached and closed. Once it is over its link to
the peer is cleaned up as well, the channel in use at the end was closed and stays so
unless the platform reports it open, and no item, task or event disturbs it any more. -/
theorem Begins.stages_coupled {start : Call} (begins : start.Begins) :
    (∀ earlier later, (start.run earlier).lifecycle.rank ≤
      (start.run (earlier ++ later)).lifecycle.rank) ∧
    (∀ moves, (start.run moves).lifecycle = .connected ∨ (start.run moves).lifecycle = .ended →
      (start.run moves).holdsRelay = false ∧ (start.run moves).relay.socket = .absent ∧
      ∃ id socket, start.relay.socket = .simulated id ∧
        (start.run moves).platform.sockets[id]? = some socket ∧
        socket.detached = true ∧ socket.closed = true) ∧
    (∀ moves, (start.run moves).lifecycle = .ended →
      (start.run moves).peer.connection = none ∧ (start.run moves).peer.AtRest ∧
      (start.run moves).toParts.Detached) ∧
    (∀ earlier move later, (start.run earlier).lifecycle ≠ .ended →
      (start.run (earlier ++ [move])).lifecycle = .ended →
      ∀ registration, (start.run earlier).peer.adopted = some registration →
        .event (.channelOpened registration.channel) ∉ later →
        (start.run (earlier ++ move :: later)).toParts.ChannelClosed registration.channel) ∧
    (∀ moves move, (start.run moves).lifecycle = .ended →
      (∀ adjustment, move ≠ .adjust adjustment) →
      (start.run moves).Undisturbed (start.run (moves ++ [move]))) := by
  have sound := begins.sound_run
  refine ⟨?_, ?_, ?_, ?_, ?_⟩
  · intro earlier later
    rw [run_append]
    exact (sound earlier).forward_run later
  · intro moves reached
    have given : (start.run moves).holdsRelay = false := by
      apply (sound moves).past
      rcases reached with stage | stage
      · rw [stage]
        decide
      · rw [stage]
        decide
    have gone := (sound moves).coupled.gone given
    obtain ⟨socket, single, spent⟩ := gone.spent
    refine ⟨given, gone.absent, 0, socket, (begins.sound.coupled.held begins.holdsRelay).held, ?_,
      spent.detached, spent.closed⟩
    rw [single]
    rfl
  · intro moves finished
    have absent := ((sound moves).finished finished).1
    exact ⟨absent, (sound moves).coupled.accounted.resting absent,
      ((sound moves).released finished).1⟩
  · intro earlier move later running finished registration used unopened
    rw [run_append] at finished ⊢
    exact ((sound earlier).move move).channelClosed_run finished
      ((Advances.move (sound earlier) running move).closes finished registration used) unopened
  · intro moves move finished told
    rw [run_append]
    exact (sound moves).undisturbed finished told

/-- The links of a call set up on a platform without local media. -/
def plainSetUp : Except Failure Parts × Parts :=
  Parts.setUp (.make ⟨"local", []⟩ (.ofAnswers []) (.ok ⟨[]⟩)) .standard "line" false true

/-- A call that was just set up on a platform without local media. -/
def justBegun : Call := .ofParts plainSetUp.2 "line" false

/-- The call that has just begun is one that begins. -/
theorem begins_justBegun : justBegun.Begins :=
  have ready : plainSetUp.1 = .ok plainSetUp.2 := rfl
  .setUp false ready

/-- A call that opened a channel and was ended: its links are gone, the channel is closed
after a message on it, and that message disturbs nothing. -/
theorem stages_coupled_justBegun :
    let ended : List CallMove := [.item (.peer .userJoined), .task .endCall]
    let heard : CallMove := .event (.channelMessage 0 "mic_on")
    justBegun.Begins ∧ (justBegun.run ended).lifecycle = .ended ∧
      (justBegun.run ended).holdsRelay = false ∧ (justBegun.run ended).toParts.Detached ∧
      (justBegun.run (ended ++ [heard])).toParts.ChannelClosed 0 ∧
      (justBegun.run ended).Undisturbed (justBegun.run (ended ++ [heard])) := by
  intro ended heard
  obtain ⟨_, relay, peer, channel, still⟩ := begins_justBegun.stages_coupled
  refine ⟨begins_justBegun, rfl, (relay ended (.inr rfl)).1, (peer ended rfl).2.2, ?_, ?_⟩
  · refine channel [.item (.peer .userJoined)] (.task .endCall) [heard]
      (fun finished => nomatch finished) rfl ⟨0, 1⟩ rfl ?_
    simp [heard]
  · exact still ended heard rfl fun adjustment same => nomatch same

/-- The platform may report that the channel that was in use is open after the call
ended and closed it; then it is not closed any more. -/
theorem reopened_justBegun :
    justBegun.Begins ∧
      (justBegun.run [.item (.peer .userJoined)]).peer.adopted = some ⟨0, 1⟩ ∧
      (let call := justBegun.run
        [.item (.peer .userJoined), .task .endCall, .event (.channelOpened 0)]
      call.lifecycle = .ended ∧ ¬ call.toParts.ChannelClosed 0) := by
  refine ⟨begins_justBegun, rfl, rfl, ?_⟩
  rintro ⟨channel, found, closed⟩
  cases found
  cases closed

end Call

end CallControl
