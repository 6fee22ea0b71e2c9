import CallControl.Proofs.Aftermath
import CallControl.Proofs.Channels
import CallControl.Proofs.OwnMedia
import CallControl.Proofs.Raised
import CallControl.Proofs.ReadBack

/-! # Showing the peer's microphone and camera

A side that takes over a data channel tells its full state on it, and from then on every
switch of its microphone or camera. Each text is read back as the message that was sent
(`PeerMessage.parse?_toText`), so a side that takes in all of them shows the other's
microphone and camera as the other shows its own, which is how its local tracks are
(`Call.Begins.mirrored`).
-/

namespace CallControl

open CallControl.Json

/-! ## Messages -/

private theorem StateReport.parse?_toText (report : StateReport) :
    parse? report.toText = some report := by
  obtain ⟨requestState, micOn, videoOn⟩ := report
  let record : List (String × List Char) :=
    [("requestState", writeBool requestState), ("micOn", writeBool micOn),
      ("videoOn", writeBool videoOn)]
  have itself : Carries record record := .of_perm (.refl _)
  obtain ⟨members, spells, found⟩ := itself.exists_fields? (by simp [record])
    (.cons (.writeBool requestState) (.cons (.writeBool micOn) (.cons (.writeBool videoOn) .nil)))
  have named : fields? ["requestState", "micOn", "videoOn"] (.object members) = _ := found
  unfold parse?
  change (Document.parse? (String.ofList (writeObject record))).bind read? = _
  rw [spells.parse?, Option.bind_some]
  simp only [read?, named, List.map_cons, List.map_nil, required, bool?, Option.bind_some,
    Option.map_some]

/-- A message that is sent is the one that is read. -/
theorem PeerMessage.parse?_toText (message : PeerMessage) :
    parse? message.toText = some message := by
  cases message with
  | state report =>
      unfold parse?
      rw [show StateReport.parse? (PeerMessage.state report).toText = some report from
        report.parse?_toText]
  | toggle event => cases event <;> decide +kernel

/-- The flag of a kind of track of the peer. -/
def CallFlags.peer (flags : CallFlags) : MediaKind → Bool
  | .audio => flags.peerMic
  | .video => flags.peerVideo

/-- The flags of the peer after a message from it. -/
def PeerMessage.shows (flags : MediaKind → Bool) : PeerMessage → MediaKind → Bool
  | .state report, .audio => report.micOn
  | .state report, .video => report.videoOn
  | .toggle .micOn, .audio => true
  | .toggle .micOff, .audio => false
  | .toggle .videoOn, .video => true
  | .toggle .videoOff, .video => false
  | .toggle _, kind => flags kind

/-- A full state says what is told with it, whatever was shown before. -/
theorem PeerMessage.shows_state_own (flags earlier : MediaKind → Bool) (requestState : Bool) :
    (PeerMessage.state ⟨requestState, flags .audio, flags .video⟩).shows earlier = flags := by
  funext kind
  cases kind <;> rfl

/-- A switch of a kind shows the flag of that kind only. -/
theorem PeerMessage.shows_turned (flags : MediaKind → Bool) (kind : MediaKind) (enabled : Bool) :
    (PeerMessage.toggle (.turned kind enabled)).shows flags =
      Function.update flags kind enabled := by
  funext other
  cases kind <;> cases other <;> cases enabled <;> rfl

/-- A full state is two switches, after the answer that it may ask for. -/
theorem PeerMessage.shows_state (report : StateReport) (flags : MediaKind → Bool) :
    (PeerMessage.toggle (.video report.videoOn)).shows
        ((PeerMessage.toggle (.mic report.micOn)).shows flags) =
      (PeerMessage.state report).shows flags := by
  obtain ⟨_, micOn, videoOn⟩ := report
  funext kind
  cases micOn <;> cases videoOn <;> cases kind <;> rfl

namespace Call

/-- A call after it handled the items that a text from the peer asks for. -/
def takeIn (call : Call) (text : String) : Call :=
  (PeerMessage.asks text).foldl route call

variable {call : Call}

/-! ## The side that takes messages in -/

/-- A running call hands each item for the coordinator to it. -/
theorem route_coordinator (running : call.lifecycle ≠ .ended) (item : CoordinatorItem) :
    call.route (.coordinator item) = call.coordinate item := if_neg running

/-- An item for the link to the peer that does not show the peer to be there concerns that
link only. -/
theorem route_peer (running : call.lifecycle ≠ .ended) (item : PeerItem)
    (hidden : showsPeer item = false) :
    call.route (.peer item) = { call with toParts := (call.toParts.processItem item).2 } := by
  have unstaged : ¬ (call.lifecycle = .ringing ∧ showsPeer item = true) := by
    rw [hidden]
    rintro ⟨_, shows⟩
    cases shows
  unfold route
  rw [if_neg running]
  simp only [negotiate, if_neg unstaged]

/-- A switch that the peer reports changes the flag of what was switched. -/
theorem route_report (running : call.lifecycle ≠ .ended) (event : ToggleEvent) :
    (call.route (.coordinator event.report)).lifecycle = call.lifecycle ∧
      (call.route (.coordinator event.report)).flags.peer =
        (PeerMessage.toggle event).shows call.flags.peer := by
  obtain ⟨flags, same, shown⟩ : ∃ flags, call.coordinate event.report = call.setFlags flags ∧
      flags.peer = (PeerMessage.toggle event).shows call.flags.peer := by
    cases event <;> exact ⟨_, rfl, by funext kind; cases kind <;> rfl⟩
  rw [route_coordinator running, same, flags_setFlags]
  exact ⟨congrArg Prod.fst (call.standing_setFlags flags), shown⟩

/-- A call that takes in a message of its peer shows what the message says. -/
theorem takeIn_toText (running : call.lifecycle ≠ .ended) (message : PeerMessage) :
    (call.takeIn message.toText).lifecycle ≠ .ended ∧
      (call.takeIn message.toText).flags.peer = message.shows call.flags.peer := by
  have asks : PeerMessage.asks message.toText = message.items := by
    unfold PeerMessage.asks
    rw [message.parse?_toText]
  unfold takeIn
  rw [asks]
  cases message with
  | toggle event =>
      obtain ⟨lifecycle, shown⟩ := route_report running event
      exact ⟨lifecycle.trans_ne running, shown⟩
  | state report =>
      have switches {current : Call} (going : current.lifecycle ≠ .ended) :
          let after := (current.route (.coordinator (ToggleEvent.mic report.micOn).report)).route
            (.coordinator (ToggleEvent.video report.videoOn).report)
          after.lifecycle ≠ .ended ∧
            after.flags.peer = (PeerMessage.state report).shows current.flags.peer := by
        obtain ⟨early, mic⟩ := route_report going (.mic report.micOn)
        obtain ⟨late, video⟩ := route_report (early.trans_ne going) (.video report.videoOn)
        refine ⟨(late.trans early).trans_ne going, ?_⟩
        rw [video, mic, PeerMessage.shows_state]
      -- The answer that is asked for comes first, and leaves what is shown alone.
      cases asked : report.requestState with
      | false =>
          simp only [PeerMessage.items, asked]
          exact switches running
      | true =>
          have answered := call.route_peer running .sendInitialState rfl
          simp only [PeerMessage.items, asked, ↓reduceIte, List.cons_append, List.nil_append,
            List.foldl_cons, List.foldl_nil, answered]
          exact switches running

/-- A call that takes in messages one after the other shows what they come to. -/
theorem takeIn_foldl (running : call.lifecycle ≠ .ended) (messages : List PeerMessage) :
    ((messages.map PeerMessage.toText).foldl takeIn call).flags.peer =
      messages.foldl PeerMessage.shows call.flags.peer := by
  induction messages generalizing call with
  | nil => rfl
  | cons message rest ih =>
      obtain ⟨going, shown⟩ := takeIn_toText running message
      rw [List.map_cons, List.foldl_cons, List.foldl_cons, ih going, shown]

end Call

/-! ## What is sent on a channel -/

namespace DataChannel

/-- A channel takes what is sent on it. -/
def takes (channel : DataChannel) : Bool :=
  !(channel.failsToSend || channel.state == .closed)

/-- What was sent on a channel, and whether it takes more. -/
def outbox (channel : DataChannel) : List String × Bool := (channel.sent, channel.takes)

private theorem outbox_send {channel : DataChannel} (takes : channel.takes = true) (text : String) :
    ∃ after, channel.send text = .ok after ∧ after.outbox = (channel.sent ++ [text], true) := by
  have free : (channel.failsToSend || channel.state == .closed) = false :=
    Bool.not_eq_true' _ ▸ takes
  refine ⟨{ channel with sent := channel.sent ++ [text] }, ?_, congrArg _ takes⟩
  unfold send
  rw [free]
  rfl

end DataChannel

namespace Parts

/-- What was sent on a channel, and whether it takes more. -/
def outbox (parts : Parts) (id : ChannelId) : Option (List String × Bool) :=
  (parts.platform.channels[id]?).map DataChannel.outbox

private theorem outbox_of_reports {before after : Parts}
    (same : after.besidesReports = before.besidesReports) (id : ChannelId) :
    after.outbox id = before.outbox id :=
  (congrArg (fun rest : Parts => rest.outbox id) same :)

private theorem outbox_modifyChannel (parts : Parts) (target id : ChannelId)
    {change : DataChannel → DataChannel}
    (kept : ∀ channel : DataChannel, (change channel).outbox = channel.outbox) :
    (parts.modifyChannel target change).outbox id = parts.outbox id := by
  have same := congrArg (·[id]?) (map_modify_of_eq kept parts.platform.channels target)
  rw [List.getElem?_map, List.getElem?_map] at same
  exact same

private theorem outbox_modifyChannel_of_ne (parts : Parts) {target id : ChannelId}
    (other : target ≠ id) (change : DataChannel → DataChannel) :
    (parts.modifyChannel target change).outbox id = parts.outbox id :=
  congrArg (Option.map DataChannel.outbox) (List.getElem?_modify_ne change _ other)

private theorem outbox_closeChannel (parts : Parts) {target id : ChannelId} (other : target ≠ id) :
    (parts.closeChannel target).outbox id = parts.outbox id := by
  unfold closeChannel
  split
  · rfl
  · split
    · rfl
    · rw [outbox_of_reports (besidesReports_channelEmits _ _ _)]
      exact outbox_modifyChannel_of_ne parts other _

private theorem outbox_unregister (parts : Parts) (registrations : List ChannelRegistration)
    (id : ChannelId) : (parts.unregister registrations).outbox id = parts.outbox id :=
  unregister_eq (outbox · id)
    (fun current target _ => outbox_modifyChannel current target id fun _ => rfl) parts
    registrations

private theorem outbox_useChannel (parts : Parts) (target id : ChannelId) :
    (parts.useChannel target).outbox id = parts.outbox id := by
  unfold useChannel
  split
  · rfl
  · exact outbox_modifyChannel parts target id fun _ => rfl

/-- Only the channel that was in use is closed when another one is handed over. -/
theorem outbox_adoptChannel (parts : Parts) (id : ChannelId) :
    (parts.adoptChannel id).outbox id = parts.outbox id := by
  have settled : (parts.settlePending id).outbox id = parts.outbox id :=
    outbox_unregister parts _ id
  unfold adoptChannel
  dsimp only
  split
  · exact settled
  · rename_i unused
    rw [outbox_useChannel, ← settled]
    unfold releaseChannel
    split
    · rfl
    · rename_i registration used
      have other : registration.channel ≠ id := by
        rw [used, Option.any_some] at unused
        exact fun same => unused (beq_iff_eq.mpr same)
      rw [outbox_closeChannel _ other, outbox_unregister]
      rfl

/-- A text for the peer goes to the channel in use, if that takes it. -/
theorem outbox_sendToPeer {parts : Parts} {registration : ChannelRegistration}
    (used : parts.peer.adopted = some registration) {sent : List String}
    (takes : parts.outbox registration.channel = some (sent, true)) (text : String) :
    (parts.sendToPeer text).outbox registration.channel = some (sent ++ [text], true) := by
  obtain ⟨channel, found, same⟩ := Option.map_eq_some_iff.mp takes
  obtain ⟨rfl, free⟩ := Prod.mk.inj same
  obtain ⟨after, accepted, outbox⟩ := channel.outbox_send free text
  unfold sendToPeer
  rw [used]
  change ((parts.platform.channels.modify registration.channel _)[registration.channel]?).map
    DataChannel.outbox = _
  rw [List.getElem?_modify_eq, found, Option.map_eq_map, Option.map_some, Option.map_some,
    accepted]
  exact congrArg some outbox

end Parts

namespace Call

open Parts

variable {call : Call} {id : ChannelId} {sent : List String}

/-! ## The side that sends messages -/

/-- A running call over a peer connection that shows its own microphone and camera, which
it has, as its local tracks are. -/
structure OnAir (call : Call) : Prop where
  running : call.lifecycle ≠ .ended
  initialised : call.toParts.peerConnection?.isSome = true
  attuned : call.Attuned
  present : ∀ kind, call.platform.localStream.hasKind kind = true

/-- A call on air that uses a channel on which some texts were sent and which takes more. -/
structure Speaks (call : Call) (id : ChannelId) (sent : List String) : Prop extends
    call.OnAir where
  adopted : ∃ listener, call.peer.adopted = some ⟨id, listener⟩
  outbox : call.toParts.outbox id = some (sent, true)

namespace OnAir

private theorem of_channels {after : Call} (onAir : call.OnAir)
    (same : after.toParts.besidesChannels = call.toParts.besidesChannels)
    (stage : after.lifecycle = call.lifecycle) (flags : after.flags.own = call.flags.own) :
    after.OnAir where
  running := stage.trans_ne onAir.running
  initialised :=
    (congrArg (fun rest : Parts => rest.peerConnection?.isSome) same :).trans onAir.initialised
  attuned := onAir.attuned.of_same (ownMedia_of_channels same) flags
  present kind :=
    (congrArg (fun rest : Parts => rest.platform.localStream.hasKind kind) same :).trans
      (onAir.present kind)

private theorem own_eq (onAir : call.OnAir) (kind : MediaKind) :
    call.flags.own kind = call.platform.localStream.hasEnabled kind :=
  onAir.attuned.shown kind (onAir.present kind)

/-- What a call tells of its microphone and camera is what it shows. -/
theorem stateReport_eq (onAir : call.OnAir) (requestState : Bool) :
    call.toParts.stateReport requestState =
      ⟨requestState, call.flags.own .audio, call.flags.own .video⟩ := by
  obtain ⟨⟨connection, current⟩, inUse⟩ := Option.isSome_iff_exists.mp onAir.initialised
  obtain ⟨used, _⟩ := peerConnection?_eq_some inUse
  unfold stateReport
  rw [if_pos (onAir.attuned.handed connection used), onAir.own_eq, onAir.own_eq]

/-- An item for the link of a call on air. -/
theorem route_peer (onAir : call.OnAir) (item : PeerItem) (hidden : showsPeer item = false) :
    ∃ connection current, call.route (.peer item) =
      { call with toParts := call.toParts.applyItem connection current item } := by
  obtain ⟨⟨connection, current⟩, inUse⟩ := Option.isSome_iff_exists.mp onAir.initialised
  refine ⟨connection, current, ?_⟩
  rw [Call.route_peer onAir.running item hidden]
  unfold processItem
  rw [inUse]

private theorem switch (onAir : call.OnAir) (kind : MediaKind) (enabled : Bool) :
    (call.switch kind enabled).OnAir := by
  have reports := call.besidesReports_switch kind enabled
  refine ⟨?_, ?_, onAir.attuned.switch kind enabled, fun other => ?_⟩
  · exact (congrArg Prod.fst (standing_setFlags _ _)).trans_ne onAir.running
  · exact (congrArg (fun rest : Parts => rest.peerConnection?.isSome) reports :).trans
      onAir.initialised
  · refine (congrArg (fun rest : Parts => rest.platform.localStream.hasKind other) reports :).trans
      ?_
    exact (MediaStream.hasKind_setEnabled ..).trans (onAir.present other)

end OnAir

/-- A change of a side's microphone or camera, or an answer to a request for both. -/
inductive OwnMove where
  | setMic (enabled : Bool)
  | setVideo (enabled : Bool)
  | sendState
  deriving Repr, DecidableEq

/-- The move of a call that is meant. -/
def OwnMove.move : OwnMove → CallMove
  | .setMic enabled => .task (.setMic enabled)
  | .setVideo enabled => .task (.setVideo enabled)
  | .sendState => .item (.peer .sendInitialState)

/-- The message that the peer is sent. -/
def OwnMove.message (flags : MediaKind → Bool) : OwnMove → PeerMessage
  | .setMic enabled => .toggle (.turned .audio enabled)
  | .setVideo enabled => .toggle (.turned .video enabled)
  | .sendState => .state ⟨false, flags .audio, flags .video⟩

namespace Speaks

private theorem recover (speaks : call.Speaks id sent) :
    (call.withParts Parts.recover).Speaks id sent :=
  ⟨⟨speaks.running, speaks.initialised, ⟨speaks.attuned.handed, speaks.attuned.shown⟩,
    speaks.present⟩, speaks.adopted, speaks.outbox⟩

/-- A message for the peer is sent on the channel in use. -/
theorem sendToPeer (speaks : call.Speaks id sent) (text : String) :
    Speaks { call with toParts := call.toParts.sendToPeer text } id (sent ++ [text]) := by
  obtain ⟨listener, used⟩ := speaks.adopted
  refine ⟨speaks.toOnAir.of_channels (besidesChannels_sendToPeer ..) rfl rfl, ⟨listener, ?_⟩,
    outbox_sendToPeer used speaks.outbox text⟩
  exact (congrArg Custody.adopted (custody_sendToPeer ..)).trans used

private theorem sendState (speaks : call.Speaks id sent) (requestState : Bool) :
    Speaks { call with toParts := call.toParts.sendState requestState } id
      (sent ++ [(PeerMessage.state
        ⟨requestState, call.flags.own .audio, call.flags.own .video⟩).toText]) := by
  rw [← speaks.toOnAir.stateReport_eq]
  exact speaks.sendToPeer (call.toParts.stateReport requestState).toText

/-- Switching the local tracks of a kind does not concern the channel. -/
theorem switch (speaks : call.Speaks id sent) (kind : MediaKind) (enabled : Bool) :
    (call.switch kind enabled).Speaks id sent := by
  have reports := call.besidesReports_switch kind enabled
  obtain ⟨listener, used⟩ := speaks.adopted
  refine ⟨speaks.toOnAir.switch kind enabled, ⟨listener, ?_⟩, ?_⟩
  · exact (congrArg Custody.adopted (custody_of_reports reports)).trans used
  · exact (outbox_of_reports reports id).trans speaks.outbox

/-- What is switched is told, and the peer then shows what this side shows. -/
theorem tellSwitch (speaks : call.Speaks id sent) (kind : MediaKind) (enabled : Bool) :
    let told : Call := { call.switch kind enabled with
      toParts := (call.switch kind enabled).toParts.sendEvent (.turned kind enabled) }
    told.Speaks id (sent ++ [(PeerMessage.toggle (.turned kind enabled)).toText]) ∧
      (PeerMessage.toggle (.turned kind enabled)).shows call.flags.own = told.flags.own := by
  refine ⟨(speaks.switch kind enabled).sendToPeer _, ?_⟩
  rw [PeerMessage.shows_turned, ← CallFlags.own_turn]
  exact (congrArg CallFlags.own (call.flags_switch kind enabled)).symm

/-- Every change of the microphone or the camera is sent to the peer. -/
theorem move (speaks : call.Speaks id sent) (own : OwnMove) :
    let message := own.message call.flags.own
    (call.move own.move).Speaks id (sent ++ [message.toText]) ∧
      message.shows call.flags.own = (call.move own.move).flags.own := by
  cases own with
  | setMic enabled =>
      obtain ⟨told, shown⟩ := speaks.tellSwitch .audio enabled
      simp only [OwnMove.move, Call.move, runTask, setMic_eq speaks.running]
      exact ⟨told.recover, shown⟩
  | setVideo enabled =>
      obtain ⟨told, shown⟩ := speaks.tellSwitch .video enabled
      simp only [OwnMove.move, Call.move, runTask, setVideo_eq speaks.running]
      exact ⟨told.recover, shown⟩
  | sendState =>
      obtain ⟨connection, current, routed⟩ := speaks.toOnAir.route_peer .sendInitialState rfl
      simp only [OwnMove.move, Call.move, routed]
      exact ⟨(speaks.sendState false).recover, PeerMessage.shows_state_own ..⟩

/-- Whatever a side does to its microphone and its camera, the messages that it sends say
what it shows in the end. -/
theorem run (speaks : call.Speaks id sent) (moves : List OwnMove) :
    ∃ messages : List PeerMessage,
      (call.run (moves.map OwnMove.move)).Speaks id (sent ++ messages.map PeerMessage.toText) ∧
      messages.foldl PeerMessage.shows call.flags.own =
        (call.run (moves.map OwnMove.move)).flags.own := by
  induction moves generalizing call sent with
  | nil => exact ⟨[], (List.append_nil sent).symm ▸ speaks, rfl⟩
  | cons own rest ih =>
      obtain ⟨told, shown⟩ := speaks.move own
      obtain ⟨messages, later, final⟩ := ih told
      refine ⟨own.message call.flags.own :: messages, ?_, ?_⟩
      · rw [List.map_cons, List.map_cons, List.append_cons]
        exact later
      · rw [List.foldl_cons, shown]
        exact final

/-- Once a side has told its state, what it sent says what it shows, whatever was shown
before. -/
theorem run_told (speaks : call.Speaks id sent) {moves : List OwnMove}
    (told : .sendState ∈ moves) :
    ∃ messages : List PeerMessage,
      (call.run (moves.map OwnMove.move)).Speaks id (sent ++ messages.map PeerMessage.toText) ∧
      ∀ flags, messages.foldl PeerMessage.shows flags =
        (call.run (moves.map OwnMove.move)).flags.own := by
  obtain ⟨before, after, rfl⟩ := List.append_of_mem told
  obtain ⟨earlier, speaking, _⟩ := speaks.run before
  obtain ⟨telling, same⟩ := speaking.move .sendState
  obtain ⟨later, spoken, final⟩ := telling.run after
  let state := OwnMove.sendState.message (call.run (before.map OwnMove.move)).flags.own
  rw [List.map_append, List.map_cons, run_append, run_cons]
  refine ⟨earlier ++ state :: later, ?_, fun flags => ?_⟩
  · rw [List.map_append, List.map_cons, ← List.append_assoc, List.append_cons]
    exact spoken
  · -- Of what came before the state nothing is left.
    rw [List.foldl_append, List.foldl_cons, ← final, ← same]
    exact congrArg (later.foldl PeerMessage.shows)
      ((PeerMessage.shows_state_own _ _ false).trans (PeerMessage.shows_state_own _ _ false).symm)

/-- A running peer that takes in messages which say what a side shows then shows it. -/
theorem heeded {messages : List PeerMessage}
    (speaks : call.Speaks id (sent ++ messages.map PeerMessage.toText))
    (tells : ∀ flags, messages.foldl PeerMessage.shows flags = call.flags.own) {peer : Call}
    (listening : peer.lifecycle ≠ .ended) :
    ∃ texts, (call.platform.channels[id]?).map DataChannel.sent = some (sent ++ texts) ∧
      ∀ kind, (texts.foldl takeIn peer).flags.peer kind = call.flags.own kind ∧
        call.flags.own kind = call.platform.localStream.hasEnabled kind := by
  refine ⟨messages.map PeerMessage.toText, ?_, fun kind => ⟨congrFun ?_ kind,
    speaks.toOnAir.own_eq kind⟩⟩
  · obtain ⟨reached, there, outbox⟩ := Option.map_eq_some_iff.mp speaks.outbox
    rw [show call.platform.channels[id]? = some reached from there, Option.map_some]
    exact congrArg some (congrArg Prod.fst outbox)
  · rw [takeIn_foldl listening]
    exact tells _

end Speaks

/-- A call on air that is handed a channel tells its state on it. -/
theorem OnAir.adopt (onAir : call.OnAir) (takes : call.toParts.outbox id = some (sent, true)) :
    let message := PeerMessage.state ⟨true, call.flags.own .audio, call.flags.own .video⟩
    let after := call.move (.item (.peer (.dataChannel id)))
    after.Speaks id (sent ++ [message.toText]) ∧ after.flags.own = call.flags.own := by
  obtain ⟨connection, current, routed⟩ := onAir.route_peer (.dataChannel id) rfl
  have present : id < call.platform.channels.length := by
    obtain ⟨channel, found, _⟩ := Option.map_eq_some_iff.mp takes
    exact (List.getElem?_eq_some_iff.mp found).1
  obtain ⟨listener, custody⟩ := custody_adoptChannel present
  have adopted : Speaks { call with toParts := call.toParts.adoptChannel id } id sent :=
    ⟨onAir.of_channels (besidesChannels_adoptChannel ..) rfl rfl,
      ⟨listener, congrArg Custody.adopted custody⟩, (outbox_adoptChannel ..).trans takes⟩
  simp only [Call.move, routed]
  exact ⟨(adopted.sendState true).recover, rfl⟩

/-- A running call with a peer connection, a microphone and a camera is on air, if its
local tracks were only ever switched through it. -/
theorem Begins.onAir {start : Call} (begins : start.Begins) {moves : List CallMove}
    (unswapped : ∀ localStream, .adjust (.changeMedia localStream) ∉ moves)
    (running : (start.run moves).lifecycle ≠ .ended)
    (initialised : (start.run moves).peer.connection.isSome = true)
    (present : ∀ kind, (start.run moves).platform.localStream.hasKind kind = true) :
    (start.run moves).OnAir := by
  refine ⟨running, ?_, begins.attuned_run unswapped, present⟩
  obtain ⟨connection, used⟩ := Option.isSome_iff_exists.mp initialised
  have there := (begins.sound_run moves).coupled.accounted.connections.present connection used
  rw [peerConnection?_eq used (List.getElem?_eq_getElem there), Option.isSome_some]

/-- A running call that has a microphone and a camera, switched through it only, takes over
a channel that takes what is sent on it. Whatever it does to them from then on and however
often it tells its state, a running peer that takes in all that was sent on the channel
since shows the microphone and the camera as the call itself does, and that is how its
local tracks are. It does not matter what happened to the peer before. A channel that the call
opened itself is the subject of `Begins.mirrored_inUse`. -/
theorem Begins.mirrored {start : Call} (begins : start.Begins) {moves : List CallMove}
    (unswapped : ∀ localStream, .adjust (.changeMedia localStream) ∉ moves)
    (running : (start.run moves).lifecycle ≠ .ended)
    (initialised : (start.run moves).peer.connection.isSome = true)
    (present : ∀ kind, (start.run moves).platform.localStream.hasKind kind = true)
    {id : ChannelId} {channel : DataChannel}
    (found : (start.run moves).platform.channels[id]? = some channel)
    (takes : channel.takes = true) (later : List OwnMove) {peer : Call}
    (listening : peer.lifecycle ≠ .ended) :
    let own := (start.run moves).run
      (.item (.peer (.dataChannel id)) :: later.map OwnMove.move)
    ∃ texts, (own.platform.channels[id]?).map DataChannel.sent = some (channel.sent ++ texts) ∧
      ∀ kind, (texts.foldl takeIn peer).flags.peer kind = own.flags.own kind ∧
        own.flags.own kind = own.platform.localStream.hasEnabled kind := by
  intro own
  have onAir := begins.onAir unswapped running initialised present
  have outbox : (start.run moves).toParts.outbox id = some (channel.sent, true) := by
    unfold Parts.outbox DataChannel.outbox
    rw [found, Option.map_some, takes]
  obtain ⟨greets, same⟩ := onAir.adopt outbox
  obtain ⟨messages, speaks, final⟩ := greets.run later
  let greeting := PeerMessage.state
    ⟨true, (start.run moves).flags.own .audio, (start.run moves).flags.own .video⟩
  have said : own.Speaks id (channel.sent ++ (greeting :: messages).map PeerMessage.toText) := by
    rw [List.map_cons, List.append_cons]
    exact speaks
  -- The first message is a full state: from it on both sides show the same, whatever the
  -- peer showed before.
  refine said.heeded (fun flags => ?_) listening
  rw [List.foldl_cons, PeerMessage.shows_state_own, ← same]
  exact final

/-- The links of a call set up on a platform with a microphone and a camera. -/
def equippedSetUp : Except Failure Parts × Parts :=
  Parts.setUp (.make ⟨"local", [⟨"mic", .audio, true⟩, ⟨"camera", .video, false⟩]⟩
    (.ofAnswers []) (.ok ⟨[]⟩)) .standard "line" false true

/-- A call that was just set up with a microphone that is on and a camera that is off. -/
def equipped : Call := .ofParts equippedSetUp.2 "line" false

/-- A channel was made. -/
def channelMade : List CallMove := [.adjust (.newChannel "chat")]

/-- The camera is switched on, the microphone off, and both are told again. -/
def bothSwitched : List OwnMove := [.setVideo true, .setMic false, .sendState]

/-- A call that takes over a channel, switches its camera on and its microphone off and
tells its state is shown so by a peer that has just begun. -/
theorem mirrored_equipped :
    let call := equipped.run channelMade
    let own := call.run (.item (.peer (.dataChannel 0)) :: bothSwitched.map OwnMove.move)
    equipped.Begins ∧ call.lifecycle ≠ .ended ∧ justBegun.lifecycle ≠ .ended ∧
      (∀ kind, call.platform.localStream.hasKind kind = true) ∧
      call.platform.channels[0]? = some (.make .announced "chat") ∧
      ∃ texts, (own.platform.channels[0]?).map DataChannel.sent = some texts ∧
        (texts.foldl takeIn justBegun).flags.peerMic = false ∧
        (texts.foldl takeIn justBegun).flags.peerVideo = true := by
  intro call own
  have ready : equippedSetUp.1 = .ok equippedSetUp.2 := rfl
  have begins : equipped.Begins := .setUp false ready
  have running : call.lifecycle ≠ .ended := fun finished => nomatch finished
  have listening : justBegun.lifecycle ≠ .ended := fun finished => nomatch finished
  have present : ∀ kind, call.platform.localStream.hasKind kind = true := fun kind => by
    cases kind <;> rfl
  have found : call.platform.channels[0]? = some (.make .announced "chat") := rfl
  have unswapped : ∀ localStream, .adjust (.changeMedia localStream) ∉ channelMade := by
    simp [channelMade]
  obtain ⟨texts, sent, shown⟩ :=
    begins.mirrored unswapped running rfl present found rfl bothSwitched listening
  refine ⟨begins, running, listening, present, found, texts, sent, ?_, ?_⟩
  · obtain ⟨same, _⟩ := shown .audio
    exact same.trans rfl
  · obtain ⟨same, _⟩ := shown .video
    exact same.trans rfl

/-- A channel that a call opens itself is used without a word at first. Once the call has told
its state on it, as its peer asks for, it is the same there: a running peer that takes in all
that was sent on the channel since it came into use shows the microphone and the camera as the
call does. -/
theorem Begins.mirrored_inUse {start : Call} (begins : start.Begins) {moves : List CallMove}
    (unswapped : ∀ localStream, .adjust (.changeMedia localStream) ∉ moves)
    (running : (start.run moves).lifecycle ≠ .ended)
    (initialised : (start.run moves).peer.connection.isSome = true)
    (present : ∀ kind, (start.run moves).platform.localStream.hasKind kind = true)
    {id : ChannelId} {listener : Nat}
    (used : (start.run moves).peer.adopted = some ⟨id, listener⟩) {channel : DataChannel}
    (found : (start.run moves).platform.channels[id]? = some channel)
    (takes : channel.takes = true) {later : List OwnMove} (told : .sendState ∈ later)
    {peer : Call} (listening : peer.lifecycle ≠ .ended) :
    let own := (start.run moves).run (later.map OwnMove.move)
    ∃ texts, (own.platform.channels[id]?).map DataChannel.sent = some (channel.sent ++ texts) ∧
      ∀ kind, (texts.foldl takeIn peer).flags.peer kind = own.flags.own kind ∧
        own.flags.own kind = own.platform.localStream.hasEnabled kind := by
  intro own
  have onAir := begins.onAir unswapped running initialised present
  have outbox : (start.run moves).toParts.outbox id = some (channel.sent, true) := by
    unfold Parts.outbox DataChannel.outbox
    rw [found, Option.map_some, takes]
  have speaks : (start.run moves).Speaks id channel.sent := ⟨onAir, ⟨listener, used⟩, outbox⟩
  obtain ⟨messages, said, tells⟩ := speaks.run_told told
  exact said.heeded tells listening

example :
    let call := equipped.run [.item (.peer .userJoined)]
    call.peer.adopted = some ⟨0, 1⟩ ∧
      (call.platform.channels[0]?).map (fun channel => (channel.origin, channel.outbox)) =
        some (.own, [], true) := by
  cbv

end Call

end CallControl
