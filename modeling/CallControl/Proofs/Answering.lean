import CallControl.Proofs.Outgoing
import CallControl.Proofs.Replies

/-! # A call that is called

A peer that calls sends an offer, and candidates before and after it. What the peer connection of
the call comes to can be told from these items alone, taken in one after the other
(`Intake.take`): the candidates that come too early are held until the offer is there. The items
wait as in any call, and so do the answers that they make the call raise, but in the end all of
them are taken in and all answers are sent (`QueuedCall.Called.run`).
-/

namespace CallControl

/-! ## What is taken in -/

/-- The items that a peer asks for that calls. -/
inductive PeerItem.Calling : PeerItem → Prop
  | offer (description : SessionDescription) : Calling (.webrtcOffer description)
  | candidate (candidate : IceCandidate) : Calling (.webrtcCandidate candidate)

/-- What a peer connection has taken in, with the candidates that are held for it. -/
structure Intake where
  offer : Option SessionDescription
  offersMade : Nat
  answers : Nat
  /-- The candidates that were applied, oldest first. -/
  applied : List IceCandidate
  /-- The candidates that are held, newest first. -/
  held : List IceCandidate
  /-- Remote descriptions or candidates are refused. -/
  refuses : Bool

/-- What a peer connection has taken in for which some candidates are held. -/
def PeerConnection.intake (held : List IceCandidate) (connection : PeerConnection) : Intake :=
  ⟨connection.remoteDescription, connection.offersCreated, connection.answersCreated,
    connection.acceptedCandidates, held, connection.refusesRemote || connection.refusesCandidates⟩

namespace Intake

/-- The intake of a new peer connection. -/
def fresh : Intake := ⟨none, 0, 0, [], [], false⟩

/-- An offer becomes the remote description, and is answered. -/
def accept (intake : Intake) (offer : SessionDescription) : Intake :=
  { intake with
    offer := some offer
    answers := intake.answers + 1
    applied := intake.applied ++ intake.held
    held := [] }

/-- The intake after an item of a peer that calls. -/
def take (intake : Intake) : PeerItem → Intake
  | .webrtcOffer offer => intake.accept offer
  | .webrtcCandidate candidate =>
      if intake.offer.isNone then { intake with held := candidate :: intake.held }
      else { intake with applied := intake.applied ++ [candidate] }
  | _ => intake

/-- The stage of a call that has taken in so much. -/
def stage (intake : Intake) : Lifecycle :=
  if intake.offer.isNone then .ringing else .connecting

/-- What the peer is told by then, oldest first. -/
def replies (intake : Intake) : List Signal :=
  (List.range intake.answers).map fun earlier =>
    .acceptance (.make "answer" (PeerConnection.descriptionBody (earlier + 1)))

variable (intake : Intake)

private theorem refuses_take (item : PeerItem) : (intake.take item).refuses = intake.refuses := by
  unfold take
  split
  · rfl
  · split <;> rfl
  · rfl

/-- The stage after an item is told by the stage before it. -/
theorem stage_take (item : PeerItem) (calling : item.Calling) :
    (intake.take item).stage =
      if intake.stage = .ringing ∧ Call.showsPeer item = true then .connecting
      else intake.stage := by
  cases calling with
  | offer offer =>
      simp only [take, accept, stage, Call.showsPeer]
      cases intake.offer <;> rfl
  | candidate candidate =>
      have hidden : ¬ (intake.stage = .ringing ∧
          Call.showsPeer (.webrtcCandidate candidate) = true) := fun shows => nomatch shows.2
      rw [if_neg hidden]
      simp only [take]
      split <;> rfl

private theorem replies_accept (offer : SessionDescription) :
    (intake.accept offer).replies = intake.replies ++
      [.acceptance (.make "answer" (PeerConnection.descriptionBody (intake.answers + 1)))] := by
  simp only [replies, accept, List.range_succ, List.map_append, List.map_cons, List.map_nil]

private theorem take_early {intake : Intake} (early : intake.offer = none)
    (candidate : IceCandidate) :
    intake.take (.webrtcCandidate candidate) =
      { intake with held := candidate :: intake.held } := by
  simp only [take, early, Option.isNone_none, ↓reduceIte]

private theorem take_late {intake : Intake} (late : intake.offer.isNone = false)
    (candidate : IceCandidate) :
    intake.take (.webrtcCandidate candidate) =
      { intake with applied := intake.applied ++ [candidate] } := by
  simp only [take, late, Bool.false_eq_true, ↓reduceIte]

/-- Candidates that come before the offer are held. -/
theorem foldl_take_early {intake : Intake} (early : intake.offer = none)
    (candidates : List IceCandidate) :
    (candidates.map PeerItem.webrtcCandidate).foldl take intake =
      { intake with held := candidates.reverse ++ intake.held } := by
  induction candidates generalizing intake with
  | nil => rfl
  | cons candidate rest ih =>
      rw [List.map_cons, List.foldl_cons, take_early early]
      refine (ih ?_).trans ?_
      · exact early
      · rw [List.reverse_cons, List.append_assoc, List.singleton_append]

/-- Candidates that come after the offer are applied. -/
theorem foldl_take_late {intake : Intake} (late : intake.offer.isNone = false)
    (candidates : List IceCandidate) :
    (candidates.map PeerItem.webrtcCandidate).foldl take intake =
      { intake with applied := intake.applied ++ candidates } := by
  induction candidates generalizing intake with
  | nil =>
      rw [List.append_nil]
      rfl
  | cons candidate rest ih =>
      rw [List.map_cons, List.foldl_cons, take_late late]
      refine (ih ?_).trans ?_
      · exact late
      · rw [List.append_assoc, List.singleton_append]

/-- A whole call: one offer with candidates before and after it. -/
theorem foldl_take_call (first second : List IceCandidate) (offer : SessionDescription) :
    (first.map .webrtcCandidate ++ .webrtcOffer offer ::
        second.map .webrtcCandidate : List PeerItem).foldl take fresh =
      ⟨some offer, 0, 1, first.reverse ++ second, [], false⟩ := by
  have early : (first.map PeerItem.webrtcCandidate).foldl take fresh =
      { fresh with held := first.reverse } := by
    rw [foldl_take_early rfl, fresh, List.append_nil]
  rw [List.foldl_append, early, List.foldl_cons]
  exact foldl_take_late rfl second

end Intake

/-- A peer connection with a description applies the candidates handed to it, unless it
refuses them. -/
theorem PeerConnection.intake_foldl_addCandidate {connection : PeerConnection}
    (described : connection.remoteDescription.isNone = false)
    (willing : connection.refusesCandidates = false) (candidates held : List IceCandidate) :
    (candidates.foldl addCandidate connection).intake held =
      { connection.intake held with applied := connection.acceptedCandidates ++ candidates } := by
  have taken : connection.candidateRefusal?.isNone = true := by
    unfold candidateRefusal?
    rw [willing, described]
    rfl
  have accepted : (candidates.map fun candidate => (⟨candidate, true⟩ : CandidateRequest)).filter
      CandidateRequest.accepted = candidates.map fun candidate => ⟨candidate, true⟩ := by
    rw [List.filter_eq_self]
    intro request member
    obtain ⟨_, _, rfl⟩ := List.mem_map.mp member
    rfl
  rw [foldl_addCandidate_eq, taken]
  simp only [intake, offersCreated, acceptedCandidates, List.filter_append, accepted,
    List.map_append, List.map_map]
  refine congrArg (fun applied => Intake.mk _ _ _ (_ ++ applied) _ _) ?_
  exact List.map_id candidates

namespace Parts

variable {parts : Parts} {id : ConnectionId} {connection : PeerConnection}

/-- A candidate is held or applied. -/
theorem intake_candidate (used : parts.peer.connection = some id)
    (found : parts.platform.connections[id]? = some connection)
    (willing : connection.refusesCandidates = false) (candidate : IceCandidate) :
    (parts.applyItem id connection (.webrtcCandidate candidate)).shown PeerConnection.intake id =
      (some id, some ((connection.intake parts.peer.held).take (.webrtcCandidate candidate))) := by
  simp only [applyItem]
  cases described : connection.remoteDescription.isNone with
  | true =>
      have early : (connection.intake parts.peer.held).offer = none :=
        Option.isNone_iff_eq_none.mp described
      rw [if_pos rfl, Intake.take_early early]
      unfold shown
      rw [used, found]
      rfl
  | false =>
      have late : (connection.intake parts.peer.held).offer.isNone = false := described
      have applied := connection.intake_foldl_addCandidate described willing [candidate]
        parts.peer.held
      rw [if_neg Bool.false_ne_true, Intake.take_late late]
      refine (shown_modify connection used found _).trans ?_
      exact congrArg (fun intake => (some id, some intake)) applied

/-- An offer is answered, and then the candidates that are held are handed over. -/
theorem intake_offer (used : parts.peer.connection = some id)
    (found : parts.platform.connections[id]? = some connection)
    (willing : (connection.intake parts.peer.held).refuses = false) (offer : SessionDescription) :
    (parts.applyItem id connection (.webrtcOffer offer)).shown PeerConnection.intake id =
      (some id, some ((connection.intake parts.peer.held).accept offer)) := by
  -- The tracks that are added first leave the intake alone, and so the answer is the same.
  have tracked : (parts.addLocalTracks id).shown PeerConnection.intake id =
      (some id, some (connection.intake parts.peer.held)) :=
    (parts.shown_addLocalTracks id id fun _ _ _ => rfl).trans (shown_eq used found)
  obtain ⟨current, usedStill, present, same⟩ := connection_of_shown tracked
  rw [same] at willing ⊢
  obtain ⟨describes, applies⟩ := Bool.or_eq_false_iff.mp willing
  simp only [applyItem, present, acceptOffer_of_willing describes]
  refine (shown_of_channels id (besidesChannels_raiseFromPeer _ _)).trans ?_
  let answered : PeerConnection := { current with
    remoteDescription := some offer
    answersCreated := current.answersCreated + 1
    localDescription := some current.nextAnswer }
  have described : ((parts.addLocalTracks id).modifyConnection id
      fun _ => answered).platform.connections[id]? = some answered :=
    getElem?_modifyConnection present _
  have flushed := answered.intake_foldl_addCandidate rfl applies
    (parts.addLocalTracks id).peer.held []
  unfold flushHeld shown
  rw [getElem?_modifyConnection described]
  exact congrArg₂ (fun used intake => (used, some intake)) usedStill flushed

/-- A link that takes in an item of a peer that calls tells the peer what is to be told. -/
theorem intake_processItem {intake : Intake}
    (shown : parts.shown PeerConnection.intake id = (some id, some intake))
    (willing : intake.refuses = false) {item : PeerItem} (calling : item.Calling) :
    (parts.processItem item).2.shown PeerConnection.intake id =
        (some id, some (intake.take item)) ∧
      (intake.take item).replies = intake.replies ++ parts.tells item := by
  obtain ⟨connection, used, found, rfl⟩ := connection_of_shown shown
  obtain ⟨describes, applies⟩ := Bool.or_eq_false_iff.mp willing
  unfold processItem tells
  rw [peerConnection?_eq used found, Option.elim_some]
  cases calling with
  | candidate candidate =>
      refine ⟨intake_candidate used found applies candidate, ?_⟩
      simp only [PeerConnection.tells, List.append_nil, Intake.take]
      split <;> rfl
  | offer offer =>
      refine ⟨intake_offer used found willing offer, ?_⟩
      rw [PeerConnection.tells, if_neg (Bool.eq_false_iff.mp describes)]
      exact Intake.replies_accept _ offer

end Parts

/-! ## This end of the relay -/

namespace Call

open Parts

/-- The link to the relay hears what comes over its socket, and can send on it. -/
structure OnLine (call : Call) : Prop where
  listening : call.toParts.Listening 0
  sends : call.sends = true

namespace OnLine

variable {call : Call}

private theorem watched (onLine : call.OnLine) : call.Watched := fun _ =>
  Option.bind_eq_some_iff.mp onLine.listening.observed

private theorem holds (onLine : call.OnLine) : call.holdsRelay = true :=
  (Bool.and_eq_true_iff.mp onLine.sends).1

/-- The dispatcher that broke off works again with the next item. -/
theorem recover (onLine : call.OnLine) : (call.withParts Parts.recover).OnLine := by
  obtain ⟨listening, sends⟩ := onLine
  exact ⟨⟨listening.observed, listening.holds, listening.unmuted, listening.untrapped⟩, sends⟩

/-- Work on the peer's side does not concern the relay. -/
theorem of_peer {after : Call} (onLine : call.OnLine)
    (same : after.toParts.besidesPeer = call.toParts.besidesPeer)
    (holds : after.holdsRelay = call.holdsRelay) (untrapped : after.platform.trapped = false) :
    after.OnLine where
  listening := {
    observed := (congrArg (fun rest : Parts => rest.observerOf 0) same :).trans
      onLine.listening.observed
    holds := (congrArg (fun rest : Parts => rest.relay.socket) same :).trans
      onLine.listening.holds
    unmuted := (congrArg (fun rest : Parts => rest.relay.muted) same :).trans
      onLine.listening.unmuted
    untrapped }
  sends := by
    unfold Call.sends
    rw [socket?_of_peer same, holds]
    exact onLine.sends

/-- Handling an item for the peer's side does not concern the relay either. -/
theorem negotiate (onLine : call.OnLine) {item : PeerItem}
    (untrapped : (call.negotiate item).platform.trapped = false) :
    (call.negotiate item).OnLine := by
  have same : (call.negotiate item).toParts.besidesPeer = call.toParts.besidesPeer ∧
      (call.negotiate item).holdsRelay = call.holdsRelay := by
    simp only [Call.negotiate]
    split
    · refine ⟨(besidesPeer_processItem _ item).trans ?_, ?_⟩
      · exact besidesPeer_of_reports (call.besidesReports_setLifecycle .connecting)
      · exact congrArg Prod.snd (call.standing_setLifecycle .connecting)
    · exact ⟨besidesPeer_processItem _ item, rfl⟩
  exact onLine.of_peer same.1 same.2 untrapped

/-- Sending leaves the link able to send more. -/
theorem signal (onLine : call.OnLine) (signal : Signal) : (call.signal signal).OnLine := by
  have sent : call.signal signal =
      { call with toParts := call.toParts.sendOnSocket (.simulated 0) signal.toText } := by
    unfold Call.signal sendSignal
    rw [if_pos onLine.holds, onLine.listening.holds]
  rw [sent]
  refine ⟨onLine.listening.sendOnSocket _, ?_⟩
  obtain ⟨socket, found, _⟩ := Option.bind_eq_some_iff.mp onLine.listening.observed
  have takes := onLine.sends
  unfold Call.sends socket? at takes ⊢
  simp only [sendOnSocket_simulated, modifySocket, Platform.modifySocket,
    List.getElem?_modify_eq, found] at takes ⊢
  exact (congrArg (call.holdsRelay && ·) (socket.takes_accept _)).trans takes

/-- The link goes on hearing after any event but the closing of its socket. -/
theorem heard (listening : call.toParts.Listening 0) (holds : call.holdsRelay = true)
    {socket : RelaySocket} (found : call.socket? = some socket) {event : SocketEvent}
    (going : (RelayMove.event event).ends = false) (takes : (socket.after event).takes = true) :
    (call.move (.event (.socket 0 event))).OnLine := by
  refine ⟨(listening.relayMove_of_continues going).1, ?_⟩
  have present : (call.toParts.modifySocket 0 (·.after event)).platform.sockets[0]? =
      some (socket.after event) := by
    simp only [modifySocket, Platform.modifySocket, List.getElem?_modify_eq]
    rw [show call.platform.sockets[0]? = some socket from found]
    rfl
  obtain ⟨heard, told, _, _, _, _, same, _⟩ := socket_relayHeard present event
  rw [← listening.socketEmits_eq] at told
  have still : (call.move (.event (.socket 0 event))).socket? = some heard := told
  unfold Call.sends
  rw [still, Option.any_some, same, takes, Bool.and_true]
  exact holds

/-- Hearing a frame leaves the link able to hear more. -/
theorem message (onLine : call.OnLine) (text : String) :
    (call.move (.event (.socket 0 (.message text)))).OnLine := by
  obtain ⟨socket, found, _⟩ := Option.bind_eq_some_iff.mp onLine.listening.observed
  have takes := onLine.sends
  unfold Call.sends at takes
  rw [show call.socket? = some socket from found, Option.any_some, onLine.holds] at takes
  exact heard onLine.listening onLine.holds found rfl takes

end OnLine

/-- A running call that takes in an item of a peer that calls. -/
theorem intake_route {call : Call} {id : ConnectionId} {intake : Intake}
    (running : call.lifecycle ≠ .ended)
    (shown : call.toParts.shown PeerConnection.intake id = (some id, some intake))
    (willing : intake.refuses = false) {item : PeerItem} (calling : item.Calling) :
    (call.route (.peer item)).toParts.shown PeerConnection.intake id =
        (some id, some (intake.take item)) ∧
      (intake.take item).replies = intake.replies ++ call.toParts.tells item := by
  have processed {staged : Call}
      (same : staged.toParts.besidesReports = call.toParts.besidesReports) :
      (staged.toParts.processItem item).2.shown PeerConnection.intake id =
          (some id, some (intake.take item)) ∧
        (intake.take item).replies = intake.replies ++ call.toParts.tells item := by
    rw [← tells_of_reports same]
    refine intake_processItem ?_ willing calling
    exact (shown_of_channels id (besidesChannels_congr same)).trans shown
  unfold route
  rw [if_neg running]
  simp only [negotiate]
  split
  · exact processed (call.besidesReports_setLifecycle .connecting)
  · exact processed rfl

/-- The link of a call that was just set up listens on its socket. -/
theorem Begins.listening {start : Call} (begins : start.Begins) : start.toParts.Listening 0 := by
  obtain ⟨localStream, tokens, iceConfiguration, label, url, bare | complete⟩ := begins.parts
  · rw [bare]
    exact ⟨rfl, rfl, rfl, rfl⟩
  · rw [complete]
    have same := besidesPeer_initPeer (overRelay localStream tokens iceConfiguration label url)
    exact ⟨(congrArg (fun rest : Parts => rest.observerOf 0) same :),
      (congrArg (fun rest : Parts => rest.relay.socket) same :),
      (congrArg (fun rest : Parts => rest.relay.muted) same :),
      congrArg Voice.trapped (voice_initPeer _)⟩

/-- When the socket of a call that was just set up opens, the token is sent. -/
theorem Begins.opening {start : Call} (begins : start.Begins) {token : String}
    (fetched : start.platform.tokens.outcome = .ok token) :
    (start.move (.event (.socket 0 .opened))).OnLine ∧
      (start.move (.event (.socket 0 .opened))).frames = [token] := by
  obtain ⟨url, socket, _⟩ := begins.socket
  obtain ⟨orderly, _, silent⟩ := begins.orderly
  have holds := begins.holdsRelay
  refine ⟨.heard begins.listening holds socket rfl rfl, ?_⟩
  have sent : (start.move (.event (.socket 0 .opened))).frames = start.frames ++ start.greeting :=
    (Transmits.move orderly.sound orderly.watched (.event (.socket 0 .opened))).frames
  have greeting : start.greeting = [token] := by
    unfold Call.greeting cutOff
    rw [fetched, holds, socket]
    rfl
  rw [sent, silent, greeting, List.nil_append]

end Call

/-! ## A call whose items wait -/

namespace WorkItem

/-- The item for the link to the peer. -/
def peer? : WorkItem → Option PeerItem
  | .peer item => some item
  | _ => none

/-- The signal for the relay. -/
def signal? : WorkItem → Option Signal
  | .signal outbound => some outbound
  | _ => none

@[simp] theorem peers_of_peers (items : List PeerItem) :
    (items.map WorkItem.peer).filterMap peer? = items := by
  rw [List.filterMap_map]
  exact List.filterMap_some

@[simp] theorem signals_of_peers (items : List PeerItem) :
    (items.map WorkItem.peer).filterMap signal? = [] := by
  rw [List.filterMap_map]
  exact List.filterMap_eq_nil_iff.mpr fun _ _ => rfl

@[simp] theorem peers_of_signals (signals : List Signal) :
    (signals.map WorkItem.signal).filterMap peer? = [] := by
  rw [List.filterMap_map]
  exact List.filterMap_eq_nil_iff.mpr fun _ _ => rfl

@[simp] theorem signals_of_signals (signals : List Signal) :
    (signals.map WorkItem.signal).filterMap signal? = signals := by
  rw [List.filterMap_map]
  exact List.filterMap_some

/-- The items that wait for a call that is called. -/
inductive Called : WorkItem → Prop
  | incoming {item : PeerItem} (calling : item.Calling) : Called (.peer item)
  | outgoing (outbound : Signal) : Called (.signal outbound)

end WorkItem

namespace QueuedCall

open Parts

/-- The move that is meant, with the texts as frames from the relay. -/
def TalkMove.overRelay : TalkMove → QueueMove
  | .receive text => .event (.socket 0 (.message text))
  | .handle => .handle

/-- A call for which nothing waits goes on only when something comes in. -/
theorem run_idle (call : Call) {moves : List TalkMove}
    (silent : moves.filterMap TalkMove.text? = []) :
    (idle call).run (moves.map TalkMove.overRelay) = idle call := by
  induction moves with
  | nil => rfl
  | cons move rest ih =>
      cases move with
      | receive text => cases silent
      | handle => exact ih silent

/-- A call with what it has taken in of the items that came in; the other ones wait. -/
structure Called (queued : QueuedCall) (id : ConnectionId) (token : String)
    (incoming : List PeerItem) (intake : Intake) : Prop where
  ready : queued.call.Ready id
  onLine : queued.call.OnLine
  waits : ∀ item ∈ queued.waiting, item.Called
  shown : queued.call.toParts.shown PeerConnection.intake id = (some id, some intake)
  willing : intake.refuses = false
  stage : queued.call.lifecycle = intake.stage
  remaining : (queued.waiting.filterMap WorkItem.peer?).foldl Intake.take intake =
    incoming.foldl Intake.take .fresh
  sent : queued.call.frames ++ (queued.waiting.filterMap WorkItem.signal?).map Signal.toText =
    token :: intake.replies.map Signal.toText

namespace Called

variable {queued : QueuedCall} {id : ConnectionId} {token : String} {incoming : List PeerItem}
  {intake : Intake}

/-- A frame is heard; an item that it asks for waits from now on. -/
theorem receive (called : queued.Called id token incoming intake) {text : String}
    (calling : ∀ item ∈ RelayFrame.decode? text, item.Calling) :
    (queued.step (.event (.socket 0 (.message text)))).Called id token
      (incoming ++ (RelayFrame.decode? text).toList) intake := by
  have goes : queued.call.ends (.event (.socket 0 (.message text))) = false := rfl
  have proceeds := called.ready.proceeds goes nofun
  have asked : queued.call.raisedBy (.event (.socket 0 (.message text))) =
      (RelayFrame.decode? text).toList.map .peer := by
    simp only [Call.raisedBy, reports, socketReports, called.onLine.listening.observed,
      RelayLink.lets, called.onLine.listening.unmuted, SocketEvent.asks]
    rfl
  have waiting : (queued.step (.event (.socket 0 (.message text)))).waiting =
      queued.waiting ++ (RelayFrame.decode? text).toList.map .peer := by
    rw [← asked, step_of_proceeds rfl proceeds]
  have transmits := Call.Transmits.move called.ready.sound called.onLine.watched
    (.event (.socket 0 (.message text)))
  refine ⟨proceeds.ready, called.onLine.message text, ?_, ?_, called.willing, ?_, ?_, ?_⟩
  · intro item member
    rw [waiting] at member
    rcases List.mem_append.mp member with earlier | late
    · exact called.waits item earlier
    · obtain ⟨decoded, there, rfl⟩ := List.mem_map.mp late
      exact .incoming (calling decoded (Option.mem_toList.mp there))
  · exact (shown_undergo _ id _ fun _ _ _ => rfl).trans called.shown
  · exact proceeds.stage.trans called.stage
  · rw [waiting, List.filterMap_append, WorkItem.peers_of_peers, List.foldl_append,
      List.foldl_append, called.remaining]
  · rw [waiting, List.filterMap_append, WorkItem.signals_of_peers, List.append_nil, ← called.sent]
    refine congrArg (· ++ _) ?_
    exact transmits.frames.trans (List.append_nil _)

/-- An item that came in is taken in, and what the peer is told waits from now on. -/
theorem takeIn (called : queued.Called id token incoming intake) {item : PeerItem}
    (calling : item.Calling) {rest : List WorkItem}
    (waiting : queued.waiting = .peer item :: rest) :
    (queued.step .handle).Called id token incoming (intake.take item) := by
  have goes : queued.call.ends (.item (.peer item)) = false := rfl
  have proceeds := called.ready.proceeds goes nofun
  have transmits := Call.Transmits.move called.ready.sound called.onLine.watched
    (.item (.peer item))
  obtain ⟨shown, replies⟩ := Call.intake_route called.ready.running called.shown called.willing
    calling
  have stepped : queued.step .handle = ⟨queued.call.move (.item (.peer item)),
      rest ++ (queued.call.toParts.tells item).map .signal⟩ :=
    step_of_proceeds (next_handle waiting) proceeds
  rw [stepped]
  have remaining := called.remaining
  have sent := called.sent
  have waits := called.waits
  rw [waiting] at remaining sent waits
  refine ⟨proceeds.ready, ?_, ?_, shown, ?_, ?_, ?_, ?_⟩
  · have routed : queued.call.route (.peer item) = queued.call.negotiate item :=
      if_neg called.ready.running
    have untrapped := proceeds.ready.calm.untrapped
    simp only [Call.move, routed] at untrapped ⊢
    exact (called.onLine.negotiate untrapped).recover
  · intro other member
    rcases List.mem_append.mp member with later | told
    · exact waits other (List.mem_cons_of_mem _ later)
    · obtain ⟨signal, _, rfl⟩ := List.mem_map.mp told
      exact .outgoing signal
  · exact (intake.refuses_take item).trans called.willing
  · rw [intake.stage_take item calling, ← called.stage]
    exact proceeds.stage
  · rw [List.filterMap_append, WorkItem.peers_of_signals, List.append_nil, ← remaining]
    rfl
  · have frames : (queued.call.move (.item (.peer item))).frames = queued.call.frames :=
      transmits.frames.trans (List.append_nil _)
    rw [frames, List.filterMap_append, WorkItem.signals_of_signals, replies, List.map_append,
      List.map_append, ← List.append_assoc, ← List.cons_append, ← sent]
    rfl

/-- A signal that waited is sent. -/
theorem passOn (called : queued.Called id token incoming intake) {signal : Signal}
    {rest : List WorkItem} (waiting : queued.waiting = .signal signal :: rest) :
    (queued.step .handle).Called id token incoming intake := by
  have goes : queued.call.ends (.item (.signal signal)) = false := rfl
  have proceeds := called.ready.proceeds goes nofun
  have transmits := Call.Transmits.move called.ready.sound called.onLine.watched
    (.item (.signal signal))
  have stepped : queued.step .handle = ⟨queued.call.move (.item (.signal signal)), rest⟩ := by
    rw [step_of_proceeds (next_handle waiting) proceeds]
    exact congrArg (QueuedCall.mk _) (List.append_nil rest)
  have routed : queued.call.route (.signal signal) = queued.call.signal signal :=
    if_neg called.ready.running
  rw [stepped]
  have remaining := called.remaining
  have sent := called.sent
  have waits := called.waits
  rw [waiting] at remaining sent waits
  refine ⟨proceeds.ready, ?_, ?_, ?_, called.willing, ?_, remaining, ?_⟩
  · simp only [Call.move, routed]
    exact (called.onLine.signal signal).recover
  · exact fun item member => waits item (List.mem_cons_of_mem _ member)
  · have same : (queued.call.signal signal).toParts.besidesRelay =
        queued.call.toParts.besidesRelay := by
      unfold Call.signal
      rw [if_pos called.onLine.holds]
      exact besidesRelay_sendSignal ..
    simp only [Call.move, routed]
    exact (shown_of_relay id same).trans called.shown
  · exact proceeds.stage.trans called.stage
  · have frames : (queued.call.move (.item (.signal signal))).frames =
        queued.call.frames ++ [signal.toText] := by
      refine transmits.frames.trans (congrArg (queued.call.frames ++ ·) ?_)
      simp only [Call.texts, called.onLine.sends, ↓reduceIte]
    rw [frames, List.append_assoc, ← sent]
    rfl

private theorem handle (called : queued.Called id token incoming intake) :
    ∃ after, (queued.step .handle).Called id token incoming after := by
  cases waiting : queued.waiting with
  | nil =>
      rw [step_handle_of_nil waiting]
      exact ⟨intake, called⟩
  | cons item rest =>
      cases called.waits item (waiting ▸ List.mem_cons_self) with
      | incoming calling => exact ⟨_, called.takeIn calling waiting⟩
      | outgoing signal => exact ⟨intake, called.passOn waiting⟩

/-- However the frames come in between the items that are handled, all that they ask for is
taken in or waits. -/
theorem run (called : queued.Called id token incoming intake) {moves : List TalkMove}
    (calling : ∀ item ∈ (moves.filterMap TalkMove.text?).filterMap RelayFrame.decode?,
      item.Calling) :
    ∃ after, (queued.run (moves.map TalkMove.overRelay)).Called id token
      (incoming ++ (moves.filterMap TalkMove.text?).filterMap RelayFrame.decode?) after := by
  induction moves generalizing queued incoming intake with
  | nil =>
      rw [List.filterMap_nil, List.filterMap_nil, List.append_nil]
      exact ⟨intake, called⟩
  | cons move rest ih =>
      cases move with
      | handle =>
          obtain ⟨after, still⟩ := called.handle
          exact ih still calling
      | receive text =>
          have texts : ((TalkMove.receive text :: rest).filterMap TalkMove.text?).filterMap
              RelayFrame.decode? = (RelayFrame.decode? text).toList ++
                (rest.filterMap TalkMove.text?).filterMap RelayFrame.decode? := by
            change (text :: rest.filterMap TalkMove.text?).filterMap RelayFrame.decode? = _
            rw [List.filterMap_cons]
            cases RelayFrame.decode? text <;> rfl
          rw [texts] at calling ⊢
          rw [← List.append_assoc]
          refine ih (called.receive fun item member => ?_) fun item member => ?_
          · exact calling item (List.mem_append_left _ (Option.mem_toList.mpr member))
          · exact calling item (List.mem_append_right _ member)

end Called

end QueuedCall

/-- The token and one answer to an offer were sent over the relay, and nothing else. The offer is
the remote description, some candidates were applied, each once and in any order, and the call is
connecting. -/
structure Call.AnsweredOnce (call : Call) (token : String) (offer : SessionDescription)
    (candidates : List IceCandidate) : Prop where
  frames : ∃ answer, call.frames = [token, (Signal.acceptance answer).toText]
  negotiated : ∃ id connection, call.toParts.peerConnection? = some (id, connection) ∧
    connection.answersCreated = 1 ∧ connection.offersCreated = 0 ∧
    connection.remoteDescription = some offer ∧ connection.acceptedCandidates.Perm candidates
  stage : call.lifecycle = .connecting

namespace QueuedCall

/-- A call that was called and has nothing left to handle has answered. -/
theorem Called.answeredOnce {queued : QueuedCall} {id : ConnectionId} {token : String}
    {intake : Intake} {first second : List IceCandidate} {offer : SessionDescription}
    (called : queued.Called id token
      (first.map .webrtcCandidate ++ .webrtcOffer offer :: second.map .webrtcCandidate) intake)
    (drained : queued.waiting = []) : queued.call.AnsweredOnce token offer (first ++ second) := by
  have remaining := called.remaining
  have sent := called.sent
  rw [drained, Intake.foldl_take_call] at remaining
  obtain rfl : intake = ⟨some offer, 0, 1, first.reverse ++ second, [], false⟩ := remaining
  rw [drained] at sent
  obtain ⟨connection, used, found, same⟩ := Parts.connection_of_shown called.shown
  refine ⟨⟨_, (List.append_nil _).symm.trans sent⟩,
    ⟨id, connection, Parts.peerConnection?_eq used found, ?_, ?_, ?_, ?_⟩, called.stage⟩
  · exact (congrArg Intake.answers same).symm
  · exact (congrArg Intake.offersMade same).symm
  · exact (congrArg Intake.offer same).symm
  · have applied : first.reverse ++ second = connection.acceptedCandidates :=
      congrArg Intake.applied same
    rw [← applied]
    exact (List.reverse_perm first).append_right second

end QueuedCall

/-- A call that was just set up is ready to be called when its socket opens. -/
theorem Call.Begins.called {start : Call} (begins : start.Begins) {id : ConnectionId}
    (initialised : start.peer.connection = some id) {token : String}
    (fetched : start.platform.tokens.outcome = .ok token) :
    ((QueuedCall.idle start).step .opening).Called id token [] .fresh := by
  have ready := begins.ready initialised
  have goes : start.ends (.event (.socket 0 .opened)) = false := rfl
  have proceeds := ready.proceeds goes nofun
  have quiet : start.raisedBy (.event (.socket 0 .opened)) = [] := by
    simp only [raisedBy, Parts.reports, Parts.socketReports, begins.listening.observed,
      SocketEvent.asks, RelayLink.lets]
    exact ite_self _
  have stepped : (QueuedCall.idle start).step .opening =
      .idle (start.move (.event (.socket 0 .opened))) :=
    (QueuedCall.step_of_proceeds rfl proceeds).trans (congrArg (QueuedCall.mk _) quiet)
  obtain ⟨onLine, frames⟩ := begins.opening fetched
  have fresh : start.toParts.shown PeerConnection.intake id = (some id, some .fresh) := by
    obtain ⟨localStream, tokens, iceConfiguration, label, url, bare | complete⟩ := begins.parts
    · rw [bare] at initialised
      cases initialised
    · rw [complete] at initialised ⊢
      obtain ⟨configuration, shown⟩ := Parts.shown_initPeer PeerConnection.intake rfl initialised
      exact shown
  rw [stepped]
  refine ⟨proceeds.ready, onLine, ?_, ?_, rfl, ?_, rfl, ?_⟩
  · exact fun _ waits => (List.not_mem_nil waits).elim
  · exact (Parts.shown_undergo _ id _ fun _ _ _ => rfl).trans fresh
  · exact proceeds.stage.trans begins.lifecycle
  · exact (List.append_nil _).trans frames

end CallControl
