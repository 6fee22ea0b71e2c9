import CallControl.Proofs.CleanUp
import CallControl.Proofs.Raised
import CallControl.Proofs.Talks

/-! # Descriptions told and taken in

A link at work carries on talks over its peer connection: each of its moves is a step of
the talks (`LinkAtWork.Talking.step`). So what the peer was told is what was created and
set, whatever was refused on the way (`LinkAtWork.descriptions_agree`).
-/

namespace CallControl

/-- The signal that brings the peer a description, if an item asks for one to be sent. -/
def WorkItem.telling? : WorkItem → Option Signal
  | .signal (.offer description) => some (.offer description)
  | .signal (.acceptance description) => some (.acceptance description)
  | _ => none

namespace LinkAtWork

/-- The descriptions that were told to the peer, oldest first, with the answer that is told
when everything held is handed over. -/
def told (work : LinkAtWork) : List Signal :=
  work.parts.platform.dispatched.filterMap WorkItem.telling? ++
    (work.flush.bind Flush.answer).toList.map .acceptance

/-- The remote description that a move sets: a link in the middle of something sets none. -/
def takes (work : LinkAtWork) : WorkMove → List SessionDescription
  | .link (.item item) =>
      if work.flush.isNone then
        work.parts.peerConnection?.elim [] fun current => current.2.takes item
      else []
  | _ => []

/-- The remote descriptions set in some moves, oldest first. -/
def taken (work : LinkAtWork) : List WorkMove → List SessionDescription
  | [] => []
  | move :: rest => work.takes move ++ (work.step move).taken rest

end LinkAtWork

/-! ## What happens on the platform tells nothing -/

private theorem PeerMessage.telling_asks (text : String) :
    (asks text).filterMap WorkItem.telling? = [] := by
  unfold asks
  cases parse? text with
  | none => rfl
  | some message =>
      cases message with
      | toggle event => rfl
      | state report =>
          simp only [items, List.filterMap_append]
          split <;> rfl

private theorem ChannelRole.telling_asks (id : ChannelId) (event : ChannelEvent)
    (role : ChannelRole) :
    (role.asks id event).filterMap WorkItem.telling? = [] := by
  cases role with
  | awaitOpen => cases event <;> rfl
  | peerMessages =>
      cases event with
      | message text => exact PeerMessage.telling_asks text
      | opened => rfl
      | closed => rfl
  | note => rfl

private theorem SocketEvent.telling_asks (event : SocketEvent) :
    event.asks.filterMap WorkItem.telling? = [] := by
  cases event with
  | message text =>
      simp only [asks]
      cases RelayFrame.decode? text <;> rfl
  | opened => rfl
  | closed code reason => rfl
  | error text => rfl

/-- What every element asks for tells nothing, so all of it together does not either. -/
theorem telling_flatMap {Element : Type} {asks : Element → List WorkItem}
    (silent : ∀ element, (asks element).filterMap WorkItem.telling? = [])
    (elements : List Element) : (elements.flatMap asks).filterMap WorkItem.telling? = [] := by
  rw [List.filterMap_flatMap]
  exact List.flatMap_eq_nil_iff.mpr fun element _ => silent element

namespace Parts

private theorem telling_hears (parts : Parts) (event : ConnectionEvent) :
    (parts.hears event).filterMap WorkItem.telling? = [] := by
  cases event with
  | negotiationNeeded => rfl
  | iceCandidate candidate => cases candidate <;> rfl
  | track track => rfl
  | iceState state => cases state <;> rfl
  | dataChannel id =>
      simp only [hears]
      split <;> rfl

private theorem telling_lets (link : RelayLink) (event : SocketEvent) :
    (link.lets event.asks).filterMap WorkItem.telling? = [] := by
  unfold RelayLink.lets
  split
  · rfl
  · exact event.telling_asks

private theorem telling_reports (parts : Parts) (occurrence : Occurrence) :
    (parts.reports occurrence).filterMap WorkItem.telling? = [] := by
  cases occurrence with
  | socket id event =>
      simp only [reports, socketReports]
      split
      · exact telling_lets parts.relay event
      · rfl
  | unheeding event =>
      simp only [reports]
      split
      · exact telling_lets parts.relay event
      · rfl
  | connection id event =>
      refine telling_flatMap (fun audience => ?_) _
      cases audience with
      | link => exact parts.telling_hears event
      | note => rfl
  | channelOpened id => exact telling_flatMap (fun role => role.telling_asks id .opened) _
  | channelMessage id text =>
      exact telling_flatMap (fun role => role.telling_asks id (.message text)) _
  | channelClosed id => rfl

end Parts

/-! ## Every move is a step of the talks -/

namespace LinkAtWork

/-- A link at work carries on talks over a peer connection. -/
structure Talking (work : LinkAtWork) (id : ConnectionId) (talks : Talks) : Prop where
  calm : work.parts.Calm
  shown : work.parts.shown PeerConnection.terms id = (some id, some talks.toTerms)
  flushing : work.flush.isSome = talks.flushing
  target : ∀ flush, work.flush = some flush → flush.connection = id
  told : work.told = talks.told

private theorem told_idle (parts : Parts) :
    (idle parts).told = parts.platform.dispatched.filterMap WorkItem.telling? :=
  List.append_nil _

private theorem told_of_raises {before after : Parts} {items : List WorkItem}
    (raises : before.Raises after items) :
    (idle after).told = (idle before).told ++ items.filterMap WorkItem.telling? := by
  rw [told_idle, told_idle, raises.dispatched, List.filterMap_append]

namespace Talking

variable {parts : Parts} {flush : Option Flush} {id : ConnectionId} {talks : Talks}

/-- Work that neither tells anything nor shows. -/
theorem quietly {after : Parts} {items : List WorkItem}
    (talking : (LinkAtWork.mk parts flush).Talking id talks) (raises : parts.Raises after items)
    (silent : items.filterMap WorkItem.telling? = [])
    (same : after.shown PeerConnection.terms id = parts.shown PeerConnection.terms id) :
    (LinkAtWork.mk after flush).Talking id talks where
  calm := raises.calm
  shown := same.trans talking.shown
  flushing := talking.flushing
  target := talking.target
  told := by
    rw [← talking.told]
    unfold LinkAtWork.told
    rw [raises.dispatched, List.filterMap_append, silent, List.append_nil]

private theorem recover (talking : (LinkAtWork.mk parts flush).Talking id talks) :
    (LinkAtWork.mk parts.recover flush).Talking id talks :=
  talking.quietly (Parts.Raises.refl talking.calm).recover rfl rfl

private theorem undergo (talking : (LinkAtWork.mk parts flush).Talking id talks)
    (occurrence : Occurrence) :
    (LinkAtWork.mk (parts.undergo occurrence) flush).Talking id talks :=
  talking.quietly (Parts.raises_undergo talking.calm occurrence)
    (parts.telling_reports occurrence) (parts.shown_undergo id occurrence fun _ _ _ => rfl)

private theorem adjust (talking : (LinkAtWork.mk parts flush).Talking id talks)
    {adjustment : Adjustment} (unarmed : ∀ traps, adjustment ≠ .trap traps) :
    (LinkAtWork.mk (parts.adjust adjustment) flush).Talking id
      (talks.step id (.link (.adjust adjustment))) := by
  have raises := Parts.raises_of_voice talking.calm (parts.voice_adjust unarmed)
  have overlooked (target : ConnectionId) {change : PeerConnection → PeerConnection}
      (overlooks : ∀ connection held,
        (change connection).terms held = connection.terms held) :
      (parts.modifyConnection target change).shown PeerConnection.terms id =
        parts.shown PeerConnection.terms id :=
    parts.shown_modifyConnection id target fun connection _ held => overlooks connection held
  cases adjustment with
  | refuseRemote target refuses =>
      simp only [Talks.step]
      split
      · rename_i here
        subst here
        obtain ⟨connection, used, found, same⟩ := Parts.connection_of_shown talking.shown
        have refusing := congrArg (fun terms : Terms =>
          (some target, some { terms with refusesRemote := refuses })) same.symm
        exact ⟨raises.calm, (Parts.shown_modify connection used found _).trans refusing,
          talking.flushing, talking.target, talking.told⟩
      · rename_i elsewhere
        exact talking.quietly raises rfl (parts.shown_modifyConnection_of_ne elsewhere _)
  | refuseTracks target refuses =>
      exact talking.quietly raises rfl (overlooked target fun _ _ => rfl)
  | refuseCandidates target refuses =>
      exact talking.quietly raises rfl (overlooked target fun _ _ => rfl)
  | overhearConnection target kind =>
      exact talking.quietly raises rfl (overlooked target fun _ _ => rfl)
  | _ => exact talking.quietly raises rfl rfl

/-- A link that is set up is not set up again. -/
theorem initialise (talking : (idle parts).Talking id talks) :
    (idle (parts.linkMove .initialise)).Talking id talks := by
  obtain ⟨connection, used, _⟩ := Parts.connection_of_shown talking.shown
  have unchanged : parts.initPeer.2 = parts := Parts.initPeer_of_some used
  simp only [Parts.linkMove]
  rw [unchanged]
  exact talking.recover

private theorem sendToPeer (talking : (idle parts).Talking id talks) (text : String) :
    (idle (parts.sendToPeer text)).Talking id talks :=
  talking.quietly (Parts.raises_of_voice talking.calm (parts.voice_sendToPeer text)) rfl
    (Parts.shown_of_channels id (Parts.besidesChannels_sendToPeer parts text))

section Items

variable {connection : PeerConnection}

/-- A candidate that is held, or handed over at once. -/
theorem candidate (talking : (idle parts).Talking id talks)
    (used : parts.peer.connection = some id)
    (found : parts.platform.connections[id]? = some connection)
    (same : talks.toTerms = connection.terms parts.peer.held) (candidate : IceCandidate) :
    (idle (parts.applyItem id connection (.webrtcCandidate candidate))).Talking id
      (talks.receive (.webrtcCandidate candidate)) := by
  have calm : parts.Calm := talking.calm
  have described : talks.theirs = connection.remoteDescription := congrArg Terms.theirs same
  simp only [Parts.applyItem, Talks.receive, ← described]
  split
  · have more := congrArg (fun terms : Terms =>
      (some id, some { terms with held := terms.held + 1 })) same.symm
    have shown : Parts.shown
        { parts with peer := { parts.peer with held := candidate :: parts.peer.held } }
        PeerConnection.terms id = _ :=
      Parts.shown_eq used found
    exact ⟨⟨calm.passing, calm.untrapped, calm.uncrashed⟩, shown.trans more, talking.flushing,
      talking.target, talking.told⟩
  · exact talking.quietly (Parts.raises_of_voice calm rfl) rfl
      (parts.shown_modifyConnection id id fun _ _ _ => rfl)

/-- An offer is made and told. -/
theorem negotiationNeeded (talking : (idle parts).Talking id talks)
    (used : parts.peer.connection = some id)
    (found : parts.platform.connections[id]? = some connection)
    (same : talks.toTerms = connection.terms parts.peer.held) :
    (idle (parts.applyItem id connection .negotiationNeeded)).Talking id
      (talks.receive .negotiationNeeded) := by
  have calm : parts.Calm := talking.calm
  have closes : talks.closed = connection.closed := congrArg Terms.closed same
  simp only [Parts.applyItem, Talks.receive, closes]
  rcases Bool.eq_false_or_eq_true connection.closed with closed | working
  · rw [Parts.makeOffer_of_closed closed, if_pos closed]
    exact talking
  · rw [Parts.makeOffer_of_open working, if_neg (Bool.eq_false_iff.mp working)]
    dsimp only
    have offering : parts.Raises (parts.modifyConnection id fun _ => { connection with
        offerOptions := connection.offerOptions ++ [.standard]
        localDescription := some connection.nextOffer }) [] :=
      Parts.raises_of_voice calm rfl
    have raises := offering.raise (.signal (.offer connection.nextOffer))
    refine ⟨raises.calm, ?_, talking.flushing, talking.target, ?_⟩
    · rw [Talks.toTerms_propose same]
      exact (Parts.shown_of_channels id (Parts.besidesChannels_raiseFromPeer _ _)).trans
        (Parts.shown_modify connection used found _)
    · rw [Talks.told_propose same, ← talking.told]
      exact told_of_raises raises

/-- An item that brings no description. -/
theorem applyItem (talking : (idle parts).Talking id talks)
    (used : parts.peer.connection = some id)
    (found : parts.platform.connections[id]? = some connection)
    (same : talks.toTerms = connection.terms parts.peer.held) {item : PeerItem}
    (undescribed : item.describes = false) :
    (idle (parts.applyItem id connection item)).Talking id (talks.receive item) := by
  have raises := Parts.raises_applyItem talking.calm found item
  cases item with
  | webrtcOffer offer => cases undescribed
  | webrtcAcceptance answer => cases undescribed
  | webrtcCandidate candidate => exact talking.candidate used found same candidate
  | negotiationNeeded => exact talking.negotiationNeeded used found same
  | userJoined =>
      refine talking.quietly raises rfl ?_
      exact (Parts.shown_addLocalTracks _ id id fun _ _ _ => rfl).trans
        (Parts.shown_of_channels id (Parts.besidesChannels_openChannel parts connection))
  | dataChannel channel =>
      refine talking.quietly raises rfl (Parts.shown_of_channels id ?_)
      exact (Parts.besidesChannels_sendState _ _).trans (Parts.besidesChannels_adoptChannel _ _)
  | sendInitialState =>
      exact talking.quietly raises rfl
        (Parts.shown_of_channels id (Parts.besidesChannels_sendState parts false))

/-- An offer that is answered unless it is refused. -/
theorem beginOffer (talking : (idle parts).Talking id talks) (offer : SessionDescription) :
    (parts.beginOffer id offer).Talking id (talks.receive (.webrtcOffer offer)) := by
  have calm : parts.Calm := talking.calm
  have quiet := Parts.raises_of_voice calm (Parts.voice_addLocalTracks parts id)
  have tracked : (idle (parts.addLocalTracks id)).Talking id talks :=
    talking.quietly quiet rfl (parts.shown_addLocalTracks id id fun _ _ _ => rfl)
  obtain ⟨current, used, found, same⟩ := Parts.connection_of_shown tracked.shown
  change (parts.addLocalTracks id).platform.connections[id]? = some current at found
  have refusal : talks.refusesRemote = current.refusesRemote := congrArg Terms.refusesRemote same
  simp only [Parts.beginOffer, found, Talks.receive, refusal]
  rcases Bool.eq_false_or_eq_true current.refusesRemote with refuses | willing
  · rw [Parts.acceptOffer_of_refuses refuses, if_pos refuses]
    exact tracked.recover
  · rw [Parts.acceptOffer_of_willing willing, if_neg (Bool.eq_false_iff.mp willing)]
    dsimp only
    refine ⟨⟨quiet.calm.passing, quiet.calm.untrapped, quiet.calm.uncrashed⟩, ?_, rfl, ?_, ?_⟩
    · rw [Talks.toTerms_accept same]
      exact Parts.shown_modify current used found _
    · rintro flush ⟨⟩
      rfl
    · rw [Talks.told_accept same, ← tracked.told, told_idle]
      rfl

/-- An acceptance is taken in unless it is refused. -/
theorem beginAcceptance (talking : (idle parts).Talking id talks)
    (used : parts.peer.connection = some id)
    (found : parts.platform.connections[id]? = some connection)
    (same : talks.toTerms = connection.terms parts.peer.held) (answer : SessionDescription) :
    (parts.beginAcceptance id connection answer).Talking id
      (talks.receive (.webrtcAcceptance answer)) := by
  have calm : parts.Calm := talking.calm
  have refusal : talks.refusesRemote = connection.refusesRemote :=
    congrArg Terms.refusesRemote same
  simp only [Parts.beginAcceptance, Talks.receive, refusal]
  rcases Bool.eq_false_or_eq_true connection.refusesRemote with refuses | willing
  · rw [PeerConnection.setRemote_of_refuses refuses, if_pos refuses]
    exact talking.recover
  · have described := congrArg (fun terms : Terms =>
      (some id, some { terms with theirs := some answer })) same.symm
    rw [PeerConnection.setRemote_of_willing willing, if_neg (Bool.eq_false_iff.mp willing)]
    dsimp only
    refine ⟨⟨calm.passing, calm.untrapped, calm.uncrashed⟩, ?_, rfl, ?_, talking.told⟩
    · exact (Parts.shown_modify connection used found _).trans described
    · rintro flush ⟨⟩
      rfl

/-- Beginning with an item is a step of the talks. -/
theorem beginItem (talking : (idle parts).Talking id talks) (item : PeerItem) :
    (parts.beginItem item).Talking id (talks.receive item) := by
  obtain ⟨connection, used, found, same⟩ := Parts.connection_of_shown talking.shown
  have inUse : parts.peerConnection? = some (id, connection) := Parts.peerConnection?_eq used found
  unfold Parts.beginItem
  rw [inUse]
  have other (undescribed : item.describes = false) :
      (idle (parts.processItem item).2.recover).Talking id (talks.receive item) := by
    have applied : (parts.processItem item).2 = parts.applyItem id connection item := by
      unfold Parts.processItem
      rw [inUse]
    rw [applied]
    exact (talking.applyItem used found same undescribed).recover
  cases item with
  | webrtcOffer offer => exact talking.beginOffer offer
  | webrtcAcceptance answer => exact talking.beginAcceptance used found same answer
  | webrtcCandidate candidate => exact other rfl
  | userJoined => exact other rfl
  | dataChannel channel => exact other rfl
  | sendInitialState => exact other rfl
  | negotiationNeeded => exact other rfl

end Items

/-- Everything held was handed over, and the answer is raised if there is one. -/
theorem finish {flush : Flush}
    (talking : (LinkAtWork.mk parts (some flush)).Talking id talks) :
    (idle (flush.finish parts)).Talking id { talks with flushing := false } := by
  have calm : parts.Calm := talking.calm
  have told : parts.platform.dispatched.filterMap WorkItem.telling? ++
      flush.answer.toList.map .acceptance = talks.told := talking.told
  unfold Flush.finish
  cases answered : flush.answer with
  | none =>
      have raises := (Parts.Raises.refl calm).recover
      refine ⟨raises.calm, talking.shown, rfl, nofun, ?_⟩
      rw [answered] at told
      exact told
  | some answer =>
      have raises := (Parts.raises_raiseFromPeer calm (.signal (.acceptance answer))).recover
      refine ⟨raises.calm, ?_, rfl, nofun, ?_⟩
      · exact (Parts.shown_of_channels id (Parts.besidesChannels_raiseFromPeer _ _)).trans
          talking.shown
      · rw [answered] at told
        refine (told_of_raises raises).trans ?_
        rw [told_idle]
        exact told

/-- A held candidate is handed over, or the answer is told when there is none left. -/
theorem handOver {flush : Flush}
    (talking : (LinkAtWork.mk parts (some flush)).Talking id talks) :
    (LinkAtWork.step ⟨parts, some flush⟩ .handOver).Talking id talks.handOver := by
  have calm : parts.Calm := talking.calm
  obtain ⟨connection, used, found, same⟩ := Parts.connection_of_shown talking.shown
  have length : talks.held = parts.peer.held.length := congrArg Terms.held same
  have target := talking.target flush rfl
  unfold Talks.handOver
  rw [length]
  cases held : parts.peer.held with
  | nil =>
      simp only [LinkAtWork.step, held, List.length_nil, ↓reduceIte]
      exact talking.finish
  | cons candidate rest =>
      have fewer := congrArg (fun terms : Terms =>
        (some id, some { terms with held := rest.length })) same.symm
      have shown : (parts.handOver id candidate rest).shown PeerConnection.terms id = _ :=
        Parts.shown_eq used (Parts.getElem?_modifyConnection found _)
      simp only [LinkAtWork.step, held, target, List.length_cons, Nat.add_one_ne_zero, ↓reduceIte,
        Nat.add_sub_cancel]
      exact ⟨⟨calm.passing, calm.untrapped, calm.uncrashed⟩, shown.trans fewer, talking.flushing,
        talking.target, talking.told⟩

/-- Every move is a step of the talks, unless it disrupts the link. -/
theorem step {work : LinkAtWork} (talking : work.Talking id talks) {move : WorkMove}
    (kept : move.disrupts = false) : (work.step move).Talking id (talks.step id move) := by
  obtain ⟨parts, flush⟩ := work
  have unarmed {adjustment : Adjustment} (same : move = .link (.adjust adjustment)) :
      ∀ traps, adjustment ≠ .trap traps := by
    rintro traps rfl
    rw [same] at kept
    cases kept
  cases flush with
  | none =>
      have settled : talks.flushing = false := talking.flushing.symm
      cases move with
      | handOver =>
          simp only [Talks.step, settled, Bool.false_eq_true, ↓reduceIte]
          exact talking
      | link move =>
          cases move with
          | item item =>
              simp only [Talks.step, settled, Bool.false_eq_true, ↓reduceIte]
              exact talking.beginItem item
          | cleanUp => cases kept
          | event occurrence => exact talking.undergo occurrence
          | adjust adjustment => exact talking.adjust (unarmed rfl)
          | initialise => exact talking.initialise
          | sendState requestState => exact talking.sendToPeer _
          | sendEvent event => exact talking.sendToPeer _
  | some flush =>
      have busy : talks.flushing = true := talking.flushing.symm
      cases move with
      | handOver =>
          simp only [Talks.step, busy, ↓reduceIte]
          exact talking.handOver
      | link move =>
          cases move with
          | item item =>
              simp only [Talks.step, busy, ↓reduceIte]
              exact talking
          | cleanUp => cases kept
          | event occurrence => exact talking.undergo occurrence
          | adjust adjustment => exact talking.adjust (unarmed rfl)
          | initialise => exact talking
          | sendState requestState => exact talking
          | sendEvent event => exact talking

private theorem taken_step {work : LinkAtWork} (talking : work.Talking id talks) (move : WorkMove) :
    (talks.step id move).taken = talks.taken ++ work.takes move := by
  obtain ⟨parts, flush⟩ := work
  obtain ⟨connection, used, found, same⟩ := Parts.connection_of_shown talking.shown
  have inUse : parts.peerConnection? = some (id, connection) := Parts.peerConnection?_eq used found
  have none_taken {after : Talks} (unchanged : after.taken = talks.taken) :
      after.taken = talks.taken ++ [] :=
    unchanged.trans (List.append_nil _).symm
  cases move with
  | handOver =>
      simp only [Talks.step, Talks.handOver, takes]
      split
      · split
        · exact none_taken rfl
        · exact none_taken rfl
      · exact none_taken rfl
  | link move =>
      cases move with
      | item item =>
          simp only [Talks.step, takes, ← talking.flushing, inUse]
          cases flush with
          | none => exact Talks.taken_receive same item
          | some flush => exact none_taken rfl
      | adjust adjustment =>
          cases adjustment with
          | refuseRemote target refuses =>
              simp only [Talks.step, takes]
              split
              · exact none_taken rfl
              · exact none_taken rfl
          | _ => exact none_taken rfl
      | _ => exact none_taken rfl

private theorem run {work : LinkAtWork} (talking : work.Talking id talks) {moves : List WorkMove}
    (kept : ∀ move ∈ moves, move.disrupts = false) :
    (work.run moves).Talking id (talks.run id moves) ∧
      (talks.run id moves).taken = talks.taken ++ work.taken moves := by
  induction moves generalizing work talks with
  | nil => exact ⟨talking, (List.append_nil _).symm⟩
  | cons move rest ih =>
      obtain ⟨reached, taken⟩ := ih (talking.step (kept move List.mem_cons_self))
        fun later member => kept later (List.mem_cons_of_mem _ member)
      refine ⟨reached, ?_⟩
      rw [Talks.run_cons, taken, talking.taken_step, List.append_assoc]
      rfl

end Talking

/-! ## Before there is a peer connection -/

/-- A link that has no peer connection yet and told nothing. -/
structure Unmet (work : LinkAtWork) : Prop where
  calm : work.parts.Calm
  absent : work.parts.peer.connection = none
  idle : work.flush = none
  silent : work.told = []

namespace Unmet

variable {work : LinkAtWork}

private theorem takes (unmet : work.Unmet) (move : WorkMove) : work.takes move = [] := by
  cases move with
  | handOver => rfl
  | link move =>
      cases move with
      | item item =>
          simp only [LinkAtWork.takes, Parts.peerConnection?, unmet.absent, Option.bind_none]
          exact ite_self _
      | _ => rfl

/-- Until it is set up a link moves without telling anything. -/
theorem linkMove {parts : Parts} (unmet : (LinkAtWork.idle parts).Unmet) {move : LinkMove}
    (kept : (WorkMove.link move).disrupts = false) :
    (parts.linkMove move).Calm ∧ (LinkAtWork.idle (parts.linkMove move)).told = [] := by
  have uncleaned : move ≠ .cleanUp := by
    rintro rfl
    cases kept
  have unarmed : ∀ traps, move ≠ .adjust (.trap traps) := by
    rintro traps rfl
    cases kept
  have raises := Parts.raises_linkMove unmet.calm uncleaned unarmed
  have absent : parts.peer.connection = none := unmet.absent
  have silent : (parts.raisedBy move).filterMap WorkItem.telling? = [] := by
    cases move with
    | item item =>
        simp only [Parts.raisedBy, Parts.tells, Parts.peerConnection?, absent, Option.bind_none]
        rfl
    | event occurrence => exact parts.telling_reports occurrence
    | _ => rfl
  refine ⟨raises.calm, (told_of_raises raises).trans ?_⟩
  change (LinkAtWork.idle parts).told ++ (parts.raisedBy move).filterMap WorkItem.telling? = []
  rw [unmet.silent, silent, List.append_nil]

/-- A link stays as it is or begins to talk over a new peer connection. -/
theorem step (unmet : work.Unmet) {move : WorkMove} (kept : move.disrupts = false) :
    (work.step move).Unmet ∨ ∃ id held, (work.step move).Talking id (.opening held) := by
  obtain ⟨parts, flush⟩ := work
  obtain rfl : flush = none := unmet.idle
  have absent : parts.peer.connection = none := unmet.absent
  cases move with
  | handOver => exact Or.inl unmet
  | link move =>
      have moved : LinkAtWork.step ⟨parts, none⟩ (.link move) =
          LinkAtWork.idle (parts.linkMove move) := by
        cases move with
        | item item =>
            simp only [LinkAtWork.step, Parts.beginItem, Parts.peerConnection?, absent,
              Option.bind_none]
            rfl
        | _ => rfl
      obtain ⟨calm, silent⟩ := unmet.linkMove kept
      rw [moved]
      by_cases initial : move = .initialise
      · subst initial
        cases used : parts.initPeer.2.peer.connection with
        | none => exact Or.inl ⟨calm, used, rfl, silent⟩
        | some id =>
            obtain ⟨configuration, shown⟩ :=
              Parts.shown_initPeer PeerConnection.terms absent used
            have target : ∀ flush : Flush, none = some flush → flush.connection = id := by
              rintro flush ⟨⟩
            exact Or.inr ⟨id, parts.peer.held.length, calm, shown, rfl, target, silent⟩
      · exact Or.inl ⟨calm, Parts.connection_linkMove absent initial, rfl, silent⟩

/-- Once there is a peer connection the link carries on sound talks over it. -/
theorem run (unmet : work.Unmet) {moves : List WorkMove}
    (kept : ∀ move ∈ moves, move.disrupts = false) :
    (work.run moves).Unmet ∨ ∃ id talks, (work.run moves).Talking id talks ∧ talks.Sound ∧
      talks.taken = work.taken moves := by
  induction moves generalizing work with
  | nil => exact Or.inl unmet
  | cons move rest ih =>
      have later : ∀ move ∈ rest, move.disrupts = false :=
        fun move member => kept move (List.mem_cons_of_mem _ member)
      have taken : work.taken (move :: rest) = (work.step move).taken rest := by
        rw [LinkAtWork.taken, unmet.takes, List.nil_append]
      rw [taken]
      rcases unmet.step (kept move List.mem_cons_self) with still | ⟨id, held, talking⟩
      · exact ih still later
      · obtain ⟨reached, same⟩ := talking.run later
        exact Or.inr ⟨id, _, reached, (Talks.Sound.opening held).run id rest, same⟩

end Unmet

/-! ## Whatever happens -/

private theorem unmet_bareLink (localStream : MediaStream) (tokens : TokenScript)
    (iceConfiguration : Except Failure IceConfiguration) (label : String) :
    (idle (Parts.bareLink localStream tokens iceConfiguration label)).Unmet :=
  ⟨Parts.calm_bareLink localStream tokens iceConfiguration label, rfl, rfl, rfl⟩

section Agreement

variable {work : LinkAtWork} {id : ConnectionId} {talks : Talks} {connection : PeerConnection}

/-- Sound talks agree with what the peer connection records. -/
theorem Talking.agree (talking : work.Talking id talks) (sound : talks.Sound)
    (same : talks.toTerms = connection.terms work.parts.peer.held) :
    work.told.countP Signal.isOffer = connection.offersCreated ∧
      work.told.countP Signal.isAcceptance = connection.answersCreated ∧
      connection.localDescription = work.told.getLast?.bind Signal.description? ∧
      connection.remoteDescription = talks.taken.getLast? := by
  have offers : talks.offers = connection.offersCreated := congrArg Terms.offers same
  have answers : talks.answers = connection.answersCreated := congrArg Terms.answers same
  have ours : talks.ours = connection.localDescription := congrArg Terms.ours same
  have theirs : talks.theirs = connection.remoteDescription := congrArg Terms.theirs same
  rw [talking.told]
  exact ⟨sound.offers.trans offers, sound.answers.trans answers, ours.symm.trans sound.ours,
    theirs.symm.trans sound.theirs⟩

/-- An item tells one offer if negotiation is needed, and one acceptance if it brings an
offer that is not refused. -/
theorem Talking.told_item (talking : work.Talking id talks) (sound : talks.Sound)
    (same : talks.toTerms = connection.terms work.parts.peer.held)
    (settled : work.flush = none) (item : PeerItem) :
    ∃ telling, (work.step (.link (.item item))).told = work.told ++ telling ∧
      match item with
      | .negotiationNeeded => ∃ offer, telling = [.offer offer]
      | .webrtcOffer offer =>
          match connection.setRemote offer with
          | .ok _ => ∃ answer, telling = [.acceptance answer]
          | .error _ => telling = []
      | _ => telling = [] := by
  obtain ⟨parts, flush⟩ := work
  obtain rfl : flush = none := settled
  have told : (parts.beginItem item).told = (idle parts).told ++ connection.tells item := by
    rw [(talking.beginItem item).told, Talks.told_receive same item, ← talking.told]
    rfl
  refine ⟨_, told, ?_⟩
  cases item with
  | negotiationNeeded =>
      have closes : talks.closed = connection.closed := congrArg Terms.closed same
      have working : ¬ connection.closed = true :=
        Bool.eq_false_iff.mp (closes.symm.trans sound.working)
      exact ⟨_, if_neg working⟩
  | webrtcOffer offer =>
      dsimp only
      rcases Bool.eq_false_or_eq_true connection.refusesRemote with refuses | willing
      · rw [PeerConnection.setRemote_of_refuses refuses]
        exact if_pos refuses
      · rw [PeerConnection.setRemote_of_willing willing]
        exact ⟨_, if_neg (Bool.eq_false_iff.mp willing)⟩
  | userJoined => rfl
  | webrtcAcceptance answer => rfl
  | webrtcCandidate candidate => rfl
  | dataChannel channel => rfl
  | sendInitialState => rfl

/-- Nothing but an item makes a link tell its peer a description. -/
theorem Talking.told_step (talking : work.Talking id talks) {move : WorkMove}
    (kept : move.disrupts = false) (itemless : ∀ item, move ≠ .link (.item item)) :
    (work.step move).told = work.told := by
  have unchanged : (talks.step id move).told = talks.told := by
    cases move with
    | handOver =>
        simp only [Talks.step, Talks.handOver]
        split
        · split <;> rfl
        · rfl
    | link move =>
        cases move with
        | item item => exact (itemless item rfl).elim
        | adjust adjustment =>
            cases adjustment with
            | refuseRemote target refuses =>
                simp only [Talks.step]
                split <;> rfl
            | _ => rfl
        | _ => rfl
  rw [(talking.step kept).told, talking.told, unchanged]

/-- It does not matter which tracks and candidates are refused, and when. -/
theorem Talking.unhindered (talking : work.Talking id talks) {first second : List WorkMove}
    (keptFirst : ∀ move ∈ first, move.disrupts = false)
    (keptSecond : ∀ move ∈ second, move.disrupts = false)
    (alike : (first.filter fun move => !move.hinders) =
      (second.filter fun move => !move.hinders)) :
    (work.run first).told = (work.run second).told ∧
      ∃ one other, (work.run first).parts.platform.connections[id]? = some one ∧
        (work.run second).parts.platform.connections[id]? = some other ∧
        one.offersCreated = other.offersCreated ∧ one.answersCreated = other.answersCreated ∧
        one.localDescription = other.localDescription ∧
        one.remoteDescription = other.remoteDescription := by
  have talked : talks.run id first = talks.run id second := by
    rw [← talks.run_unhindered id first, alike, talks.run_unhindered]
  obtain ⟨reachedFirst, _⟩ := talking.run keptFirst
  obtain ⟨reachedSecond, _⟩ := talking.run keptSecond
  rw [talked] at reachedFirst
  obtain ⟨one, _, foundOne, sameOne⟩ := Parts.connection_of_shown reachedFirst.shown
  obtain ⟨other, _, foundOther, sameOther⟩ := Parts.connection_of_shown reachedSecond.shown
  have same := sameOne.symm.trans sameOther
  refine ⟨reachedFirst.told.trans reachedSecond.told.symm, one, other, foundOne, foundOther,
    congrArg Terms.offers same, congrArg Terms.answers same, congrArg Terms.ours same,
    congrArg Terms.theirs same⟩

end Agreement

/-- Whatever else happens to a link that was set up and neither cleaned up nor made to
break off, it tells its peer as many offers and acceptances as its peer connection
created. The local description is the one told last, and the remote description the one
set last. An item tells one offer if negotiation is needed, one acceptance if it brings an
offer that is not refused, and nothing otherwise, and nothing else tells a description.
None of this depends on which tracks and candidates are refused, and when. -/
theorem descriptions_agree (localStream : MediaStream) (tokens : TokenScript)
    (iceConfiguration : Except Failure IceConfiguration) (label : String)
    (moves : List WorkMove) (kept : ∀ move ∈ moves, move.disrupts = false) (id : ConnectionId)
    (initialised : ((idle (Parts.bareLink localStream tokens iceConfiguration label)).run
      moves).parts.peer.connection = some id) :
    let start := idle (Parts.bareLink localStream tokens iceConfiguration label)
    let reached := start.run moves
    (∃ connection, reached.parts.platform.connections[id]? = some connection ∧
      reached.told.countP Signal.isOffer = connection.offersCreated ∧
      reached.told.countP Signal.isAcceptance = connection.answersCreated ∧
      connection.localDescription = reached.told.getLast?.bind Signal.description? ∧
      connection.remoteDescription = (start.taken moves).getLast? ∧
      (reached.flush = none → ∀ item, ∃ telling,
        (reached.step (.link (.item item))).told = reached.told ++ telling ∧
        match item with
        | .negotiationNeeded => ∃ offer, telling = [.offer offer]
        | .webrtcOffer offer =>
            match connection.setRemote offer with
            | .ok _ => ∃ answer, telling = [.acceptance answer]
            | .error _ => telling = []
        | _ => telling = [])) ∧
    (∀ move, move.disrupts = false → (∀ item, move ≠ .link (.item item)) →
      (reached.step move).told = reached.told) ∧
    (∀ first second : List WorkMove, (∀ move ∈ first, move.disrupts = false) →
      (∀ move ∈ second, move.disrupts = false) →
      (first.filter fun move => !move.hinders) = (second.filter fun move => !move.hinders) →
      (reached.run first).told = (reached.run second).told ∧
      ∃ one other, (reached.run first).parts.platform.connections[id]? = some one ∧
        (reached.run second).parts.platform.connections[id]? = some other ∧
        one.offersCreated = other.offersCreated ∧ one.answersCreated = other.answersCreated ∧
        one.localDescription = other.localDescription ∧
        one.remoteDescription = other.remoteDescription) := by
  intro start reached
  have unmet := unmet_bareLink localStream tokens iceConfiguration label
  obtain ⟨talks, talking, sound, taken⟩ : ∃ talks, reached.Talking id talks ∧ talks.Sound ∧
      talks.taken = start.taken moves := by
    rcases unmet.run kept with still | ⟨used, talks, talking, sound⟩
    · exact nomatch still.absent.symm.trans initialised
    · obtain ⟨_, current, _⟩ := Parts.connection_of_shown talking.shown
      obtain rfl : used = id := Option.some.inj (current.symm.trans initialised)
      exact ⟨talks, talking, sound⟩
  refine ⟨?_, fun move undisrupted itemless => talking.told_step undisrupted itemless,
    fun first second keptFirst keptSecond alike => talking.unhindered keptFirst keptSecond alike⟩
  obtain ⟨connection, _, found, same⟩ := Parts.connection_of_shown talking.shown
  obtain ⟨offers, answers, ours, theirs⟩ := talking.agree sound same
  rw [taken] at theirs
  exact ⟨connection, found, offers, answers, ours, theirs,
    fun settled item => talking.told_item sound same settled item⟩

/-- A link that makes an offer and then answers one, which makes it hand over a candidate,
and is brought another one while descriptions are refused. It told an offer and an
acceptance, and makes the same offer next whether tracks are refused or not. -/
theorem descriptions_agree_answered :
    let start := idle (Parts.bareLink ⟨"local", []⟩ (.ofAnswers []) (.ok ⟨[]⟩) "")
    let offered : WorkMove := .link (.item (.webrtcOffer ⟨.null⟩))
    let needed : WorkMove := .link (.item .negotiationNeeded)
    let moves : List WorkMove := [.link .initialise, needed,
      .link (.item (.webrtcCandidate ⟨.null⟩)), offered, .handOver, .handOver,
      .link (.adjust (.refuseRemote 0 true)), offered]
    let hindrance : WorkMove := .link (.adjust (.refuseTracks 0 true))
    let reached := start.run moves
    (∃ connection, reached.parts.platform.connections[0]? = some connection ∧
      connection.offersCreated = 1 ∧ connection.answersCreated = 1 ∧
      connection.remoteDescription.isSome = true) ∧
    (reached.run [hindrance, needed]).told = (reached.run [needed]).told := by
  intro start offered needed moves hindrance reached
  obtain ⟨⟨connection, found, offers, answers, _, theirs, _⟩, _, unhindered⟩ :=
    descriptions_agree ⟨"local", []⟩ (.ofAnswers []) (.ok ⟨[]⟩) "" moves (by decide) 0
      (by decide +kernel)
  -- The state is named, so that it is not computed to compare it.
  have named : reached =
      (idle (Parts.bareLink ⟨"local", []⟩ (.ofAnswers []) (.ok ⟨[]⟩) "")).run moves := rfl
  rw [← named] at found offers answers unhindered
  have oneOffer : reached.told.countP Signal.isOffer = 1 := by decide +kernel
  have oneAnswer : reached.told.countP Signal.isAcceptance = 1 := by decide +kernel
  have oneTaken : (start.taken moves).getLast?.isSome = true := by decide +kernel
  refine ⟨⟨connection, found, offers.symm.trans oneOffer, answers.symm.trans oneAnswer, ?_⟩, ?_⟩
  · rw [theirs]
    exact oneTaken
  · exact (unhindered [hindrance, needed] [needed] (by decide) (by decide) rfl).1

end LinkAtWork

end CallControl
