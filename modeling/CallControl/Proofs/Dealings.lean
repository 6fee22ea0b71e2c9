import CallControl.Proofs.LinkAtWork
import CallControl.Proofs.Shown

/-! # Dealings with a peer connection

What matters for candidates is a small part of a link and of the peer connection that it
uses: the candidates handed over and held, whether there is a remote description, and
what the peer connection refuses (`Dealings`). Each piece of work either leaves that
alone or changes it in one of a few ways (`Dealings.Change`), and each of those ways
keeps candidates and descriptions in balance (`Dealings.Balanced`).
-/

namespace CallControl

/-! ## The dealings of a link with its peer connection -/

/-- What concerns candidates on a peer connection and in the link that uses it. -/
structure Dealings where
  requests : List CandidateRequest
  /-- There is a remote description. -/
  described : Bool
  refusesRemote : Bool
  refusesCandidates : Bool
  held : List IceCandidate

/-- The dealings over a peer connection of a link that holds some candidates. -/
def PeerConnection.dealings (connection : PeerConnection) (held : List IceCandidate) : Dealings :=
  ⟨connection.candidateRequests, connection.remoteDescription.isSome, connection.refusesRemote,
    connection.refusesCandidates, held⟩

namespace Dealings

/-- A candidate handed to the peer connection. -/
def take (dealings : Dealings) (candidate : IceCandidate) : Dealings :=
  { dealings with
    requests := dealings.requests ++
      [⟨candidate, dealings.described && !dealings.refusesCandidates⟩] }

/-- Every candidate received was handed over or is held, and none is held for longer than
it takes to hand it over once there is a remote description. -/
structure Balanced (dealings : Dealings) (received : List IceCandidate) (flushing : Bool) :
    Prop where
  conserved : received.Perm
    (dealings.requests.map CandidateRequest.candidate ++ dealings.held)
  settled : flushing = false → dealings.described = true → dealings.held = []
  flushes : flushing = true → dealings.described = true
  early : dealings.described = false → dealings.requests = []

namespace Balanced

variable {dealings : Dealings} {received : List IceCandidate} {flushing : Bool}

/-- Beginning or ceasing to refuse something. -/
theorem refuse (balanced : dealings.Balanced received flushing) (remote candidates : Bool) :
    ({ dealings with refusesRemote := remote, refusesCandidates := candidates } :
      Dealings).Balanced received flushing :=
  ⟨balanced.conserved, balanced.settled, balanced.flushes, balanced.early⟩

/-- A candidate that comes before the remote description is held. -/
theorem hold (balanced : dealings.Balanced received false) (early : dealings.described = false)
    (candidate : IceCandidate) :
    ({ dealings with held := candidate :: dealings.held } : Dealings).Balanced
      (received ++ [candidate]) false where
  conserved := by
    refine (List.perm_append_singleton candidate received).trans ?_
    exact (balanced.conserved.cons candidate).trans List.perm_middle.symm
  settled := fun _ described => absurd (early.symm.trans described) Bool.false_ne_true
  flushes := fun flushing => absurd flushing Bool.false_ne_true
  early := balanced.early

/-- A candidate that comes after the remote description is handed over. -/
theorem take (balanced : dealings.Balanced received false) (described : dealings.described = true)
    (candidate : IceCandidate) :
    (dealings.take candidate).Balanced (received ++ [candidate]) false where
  conserved := by
    have empty := balanced.settled rfl described
    have conserved := balanced.conserved
    simp only [Dealings.take, List.map_append, List.map_cons, List.map_nil, empty,
      List.append_nil] at conserved ⊢
    exact conserved.append_right [candidate]
  settled := balanced.settled
  flushes := fun flushing => absurd flushing Bool.false_ne_true
  early := fun early => absurd (early.symm.trans described) Bool.false_ne_true

/-- A remote description is set. -/
theorem describe (balanced : dealings.Balanced received false) :
    ({ dealings with described := true } : Dealings).Balanced received true where
  conserved := balanced.conserved
  settled := fun flushing => absurd flushing.symm Bool.false_ne_true
  flushes := fun _ => rfl
  early := fun early => absurd early.symm Bool.false_ne_true

/-- A held candidate is handed over. -/
theorem handOver (balanced : dealings.Balanced received true) {candidate : IceCandidate}
    {rest : List IceCandidate} (held : dealings.held = candidate :: rest) :
    ({ dealings.take candidate with held := rest } : Dealings).Balanced received true where
  conserved := by
    have conserved := balanced.conserved
    rw [held] at conserved
    simpa only [Dealings.take, List.map_append, List.map_cons, List.map_nil, List.append_assoc,
      List.singleton_append] using conserved
  settled := fun flushing => absurd flushing.symm Bool.false_ne_true
  flushes := balanced.flushes
  early := fun early =>
    absurd (early.symm.trans (balanced.flushes rfl)) Bool.false_ne_true

/-- Everything held was handed over. -/
theorem finish (balanced : dealings.Balanced received true) (held : dealings.held = []) :
    dealings.Balanced received false :=
  ⟨balanced.conserved, fun _ _ => held, fun flushing => absurd flushing Bool.false_ne_true,
    balanced.early⟩

end Balanced

/-- Nothing is or was refused, and there is a remote description if one came. -/
structure Willing (dealings : Dealings) (described : Bool) : Prop where
  remote : dealings.refusesRemote = false
  candidates : dealings.refusesCandidates = false
  accepted : ∀ request ∈ dealings.requests, request.accepted = true
  described : dealings.described = described

private theorem Willing.take {dealings : Dealings} (willing : dealings.Willing true)
    (candidate : IceCandidate) : (dealings.take candidate).Willing true where
  remote := willing.remote
  candidates := willing.candidates
  accepted := by
    intro request member
    rcases List.mem_append.mp member with earlier | last
    · exact willing.accepted request earlier
    · rw [List.mem_singleton.mp last, willing.candidates, willing.described]
      rfl
  described := willing.described

/-- What one step does to the dealings of a link, with the candidates that it received and
whether a description came. -/
inductive Change (dealings : Dealings) :
    Bool → Dealings → Bool → List IceCandidate → Bool → Prop where
  | same (flushing : Bool) : Change dealings flushing dealings flushing [] false
  | hold (candidate : IceCandidate) (early : dealings.described = false) :
      Change dealings false { dealings with held := candidate :: dealings.held } false [candidate]
        false
  | take (candidate : IceCandidate) (described : dealings.described = true) :
      Change dealings false (dealings.take candidate) false [candidate] false
  | refused (refuses : dealings.refusesRemote = true) :
      Change dealings false dealings false [] true
  | describe : Change dealings false { dealings with described := true } true [] true
  | handOver (candidate : IceCandidate) (rest : List IceCandidate)
      (held : dealings.held = candidate :: rest) :
      Change dealings true { dealings.take candidate with held := rest } true [] false
  | finish (held : dealings.held = []) : Change dealings true dealings false [] false

/-- No change loses or repeats a candidate. -/
theorem Change.balanced {before after : Dealings} {flushing flushes described : Bool}
    {candidates received : List IceCandidate}
    (change : before.Change flushing after flushes candidates described)
    (balanced : before.Balanced received flushing) :
    after.Balanced (received ++ candidates) flushes := by
  cases change with
  | hold candidate early => exact balanced.hold early candidate
  | take candidate already => exact balanced.take already candidate
  | same =>
      rw [List.append_nil]
      exact balanced
  | refused refuses =>
      rw [List.append_nil]
      exact balanced
  | describe =>
      rw [List.append_nil]
      exact balanced.describe
  | handOver candidate rest held =>
      rw [List.append_nil]
      exact balanced.handOver held
  | finish held =>
      rw [List.append_nil]
      exact balanced.finish held

/-- As long as nothing is refused, each description that comes is taken. -/
theorem Change.willing {before after : Dealings} {flushing flushes described earlier : Bool}
    {candidates received : List IceCandidate}
    (change : before.Change flushing after flushes candidates described)
    (balanced : before.Balanced received flushing) (willing : before.Willing earlier) :
    after.Willing (earlier || described) := by
  cases change with
  | same =>
      rw [Bool.or_false]
      exact willing
  | hold candidate early =>
      rw [Bool.or_false]
      exact ⟨willing.remote, willing.candidates, willing.accepted, willing.described⟩
  | take candidate already =>
      rw [Bool.or_false]
      have same := willing.described.symm.trans already
      subst same
      exact willing.take candidate
  | refused refuses => exact absurd (willing.remote.symm.trans refuses) Bool.false_ne_true
  | describe =>
      rw [Bool.or_true]
      exact ⟨willing.remote, willing.candidates, willing.accepted, rfl⟩
  | handOver candidate rest held =>
      rw [Bool.or_false]
      have same := willing.described.symm.trans (balanced.flushes rfl)
      subst same
      have taken := willing.take candidate
      exact ⟨taken.remote, taken.candidates, taken.accepted, taken.described⟩
  | finish held =>
      rw [Bool.or_false]
      exact willing

end Dealings

namespace Parts

/-- The peer connection that a link uses and its dealings over one. -/
def engagement (parts : Parts) (id : ConnectionId) : Option ConnectionId × Option Dealings :=
  (parts.peer.connection,
    (parts.platform.connections[id]?).map fun connection => connection.dealings parts.peer.held)

end Parts

/-- A link at work, with its dealings over the peer connection that it uses. -/
structure LinkAtWork.Engaged (work : LinkAtWork) (id : ConnectionId) (dealings : Dealings) :
    Prop where
  engagement : work.parts.engagement id = (some id, some dealings)
  flushes : ∀ flush, work.flush = some flush → flush.connection = id

namespace Parts

/-! ## What leaves the dealings alone -/

/-- The dealings are a view of a peer connection. -/
theorem engagement_eq_shown (parts : Parts) (id : ConnectionId) :
    parts.engagement id = parts.shown (fun held connection => connection.dealings held) id := rfl

/-- What happens to channels leaves the dealings alone. -/
theorem engagement_of_channels {before after : Parts} (id : ConnectionId)
    (same : after.besidesChannels = before.besidesChannels) :
    after.engagement id = before.engagement id := by
  rw [engagement_eq_shown, engagement_eq_shown]
  exact shown_of_channels id same

/-- A change of a peer connection that does not concern candidates. -/
theorem engagement_modifyConnection (parts : Parts) (id target : ConnectionId)
    {change : PeerConnection → PeerConnection}
    (same : ∀ connection, parts.platform.connections[target]? = some connection →
      ∀ held, (change connection).dealings held = connection.dealings held) :
    (parts.modifyConnection target change).engagement id = parts.engagement id := by
  rw [engagement_eq_shown, engagement_eq_shown]
  exact parts.shown_modifyConnection id target same

private theorem engagement_modifyConnection_of_ne (parts : Parts) {id target : ConnectionId}
    (other : target ≠ id) (change : PeerConnection → PeerConnection) :
    (parts.modifyConnection target change).engagement id = parts.engagement id := by
  rw [engagement_eq_shown, engagement_eq_shown]
  exact parts.shown_modifyConnection_of_ne other change

private theorem engagement_addLocalTracks (parts : Parts) (id target : ConnectionId) :
    (parts.addLocalTracks target).engagement id = parts.engagement id := by
  rw [engagement_eq_shown, engagement_eq_shown]
  exact parts.shown_addLocalTracks id target fun _ _ _ => rfl

/-- No event is a dealing of its own. -/
theorem engagement_undergo (parts : Parts) (id : ConnectionId) (occurrence : Occurrence) :
    (parts.undergo occurrence).engagement id = parts.engagement id := by
  rw [engagement_eq_shown, engagement_eq_shown]
  exact parts.shown_undergo id occurrence fun _ _ _ => rfl

/-- A change that nobody is told of leaves the dealings alone, unless it makes the peer connection
refuse something. -/
theorem engagement_adjust (parts : Parts) (id : ConnectionId) {adjustment : Adjustment}
    (willing : (LinkMove.adjust adjustment).refuses = false) :
    (parts.adjust adjustment).engagement id = parts.engagement id := by
  cases adjustment with
  | refuseRemote target refuses => cases willing
  | refuseCandidates target refuses => cases willing
  | refuseTracks target refuses =>
      exact parts.engagement_modifyConnection id target fun _ _ _ => rfl
  | overhearConnection target kind =>
      exact parts.engagement_modifyConnection id target fun _ _ _ => rfl
  | newChannel label => rfl
  | socketFails socket fails => rfl
  | channelFails channel fails => rfl
  | refuseSockets refuses => rfl
  | refuseConnections refuses => rfl
  | trap traps => rfl
  | changeMedia localStream => rfl
  | overhearChannel channel => rfl
  | switchRemote kind enabled => rfl
  | switchRemoteTrack track enabled => rfl

/-! ## What changes the dealings -/

section Dealings

variable {parts : Parts} {id : ConnectionId} {dealings : Dealings}

/-- The peer connection of a link with dealings over it. -/
theorem connection_of_engagement (engaged : parts.engagement id = (some id, some dealings)) :
    ∃ connection, parts.peer.connection = some id ∧
      parts.platform.connections[id]? = some connection ∧
      dealings = connection.dealings parts.peer.held := by
  rw [engagement_eq_shown] at engaged
  exact connection_of_shown engaged

private theorem engagement_modify (connection : PeerConnection)
    (used : parts.peer.connection = some id)
    (found : parts.platform.connections[id]? = some connection)
    (change : PeerConnection → PeerConnection) :
    (parts.modifyConnection id change).engagement id =
      (some id, some ((change connection).dealings parts.peer.held)) := by
  rw [engagement_eq_shown]
  exact shown_modify connection used found change

private theorem dealings_addCandidate (connection : PeerConnection) (held : List IceCandidate)
    (candidate : IceCandidate) :
    (connection.addCandidate candidate).dealings held =
      (connection.dealings held).take candidate := by
  have verdict : connection.candidateRefusal?.isNone =
      (connection.remoteDescription.isSome && !connection.refusesCandidates) := by
    unfold PeerConnection.candidateRefusal?
    cases connection.refusesCandidates <;> cases connection.remoteDescription <;> rfl
  unfold PeerConnection.addCandidate
  rw [verdict]
  rfl

/-- A candidate that is handed over is taken, and the rest is held. -/
theorem engagement_handOver (connection : PeerConnection)
    (used : parts.peer.connection = some id)
    (found : parts.platform.connections[id]? = some connection) (candidate : IceCandidate)
    (rest : List IceCandidate) :
    (parts.handOver id candidate rest).engagement id =
      (some id,
        some { (connection.dealings parts.peer.held).take candidate with held := rest }) := by
  have taken := dealings_addCandidate connection rest candidate
  unfold handOver engagement
  simp only [modifyConnection, Platform.modifyConnection, List.getElem?_modify, found, ↓reduceIte,
    used]
  exact congrArg (fun dealings => (some id, some dealings)) taken

/-- Beginning or ceasing to refuse changes that and nothing else. -/
theorem engagement_refusal (engaged : parts.engagement id = (some id, some dealings))
    {adjustment : Adjustment} (refusal : (LinkMove.adjust adjustment).refuses = true) :
    ∃ remote candidates, (parts.adjust adjustment).engagement id =
      (some id, some { dealings with
        refusesRemote := remote, refusesCandidates := candidates }) := by
  obtain ⟨connection, used, found, rfl⟩ := connection_of_engagement engaged
  cases adjustment with
  | refuseRemote target refuses =>
      by_cases here : target = id
      · subst here
        exact ⟨refuses, connection.refusesCandidates, engagement_modify connection used found _⟩
      · exact ⟨_, _, (parts.engagement_modifyConnection_of_ne here _).trans engaged⟩
  | refuseCandidates target refuses =>
      by_cases here : target = id
      · subst here
        exact ⟨connection.refusesRemote, refuses, engagement_modify connection used found _⟩
      · exact ⟨_, _, (parts.engagement_modifyConnection_of_ne here _).trans engaged⟩
  | _ => cases refusal

private theorem change_candidate (engaged : parts.engagement id = (some id, some dealings))
    (candidate : IceCandidate) :
    ∃ after, (parts.processItem (.webrtcCandidate candidate)).2.engagement id =
        (some id, some after) ∧
      dealings.Change false after false [candidate] false := by
  obtain ⟨connection, used, found, rfl⟩ := connection_of_engagement engaged
  unfold processItem
  rw [peerConnection?_eq used found]
  simp only [applyItem]
  cases described : connection.remoteDescription with
  | none =>
      refine ⟨_, ?_, .hold candidate ?_⟩
      · simp only [Option.isNone_none, ↓reduceIte, engagement, used, found]
        rfl
      · simp only [PeerConnection.dealings, described]
        rfl
  | some description =>
      refine ⟨_, ?_, .take candidate ?_⟩
      · simp only [Option.isNone_some, Bool.false_eq_true, ↓reduceIte]
        rw [engagement_modify connection used found, dealings_addCandidate]
      · simp only [PeerConnection.dealings, described]
        rfl

private theorem change_beginOffer (engaged : parts.engagement id = (some id, some dealings))
    (offer : SessionDescription) :
    ∃ after, (parts.beginOffer id offer).Engaged id after ∧
      dealings.Change false after (parts.beginOffer id offer).flush.isSome [] true := by
  have tracked := (parts.engagement_addLocalTracks id id).trans engaged
  obtain ⟨connection, used, found, same⟩ := connection_of_engagement tracked
  unfold beginOffer
  simp only [found]
  cases accepted : acceptOffer connection offer with
  | error failure =>
      refine ⟨dealings, ⟨tracked, fun _ missing => nomatch missing⟩, .refused ?_⟩
      rw [same]
      exact acceptOffer_eq_error accepted
  | ok answer =>
      obtain ⟨_, changed⟩ := acceptOffer_eq_ok accepted
      refine ⟨_, ⟨engagement_modify connection used found _, ?_⟩, ?_⟩
      · rintro flush ⟨⟩
        rfl
      · rw [changed, same]
        exact .describe

private theorem change_beginAcceptance {connection : PeerConnection}
    (used : parts.peer.connection = some id)
    (found : parts.platform.connections[id]? = some connection)
    (same : dealings = connection.dealings parts.peer.held) (answer : SessionDescription) :
    ∃ after, (parts.beginAcceptance id connection answer).Engaged id after ∧
      dealings.Change false after (parts.beginAcceptance id connection answer).flush.isSome []
        true := by
  unfold beginAcceptance
  cases accepted : connection.setRemote answer with
  | error failure =>
      refine ⟨dealings, ⟨?_, fun _ missing => nomatch missing⟩, .refused ?_⟩
      · change parts.engagement id = _
        rw [engagement, used, found, same]
        rfl
      · rw [same]
        exact PeerConnection.setRemote_eq_error accepted
  | ok described =>
      obtain ⟨_, changed⟩ := PeerConnection.setRemote_eq_ok accepted
      refine ⟨_, ⟨engagement_modify connection used found _, ?_⟩, ?_⟩
      · rintro flush ⟨⟩
        rfl
      · rw [changed, same]
        exact .describe

/-- An item that brings neither a candidate nor a description leaves the dealings alone. -/
theorem engagement_processItem {item : PeerItem} (uncandid : item.candidates = [])
    (undescribed : item.describes = false) :
    (parts.processItem item).2.engagement id = parts.engagement id := by
  unfold processItem
  split
  · rfl
  · rename_i current connection inUse
    have there := (peerConnection?_eq_some inUse).2
    cases item with
    | userJoined =>
        exact (engagement_addLocalTracks _ id current).trans
          (engagement_of_channels id (besidesChannels_openChannel parts connection))
    | webrtcOffer offer => cases undescribed
    | webrtcAcceptance answer => cases undescribed
    | webrtcCandidate candidate => cases uncandid
    | dataChannel channel =>
        exact engagement_of_channels id ((besidesChannels_sendState _ _).trans
          (besidesChannels_adoptChannel _ _))
    | sendInitialState => exact engagement_of_channels id (besidesChannels_sendState _ _)
    | negotiationNeeded =>
        simp only [applyItem]
        split
        · rfl
        · rename_i offer offering made
          refine (engagement_of_channels id (besidesChannels_raiseFromPeer _ _)).trans ?_
          refine parts.engagement_modifyConnection id current fun earlier foundEarlier held => ?_
          rw [there] at foundEarlier
          rw [← Option.some.inj foundEarlier, makeOffer_eq_ok made]
          rfl

/-- What beginning with an item does to the dealings. -/
theorem change_beginItem (engaged : parts.engagement id = (some id, some dealings))
    (item : PeerItem) :
    ∃ after, (parts.beginItem item).Engaged id after ∧
      dealings.Change false after (parts.beginItem item).flush.isSome item.candidates
        item.describes := by
  obtain ⟨connection, used, found, same⟩ := connection_of_engagement engaged
  have inUse := peerConnection?_eq used found
  unfold beginItem
  rw [inUse]
  have other (uncandid : item.candidates = []) (undescribed : item.describes = false) :
      ∃ after, (LinkAtWork.idle (parts.processItem item).2.recover).Engaged id after ∧
        dealings.Change false after false item.candidates item.describes := by
    refine ⟨dealings, ⟨?_, fun _ missing => nomatch missing⟩, ?_⟩
    · exact (engagement_processItem uncandid undescribed).trans engaged
    · rw [uncandid, undescribed]
      exact .same false
  cases item with
  | webrtcOffer offer => exact change_beginOffer engaged offer
  | webrtcAcceptance answer => exact change_beginAcceptance used found same answer
  | webrtcCandidate candidate =>
      obtain ⟨after, reached, change⟩ := change_candidate engaged candidate
      exact ⟨after, ⟨reached, fun _ missing => nomatch missing⟩, change⟩
  | userJoined => exact other rfl rfl
  | dataChannel channel => exact other rfl rfl
  | sendInitialState => exact other rfl rfl
  | negotiationNeeded => exact other rfl rfl

end Dealings

end Parts

/-- Finishing leaves the dealings alone. -/
theorem Flush.engagement_finish (flush : Flush) (parts : Parts) (id : ConnectionId) :
    (flush.finish parts).engagement id = parts.engagement id := by
  unfold Flush.finish
  split
  · exact Parts.engagement_of_channels id (Parts.besidesChannels_raiseFromPeer parts _)
  · rfl

end CallControl
