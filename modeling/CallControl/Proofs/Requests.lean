import CallControl.Negotiation

/-! # What requests change on a peer connection

Each request that a link makes of its peer connection changes the record of that request
and nothing else; a request that is refused changes nothing at all.
-/

namespace CallControl

namespace PeerConnection

/-- A peer connection that refuses descriptions takes none. -/
theorem setRemote_of_refuses {connection : PeerConnection}
    (refuses : connection.refusesRemote = true) (description : SessionDescription) :
    connection.setRemote description = .error (.injected .setRemoteDescription) :=
  if_pos refuses

/-- A peer connection that does not refuse takes a remote description. -/
theorem setRemote_of_willing {connection : PeerConnection}
    (willing : connection.refusesRemote = false) (description : SessionDescription) :
    connection.setRemote description =
      .ok { connection with remoteDescription := some description } :=
  if_neg (Bool.eq_false_iff.mp willing)

/-- A remote description is taken by a peer connection that does not refuse it, and is all that
changes. -/
theorem setRemote_eq_ok {connection described : PeerConnection}
    {description : SessionDescription}
    (accepted : connection.setRemote description = .ok described) :
    connection.refusesRemote = false ∧
      described = { connection with remoteDescription := some description } := by
  rcases Bool.eq_false_or_eq_true connection.refusesRemote with refuses | willing
  · rw [setRemote_of_refuses refuses] at accepted
    cases accepted
  · rw [setRemote_of_willing willing] at accepted
    exact ⟨willing, (Except.ok.inj accepted).symm⟩

/-- A remote description fails only where it is refused. -/
theorem setRemote_eq_error {connection : PeerConnection} {description : SessionDescription}
    {failure : Failure} (failed : connection.setRemote description = .error failure) :
    connection.refusesRemote = true := by
  rcases Bool.eq_false_or_eq_true connection.refusesRemote with refuses | willing
  · exact refuses
  · rw [setRemote_of_willing willing] at failed
    cases failed

/-- Tracks that are added change the added tracks only. -/
theorem addTracks_eq (connection : PeerConnection) (tracks : List MediaTrack) :
    connection.addTracks tracks =
      { connection with addedTracks := (connection.addTracks tracks).addedTracks } := by
  unfold addTracks
  induction tracks generalizing connection with
  | nil => rfl
  | cons track rest ih =>
      rw [List.foldl_cons, ih]
      unfold addTrack
      by_cases refused : connection.refusesTracks = true
      · rw [if_pos refused]
      · rw [if_neg refused]

/-- Candidates that are handed over change the record of candidates only: each of them
is taken or not as the first would be. -/
theorem foldl_addCandidate_eq (connection : PeerConnection) (candidates : List IceCandidate) :
    candidates.foldl addCandidate connection =
      { connection with
        candidateRequests := connection.candidateRequests ++
          candidates.map fun candidate => ⟨candidate, connection.candidateRefusal?.isNone⟩ } := by
  induction candidates generalizing connection with
  | nil => simp
  | cons candidate rest ih =>
      rw [List.foldl_cons, ih]
      simp [addCandidate, candidateRefusal?]

/-- The offer that a peer connection makes next. -/
def nextOffer (connection : PeerConnection) : SessionDescription :=
  .make "offer" (descriptionBody (connection.offersCreated + 1))

/-- The answer that a peer connection makes next. -/
def nextAnswer (connection : PeerConnection) : SessionDescription :=
  .make "answer" (descriptionBody (connection.answersCreated + 1))

end PeerConnection

namespace Parts

/-- The peer connection that a link uses, with its id. -/
theorem peerConnection?_eq {parts : Parts} {id : ConnectionId} {connection : PeerConnection}
    (used : parts.peer.connection = some id)
    (found : parts.platform.connections[id]? = some connection) :
    parts.peerConnection? = some (id, connection) := by
  unfold peerConnection?
  rw [used]
  simp only [Option.bind_some, found, Option.map_some]

/-- The peer connection in use, when there is one. -/
theorem peerConnection?_eq_some {parts : Parts} {id : ConnectionId} {connection : PeerConnection}
    (inUse : parts.peerConnection? = some (id, connection)) :
    parts.peer.connection = some id ∧ parts.platform.connections[id]? = some connection := by
  obtain ⟨used, present, found⟩ := Option.bind_eq_some_iff.mp inUse
  obtain ⟨_, there, same⟩ := Option.map_eq_some_iff.mp found
  cases same
  exact ⟨present, there⟩

/-- A peer connection that refuses descriptions accepts no offer. -/
theorem acceptOffer_of_refuses {connection : PeerConnection}
    (refuses : connection.refusesRemote = true) (offer : SessionDescription) :
    acceptOffer connection offer = .error (.injected .setRemoteDescription) := by
  unfold acceptOffer
  rw [PeerConnection.setRemote_of_refuses refuses]

/-- A peer connection that does not refuse accepts an offer with its next answer. -/
theorem acceptOffer_of_willing {connection : PeerConnection}
    (willing : connection.refusesRemote = false) (offer : SessionDescription) :
    acceptOffer connection offer = .ok (connection.nextAnswer, { connection with
      remoteDescription := some offer
      answersCreated := connection.answersCreated + 1
      localDescription := some connection.nextAnswer }) := by
  unfold acceptOffer
  rw [PeerConnection.setRemote_of_willing willing]
  rfl

/-- A closed peer connection makes no offer. -/
theorem makeOffer_of_closed {connection : PeerConnection} (closed : connection.closed = true) :
    makeOffer connection = .error (.call (.createSessionDescription "closed")) := by
  have failed : connection.createOffer .standard =
      .error (.call (.createSessionDescription "closed")) :=
    if_pos closed
  unfold makeOffer
  rw [failed]

/-- An open peer connection makes its next offer. -/
theorem makeOffer_of_open {connection : PeerConnection} (working : connection.closed = false) :
    makeOffer connection = .ok (connection.nextOffer, { connection with
      offerOptions := connection.offerOptions ++ [.standard]
      localDescription := some connection.nextOffer }) := by
  have created : connection.createOffer .standard = .ok (connection.nextOffer,
      { connection with offerOptions := connection.offerOptions ++ [.standard] }) := by
    unfold PeerConnection.createOffer
    rw [if_neg (Bool.eq_false_iff.mp working)]
    simp only [PeerConnection.nextOffer, PeerConnection.offersCreated, List.length_append,
      List.length_singleton]
  unfold makeOffer
  rw [created]
  rfl

/-- An offer is accepted unless the peer connection refuses remote descriptions; it is
the remote description then, and the answer the local one. -/
theorem acceptOffer_eq_ok {connection answered : PeerConnection}
    {offer answer : SessionDescription}
    (accepted : acceptOffer connection offer = .ok (answer, answered)) :
    connection.refusesRemote = false ∧
      answered = { connection with
        remoteDescription := some offer
        answersCreated := connection.answersCreated + 1
        localDescription := some answer } := by
  rcases Bool.eq_false_or_eq_true connection.refusesRemote with refuses | willing
  · rw [acceptOffer_of_refuses refuses] at accepted
    cases accepted
  · rw [acceptOffer_of_willing willing] at accepted
    cases accepted
    exact ⟨willing, rfl⟩

/-- Answering an offer fails only where remote descriptions are refused. -/
theorem acceptOffer_eq_error {connection : PeerConnection} {offer : SessionDescription}
    {failure : Failure} (failed : acceptOffer connection offer = .error failure) :
    connection.refusesRemote = true := by
  rcases Bool.eq_false_or_eq_true connection.refusesRemote with refuses | willing
  · exact refuses
  · rw [acceptOffer_of_willing willing] at failed
    cases failed

/-- An offer that was made is the local description. -/
theorem makeOffer_eq_ok {connection offering : PeerConnection} {offer : SessionDescription}
    (made : makeOffer connection = .ok (offer, offering)) :
    offering = { connection with
      offerOptions := connection.offerOptions ++ [.standard]
      localDescription := some offer } := by
  rcases Bool.eq_false_or_eq_true connection.closed with closed | working
  · rw [makeOffer_of_closed closed] at made
    cases made
  · rw [makeOffer_of_open working] at made
    cases made
    rfl

end Parts

end CallControl
