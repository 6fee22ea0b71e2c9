import CallControl.Proofs.LinkAtWork
import CallControl.Proofs.Raised

/-! # Talks between two peers

Little of what happens to a link at work concerns the descriptions that it tells its peer
and those that it takes in. That little makes up a small machine (`Talks.step`). In all its
runs the descriptions created, set and told stay in agreement (`Talks.Sound`), and it does
not see whether tracks or candidates are refused (`Talks.run_unhindered`).
-/

namespace CallControl

namespace Signal

/-- The description that a signal brings the peer. -/
def description? : Signal → Option SessionDescription
  | .offer description | .acceptance description => some description
  | .candidate _ => none

/-- A signal brings an offer. -/
def isOffer : Signal → Bool
  | .offer _ => true
  | _ => false

/-- A signal brings the acceptance of an offer. -/
def isAcceptance : Signal → Bool
  | .acceptance _ => true
  | _ => false

end Signal

/-- A move cleans the link up, or makes its dispatcher break off or cease to. -/
def WorkMove.disrupts : WorkMove → Bool
  | .link .cleanUp | .link (.adjust (.trap _)) => true
  | _ => false

/-- A move makes a peer connection refuse tracks or candidates, or cease to. -/
def WorkMove.hinders : WorkMove → Bool
  | .link (.adjust (.refuseTracks _ _)) | .link (.adjust (.refuseCandidates _ _)) => true
  | _ => false

/-- The remote description that an item sets, unless it is refused. -/
def PeerConnection.takes (connection : PeerConnection) : PeerItem → List SessionDescription
  | .webrtcOffer description | .webrtcAcceptance description =>
      match connection.setRemote description with
      | .ok _ => [description]
      | .error _ => []
  | _ => []

/-- What a peer connection and the candidates held for it show of the talks. -/
structure Terms where
  offers : Nat
  answers : Nat
  ours : Option SessionDescription
  theirs : Option SessionDescription
  closed : Bool
  refusesRemote : Bool
  held : Nat

/-- The terms of a peer connection for which some candidates are held. -/
def PeerConnection.terms (held : List IceCandidate) (connection : PeerConnection) : Terms :=
  ⟨connection.offersCreated, connection.answersCreated, connection.localDescription,
    connection.remoteDescription, connection.closed, connection.refusesRemote, held.length⟩

/-- The talks of a link over one peer connection. -/
structure Talks extends Terms where
  /-- Held candidates are being handed over. -/
  flushing : Bool
  /-- The descriptions told to the peer, oldest first. -/
  told : List Signal
  /-- The remote descriptions that were set, oldest first. -/
  taken : List SessionDescription

namespace Talks

/-- The talks over a new peer connection. -/
def opening (held : Nat) : Talks :=
  ⟨⟨0, 0, none, none, false, false, held⟩, false, [], []⟩

/-- A remote description was set. -/
def take (talks : Talks) (description : SessionDescription) : Talks :=
  { talks with
    theirs := some description
    flushing := true
    taken := talks.taken ++ [description] }

/-- An answer was created, set and told. -/
def accept (talks : Talks) : Talks :=
  let answer : SessionDescription :=
    .make "answer" (PeerConnection.descriptionBody (talks.answers + 1))
  { talks with
    answers := talks.answers + 1
    ours := some answer
    told := talks.told ++ [.acceptance answer] }

/-- An offer was created, set and told. -/
def propose (talks : Talks) : Talks :=
  let offer : SessionDescription :=
    .make "offer" (PeerConnection.descriptionBody (talks.offers + 1))
  { talks with
    offers := talks.offers + 1
    ours := some offer
    told := talks.told ++ [.offer offer] }

/-- The talks after the link began with an item. -/
def receive (talks : Talks) : PeerItem → Talks
  | .webrtcOffer description =>
      if talks.refusesRemote then talks else (talks.take description).accept
  | .webrtcAcceptance description =>
      if talks.refusesRemote then talks else talks.take description
  | .webrtcCandidate _ =>
      if talks.theirs.isNone then { talks with held := talks.held + 1 } else talks
  | .negotiationNeeded => if talks.closed then talks else talks.propose
  | .userJoined | .dataChannel _ | .sendInitialState => talks

/-- The talks after a held candidate was handed over, or when none was left. -/
def handOver (talks : Talks) : Talks :=
  if talks.held = 0 then { talks with flushing := false }
  else { talks with held := talks.held - 1 }

/-- The talks over a peer connection after a move of the link at work. -/
def step (id : ConnectionId) (talks : Talks) : WorkMove → Talks
  | .link (.item item) => if talks.flushing then talks else talks.receive item
  | .link (.adjust (.refuseRemote target refuses)) =>
      if target = id then { talks with refusesRemote := refuses } else talks
  | .link _ => talks
  | .handOver => if talks.flushing then talks.handOver else talks

/-- The talks after some moves. -/
def run (id : ConnectionId) (talks : Talks) (moves : List WorkMove) : Talks :=
  moves.foldl (step id) talks

@[simp] theorem run_nil (id : ConnectionId) (talks : Talks) : talks.run id [] = talks := rfl

@[simp] theorem run_cons (id : ConnectionId) (talks : Talks) (move : WorkMove)
    (moves : List WorkMove) : talks.run id (move :: moves) = (talks.step id move).run id moves :=
  rfl

/-- As many descriptions were told as were created. The local description is the one that
was told last, and the remote description the one that was set last. -/
structure Sound (talks : Talks) : Prop where
  offers : talks.told.countP Signal.isOffer = talks.offers
  answers : talks.told.countP Signal.isAcceptance = talks.answers
  ours : talks.ours = talks.told.getLast?.bind Signal.description?
  theirs : talks.theirs = talks.taken.getLast?
  working : talks.closed = false

namespace Sound

variable {talks : Talks}

/-- Talks that have not begun are sound. -/
theorem opening (held : Nat) : (Talks.opening held).Sound := ⟨rfl, rfl, rfl, rfl, rfl⟩

/-- What is held, whether it is being handed over, and what is refused does not matter. -/
theorem aside (sound : talks.Sound) (held : Nat) (refusesRemote flushing : Bool) :
    Sound { talks with held, refusesRemote, flushing } :=
  ⟨sound.offers, sound.answers, sound.ours, sound.theirs, sound.working⟩

private theorem take (sound : talks.Sound) (description : SessionDescription) :
    (talks.take description).Sound where
  offers := sound.offers
  answers := sound.answers
  ours := sound.ours
  theirs := List.getLast?_concat.symm
  working := sound.working

private theorem accept (sound : talks.Sound) : talks.accept.Sound where
  offers := by
    simp only [Talks.accept, List.countP_append, sound.offers]
    rfl
  answers := by
    simp only [Talks.accept, List.countP_append, sound.answers]
    rfl
  ours := by
    simp only [Talks.accept, List.getLast?_concat]
    rfl
  theirs := sound.theirs
  working := sound.working

private theorem propose (sound : talks.Sound) : talks.propose.Sound where
  offers := by
    simp only [Talks.propose, List.countP_append, sound.offers]
    rfl
  answers := by
    simp only [Talks.propose, List.countP_append, sound.answers]
    rfl
  ours := by
    simp only [Talks.propose, List.getLast?_concat]
    rfl
  theirs := sound.theirs
  working := sound.working

private theorem receive (sound : talks.Sound) (item : PeerItem) : (talks.receive item).Sound := by
  cases item with
  | webrtcOffer description =>
      simp only [Talks.receive]
      split
      · exact sound
      · exact (sound.take description).accept
  | webrtcAcceptance description =>
      simp only [Talks.receive]
      split
      · exact sound
      · exact sound.take description
  | webrtcCandidate candidate =>
      simp only [Talks.receive]
      split
      · exact sound.aside _ _ _
      · exact sound
  | negotiationNeeded =>
      simp only [Talks.receive]
      split
      · exact sound
      · exact sound.propose
  | userJoined => exact sound
  | dataChannel channel => exact sound
  | sendInitialState => exact sound

private theorem step (sound : talks.Sound) (id : ConnectionId) (move : WorkMove) :
    (talks.step id move).Sound := by
  unfold Talks.step
  split
  · split
    · exact sound
    · exact sound.receive _
  · split
    · exact sound.aside _ _ _
    · exact sound
  · exact sound
  · split
    · unfold Talks.handOver
      split
      · exact sound.aside _ _ _
      · exact sound.aside _ _ _
    · exact sound

/-- Talks stay sound in every run. -/
theorem run (sound : talks.Sound) (id : ConnectionId) (moves : List WorkMove) :
    (talks.run id moves).Sound := by
  induction moves generalizing talks with
  | nil => exact sound
  | cons move rest ih => exact ih (sound.step id move)

end Sound

/-! ## Requests of a peer connection -/

section Requests

variable {talks : Talks} {connection : PeerConnection} {held : List IceCandidate}

/-- An offer is told behind what was told before. -/
theorem told_propose (same : talks.toTerms = connection.terms held) :
    talks.propose.told = talks.told ++ [.offer connection.nextOffer] := by
  have offers : talks.offers = connection.offersCreated := congrArg Terms.offers same
  simp only [propose, offers, PeerConnection.nextOffer]

/-- An offer is noted in the terms as the peer connection makes it. -/
theorem toTerms_propose (same : talks.toTerms = connection.terms held) :
    talks.propose.toTerms = PeerConnection.terms held { connection with
      offerOptions := connection.offerOptions ++ [.standard]
      localDescription := some connection.nextOffer } := by
  simp only [propose, same, PeerConnection.terms, PeerConnection.offersCreated,
    PeerConnection.nextOffer, List.length_append, List.length_singleton]

/-- An answer is told behind what was told before. -/
theorem told_accept (same : talks.toTerms = connection.terms held)
    (description : SessionDescription) :
    (talks.take description).accept.told =
      talks.told ++ [.acceptance connection.nextAnswer] := by
  have answers : talks.answers = connection.answersCreated := congrArg Terms.answers same
  simp only [accept, take, answers, PeerConnection.nextAnswer]

/-- An accepted offer is noted in the terms as the peer connection takes it. -/
theorem toTerms_accept (same : talks.toTerms = connection.terms held)
    (description : SessionDescription) :
    (talks.take description).accept.toTerms = PeerConnection.terms held { connection with
      remoteDescription := some description
      answersCreated := connection.answersCreated + 1
      localDescription := some connection.nextAnswer } := by
  simp only [accept, take, same, PeerConnection.terms, PeerConnection.offersCreated,
    PeerConnection.nextAnswer]

/-- An item makes the talks tell what it makes the peer connection tell. -/
theorem told_receive (same : talks.toTerms = connection.terms held) (item : PeerItem) :
    (talks.receive item).told = talks.told ++ connection.tells item := by
  have quiet (other : Talks) (unchanged : other.told = talks.told) :
      other.told = talks.told ++ [] :=
    unchanged.trans (List.append_nil _).symm
  have refusal : talks.refusesRemote = connection.refusesRemote :=
    congrArg Terms.refusesRemote same
  have closes : talks.closed = connection.closed := congrArg Terms.closed same
  cases item with
  | webrtcOffer description =>
      simp only [receive, PeerConnection.tells, refusal]
      split
      · exact quiet talks rfl
      · exact told_accept same description
  | webrtcAcceptance description =>
      simp only [receive, PeerConnection.tells]
      split
      · exact quiet talks rfl
      · exact quiet (talks.take description) rfl
  | webrtcCandidate candidate =>
      simp only [receive, PeerConnection.tells]
      split
      · exact quiet { talks with held := talks.held + 1 } rfl
      · exact quiet talks rfl
  | negotiationNeeded =>
      simp only [receive, PeerConnection.tells, closes]
      split
      · exact quiet talks rfl
      · exact told_propose same
  | userJoined => exact quiet talks rfl
  | dataChannel channel => exact quiet talks rfl
  | sendInitialState => exact quiet talks rfl

/-- An item makes the talks take the descriptions that the peer connection takes. -/
theorem taken_receive (same : talks.toTerms = connection.terms held) (item : PeerItem) :
    (talks.receive item).taken = talks.taken ++ connection.takes item := by
  have quiet (other : Talks) (unchanged : other.taken = talks.taken) :
      other.taken = talks.taken ++ [] :=
    unchanged.trans (List.append_nil _).symm
  have refusal : talks.refusesRemote = connection.refusesRemote :=
    congrArg Terms.refusesRemote same
  cases item with
  | webrtcOffer description =>
      simp only [receive, PeerConnection.takes, refusal]
      rcases Bool.eq_false_or_eq_true connection.refusesRemote with refuses | willing
      · rw [PeerConnection.setRemote_of_refuses refuses, if_pos refuses]
        exact quiet talks rfl
      · rw [PeerConnection.setRemote_of_willing willing, if_neg (Bool.eq_false_iff.mp willing)]
        rfl
  | webrtcAcceptance description =>
      simp only [receive, PeerConnection.takes, refusal]
      rcases Bool.eq_false_or_eq_true connection.refusesRemote with refuses | willing
      · rw [PeerConnection.setRemote_of_refuses refuses, if_pos refuses]
        exact quiet talks rfl
      · rw [PeerConnection.setRemote_of_willing willing, if_neg (Bool.eq_false_iff.mp willing)]
        rfl
  | webrtcCandidate candidate =>
      simp only [receive, PeerConnection.takes]
      split
      · exact quiet { talks with held := talks.held + 1 } rfl
      · exact quiet talks rfl
  | negotiationNeeded =>
      simp only [receive, PeerConnection.takes]
      split
      · exact quiet talks rfl
      · exact quiet talks.propose rfl
  | userJoined => exact quiet talks rfl
  | dataChannel channel => exact quiet talks rfl
  | sendInitialState => exact quiet talks rfl

end Requests

/-! ## Refused tracks and candidates -/

private theorem step_of_hinders (id : ConnectionId) (talks : Talks) {move : WorkMove}
    (hinders : move.hinders = true) : talks.step id move = talks := by
  cases move with
  | handOver => cases hinders
  | link move =>
      cases move with
      | adjust adjustment =>
          cases adjustment with
          | refuseTracks target refuses => rfl
          | refuseCandidates target refuses => rfl
          | _ => cases hinders
      | _ => cases hinders

/-- The talks go on as if no track or candidate was ever refused. -/
theorem run_unhindered (id : ConnectionId) (talks : Talks) (moves : List WorkMove) :
    talks.run id (moves.filter fun move => !move.hinders) = talks.run id moves := by
  induction moves generalizing talks with
  | nil => rfl
  | cons move rest ih =>
      rw [List.filter_cons]
      cases hinders : move.hinders with
      | true => exact (ih talks).trans (by rw [run_cons, step_of_hinders id talks hinders])
      | false => exact ih (talks.step id move)

end Talks

end CallControl
