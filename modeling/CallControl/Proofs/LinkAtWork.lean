import CallControl.Proofs.Runs

/-! # A link at work

A link that was told the remote description hands over the candidates that it held,
newest first, one at a time. Meanwhile it does not turn to anything else, but its
platform goes on: the peer connection may begin or cease to refuse candidates between one
candidate and the next (`LinkAtWork.step`). Without such interruptions this is how a
link handles an item (`LinkAtWork.exists_run_linkRun`).
-/

namespace CallControl

/-- What is left to do after a remote description was set: the held candidates go to a
peer connection, and then the answer is raised if there is one. -/
structure Flush where
  connection : ConnectionId
  answer : Option SessionDescription
  deriving Repr

/-- A link to the peer that may be in the middle of handing over held candidates. -/
structure LinkAtWork where
  parts : Parts
  flush : Option Flush

/-- What can happen to a link at work. -/
inductive WorkMove where
  | link (move : LinkMove)
  /-- The next held candidate is handed over, or the work is done. -/
  | handOver
  deriving Repr

/-- The candidates that an item brings. -/
def PeerItem.candidates : PeerItem → List IceCandidate
  | .webrtcCandidate candidate => [candidate]
  | _ => []

/-- An item brings a remote description. -/
def PeerItem.describes : PeerItem → Bool
  | .webrtcOffer _ | .webrtcAcceptance _ => true
  | _ => false

namespace LinkMove

/-- The candidates that a move brings. -/
def candidates : LinkMove → List IceCandidate
  | .item handled => handled.candidates
  | _ => []

/-- A move brings a remote description. -/
def describes : LinkMove → Bool
  | .item handled => handled.describes
  | _ => false

/-- A move makes a peer connection refuse remote descriptions or candidates, or cease
to. -/
def refuses : LinkMove → Bool
  | .adjust (.refuseRemote _ _) | .adjust (.refuseCandidates _ _) => true
  | _ => false

end LinkMove

/-- A move at work that makes a peer connection refuse something, or cease to. -/
def WorkMove.refuses : WorkMove → Bool
  | .link move => move.refuses
  | .handOver => false

namespace Parts

/-- An offer answered up to the point where held candidates are handed over. -/
def beginOffer (parts : Parts) (id : ConnectionId) (offer : SessionDescription) : LinkAtWork :=
  let tracked := parts.addLocalTracks id
  match tracked.platform.connections[id]? with
  | none => ⟨tracked.recover, none⟩
  | some current =>
      match acceptOffer current offer with
      | .error _ => ⟨tracked.recover, none⟩
      | .ok (answer, answered) =>
          ⟨tracked.modifyConnection id fun _ => answered, some ⟨id, some answer⟩⟩

/-- An acceptance taken in up to the point where held candidates are handed over. -/
def beginAcceptance (parts : Parts) (id : ConnectionId) (connection : PeerConnection)
    (answer : SessionDescription) : LinkAtWork :=
  match connection.setRemote answer with
  | .error _ => ⟨parts.recover, none⟩
  | .ok described => ⟨parts.modifyConnection id fun _ => described, some ⟨id, none⟩⟩

/-- An item handled up to the point where held candidates are handed over. -/
def beginItem (parts : Parts) (item : PeerItem) : LinkAtWork :=
  match parts.peerConnection?, item with
  | some (id, _), .webrtcOffer offer => parts.beginOffer id offer
  | some (id, connection), .webrtcAcceptance answer => parts.beginAcceptance id connection answer
  | _, _ => ⟨(parts.processItem item).2.recover, none⟩

/-- The next held candidate handed to a peer connection. -/
def handOver (parts : Parts) (id : ConnectionId) (candidate : IceCandidate)
    (rest : List IceCandidate) : Parts :=
  let handed := parts.modifyConnection id (·.addCandidate candidate)
  { handed with peer := { handed.peer with held := rest } }

end Parts

namespace Flush

/-- The parts when everything held was handed over. -/
def finish (flush : Flush) (parts : Parts) : Parts :=
  match flush.answer with
  | some answer => (parts.raiseFromPeer (.signal (.acceptance answer))).recover
  | none => parts.recover

end Flush

namespace LinkAtWork

/-- A link that is not in the middle of anything. -/
def idle (parts : Parts) : LinkAtWork := ⟨parts, none⟩

/-- A link at work after a move. In the middle of handing over it does not turn to
anything else, but its platform goes on. -/
def step (work : LinkAtWork) (move : WorkMove) : LinkAtWork :=
  match work.flush, move with
  | none, .link (.item item) => work.parts.beginItem item
  | none, .link move => ⟨work.parts.linkMove move, none⟩
  | none, .handOver => work
  | some flush, .link (.event occurrence) => ⟨work.parts.undergo occurrence, flush⟩
  | some flush, .link (.adjust adjustment) => ⟨work.parts.adjust adjustment, flush⟩
  | some _, .link _ => work
  | some flush, .handOver =>
      match work.parts.peer.held with
      | candidate :: rest => ⟨work.parts.handOver flush.connection candidate rest, flush⟩
      | [] => ⟨flush.finish work.parts, none⟩

/-- A link at work after some moves. -/
def run (work : LinkAtWork) (moves : List WorkMove) : LinkAtWork :=
  moves.foldl step work

/-- The candidates received by a move: a link in the middle of something receives none. -/
def receives (work : LinkAtWork) : WorkMove → List IceCandidate
  | .link move => if work.flush.isNone then move.candidates else []
  | .handOver => []

/-- A remote description came with a move. -/
def describes (work : LinkAtWork) : WorkMove → Bool
  | .link move => work.flush.isNone && move.describes
  | .handOver => false

/-- The candidates received in some moves, oldest first. -/
def received (work : LinkAtWork) : List WorkMove → List IceCandidate
  | [] => []
  | move :: rest => work.receives move ++ (work.step move).received rest

/-- A remote description came in some moves. -/
def described (work : LinkAtWork) : List WorkMove → Bool
  | [] => false
  | move :: rest => work.describes move || (work.step move).described rest

@[simp] theorem run_nil (work : LinkAtWork) : work.run [] = work := rfl

@[simp] theorem run_cons (work : LinkAtWork) (move : WorkMove) (moves : List WorkMove) :
    work.run (move :: moves) = (work.step move).run moves := rfl

private theorem run_append (work : LinkAtWork) (earlier later : List WorkMove) :
    work.run (earlier ++ later) = (work.run earlier).run later :=
  List.foldl_append ..

private theorem received_append (work : LinkAtWork) (earlier later : List WorkMove) :
    work.received (earlier ++ later) =
      work.received earlier ++ (work.run earlier).received later := by
  induction earlier generalizing work with
  | nil => rfl
  | cons move rest ih =>
      rw [List.cons_append, received, received, ih, List.append_assoc]
      rfl

end LinkAtWork

/-! ## Handing over without interruption -/

namespace Parts

private theorem flushHeld_cons (parts : Parts) (id : ConnectionId) {candidate : IceCandidate}
    {rest : List IceCandidate} (held : parts.peer.held = candidate :: rest) :
    parts.flushHeld id = (parts.handOver id candidate rest).flushHeld id := by
  unfold flushHeld
  have same : (parts.modifyConnection id fun current =>
      parts.peer.held.foldl PeerConnection.addCandidate current) =
      ((parts.modifyConnection id (·.addCandidate candidate)).modifyConnection id fun current =>
        rest.foldl PeerConnection.addCandidate current) := by
    simp only [modifyConnection, Platform.modifyConnection, List.modify_modify_eq, held]
    rfl
  rw [same]
  rfl

private theorem flushHeld_nil (parts : Parts) (id : ConnectionId) (held : parts.peer.held = []) :
    parts.flushHeld id = parts := by
  unfold flushHeld
  have unchanged : (parts.platform.connections.modify id fun current => current) =
      parts.platform.connections :=
    List.modify_id id _
  have same : (parts.modifyConnection id fun current =>
      parts.peer.held.foldl PeerConnection.addCandidate current) = parts := by
    simp only [modifyConnection, Platform.modifyConnection, held, List.foldl_nil, unchanged]
  rw [same, ← held]

end Parts

namespace LinkAtWork

/-- Handing over without interruption hands over everything that is held. -/
theorem run_handOver (parts : Parts) (flush : Flush) :
    LinkAtWork.run ⟨parts, some flush⟩ (List.replicate (parts.peer.held.length + 1) .handOver) =
      idle (flush.finish (parts.flushHeld flush.connection)) := by
  generalize remaining : parts.peer.held = held
  induction held generalizing parts with
  | nil =>
      rw [parts.flushHeld_nil _ remaining]
      simp only [List.length_nil, List.replicate, run_cons, run_nil, step, remaining]
      rfl
  | cons candidate rest ih =>
      rw [parts.flushHeld_cons _ remaining, List.length_cons, List.replicate_succ, run_cons]
      have next : step ⟨parts, some flush⟩ .handOver =
          ⟨parts.handOver flush.connection candidate rest, some flush⟩ := by
        simp only [step, remaining]
      rw [next]
      exact ih _ rfl

private theorem run_beginOffer (parts : Parts) (id : ConnectionId) (connection : PeerConnection)
    (offer : SessionDescription) :
    ∃ count, (parts.beginOffer id offer).run (List.replicate count .handOver) =
      idle (parts.applyItem id connection (.webrtcOffer offer)).recover := by
  simp only [Parts.beginOffer, Parts.applyItem]
  cases (parts.addLocalTracks id).platform.connections[id]? with
  | none => exact ⟨0, rfl⟩
  | some current =>
      dsimp only
      cases Parts.acceptOffer current offer with
      | error failure => exact ⟨0, rfl⟩
      | ok accepted => exact ⟨_, run_handOver _ ⟨id, some accepted.1⟩⟩

private theorem run_beginAcceptance (parts : Parts) (id : ConnectionId)
    (connection : PeerConnection) (answer : SessionDescription) :
    ∃ count, (parts.beginAcceptance id connection answer).run
        (List.replicate count .handOver) =
      idle (parts.applyItem id connection (.webrtcAcceptance answer)).recover := by
  simp only [Parts.beginAcceptance, Parts.applyItem]
  cases connection.setRemote answer with
  | error failure => exact ⟨0, rfl⟩
  | ok described => exact ⟨_, run_handOver _ ⟨id, none⟩⟩

/-- Beginning with an item and handing over without interruption is handling it. -/
theorem run_beginItem (parts : Parts) (item : PeerItem) :
    ∃ count, (parts.beginItem item).run (List.replicate count .handOver) =
      idle (parts.processItem item).2.recover := by
  unfold Parts.beginItem
  split
  · rename_i id connection offer used
    unfold Parts.processItem
    rw [used]
    exact run_beginOffer parts id connection offer
  · rename_i id connection answer used
    unfold Parts.processItem
    rw [used]
    exact run_beginAcceptance parts id connection answer
  · exact ⟨0, rfl⟩

/-! ## Handling items one after the other -/

private theorem received_replicate (work : LinkAtWork) (count : Nat) :
    work.received (List.replicate count .handOver) = [] := by
  induction count generalizing work with
  | zero => rfl
  | succ count ih =>
      rw [List.replicate_succ, received, ih]
      rfl

private theorem described_replicate (work : LinkAtWork) (count : Nat) :
    work.described (List.replicate count .handOver) = false := by
  induction count generalizing work with
  | zero => rfl
  | succ count ih =>
      rw [List.replicate_succ, described, ih]
      rfl

private theorem described_append (work : LinkAtWork) (earlier later : List WorkMove) :
    work.described (earlier ++ later) =
      (work.described earlier || (work.run earlier).described later) := by
  induction earlier generalizing work with
  | nil => rfl
  | cons move rest ih =>
      rw [List.cons_append, described, described, ih, Bool.or_assoc]
      rfl

private theorem exists_run_linkMove (parts : Parts) (move : LinkMove) :
    ∃ count, ((idle parts).step (.link move)).run (List.replicate count .handOver) =
      idle (parts.linkMove move) := by
  cases move with
  | item item => exact run_beginItem parts item
  | _ => exact ⟨0, rfl⟩

/-- A run of a link in which every item is handled without interruption is a run of the
link at work. -/
theorem exists_run_linkRun (parts : Parts) (moves : List LinkMove) :
    ∃ work : List WorkMove, (idle parts).run work = idle (parts.linkRun moves) ∧
      (idle parts).received work = moves.flatMap LinkMove.candidates ∧
      (idle parts).described work = moves.any LinkMove.describes ∧
      ∀ move ∈ work, move = .handOver ∨ ∃ link ∈ moves, move = .link link := by
  induction moves generalizing parts with
  | nil => exact ⟨[], rfl, rfl, rfl, fun _ member => nomatch member⟩
  | cons move rest ih =>
      obtain ⟨count, settled⟩ := exists_run_linkMove parts move
      obtain ⟨work, reached, received, described, members⟩ := ih (parts.linkMove move)
      refine ⟨.link move :: (List.replicate count .handOver ++ work), ?_, ?_, ?_, ?_⟩
      · rw [run_cons, run_append, settled, reached]
        rfl
      · rw [LinkAtWork.received, received_append, received_replicate, settled, received]
        rfl
      · rw [LinkAtWork.described, described_append, described_replicate, settled, described]
        rfl
      · intro other member
        rcases List.mem_cons.mp member with same | member
        · exact Or.inr ⟨move, List.mem_cons_self, same⟩
        · rcases List.mem_append.mp member with filler | later
          · exact Or.inl (List.mem_replicate.mp filler).2
          · rcases members other later with same | ⟨link, inside, same⟩
            · exact Or.inl same
            · exact Or.inr ⟨link, List.mem_cons_of_mem _ inside, same⟩

end LinkAtWork

end CallControl
