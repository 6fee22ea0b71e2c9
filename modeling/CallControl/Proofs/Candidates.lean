import Mathlib.Data.List.Perm.Subperm
import CallControl.Proofs.CleanUp
import CallControl.Proofs.Dealings

/-! # Candidates received, held and handed over

Nothing is lost and nothing is handed over twice: the candidates received are those that
were taken, those that were refused and those still held, and none is held between two
items when there is a remote description. So without refusals it does not matter in which
order candidates and descriptions arrive (`LinkAtWork.candidates_accounted`).
-/

namespace CallControl

namespace LinkAtWork

/-! ## Every run keeps the balance -/

section Runs

variable {work : LinkAtWork} {id : ConnectionId} {dealings : Dealings}

/-- What a move of a link does to its dealings when it does not bring an item. -/
theorem engagement_linkMove {parts : Parts} (used : parts.peer.connection = some id)
    {move : LinkMove} (kept : move ≠ .cleanUp) (willing : move.refuses = false)
    (itemless : ∀ item, move ≠ .item item) :
    (parts.linkMove move).engagement id = parts.engagement id := by
  cases move with
  | initialise =>
      simp only [Parts.linkMove]
      rw [Parts.initPeer_of_some used]
      rfl
  | item item => exact (itemless item rfl).elim
  | sendState requestState =>
      exact Parts.engagement_of_channels id (Parts.besidesChannels_sendState parts requestState)
  | sendEvent event =>
      exact Parts.engagement_of_channels id (Parts.besidesChannels_sendEvent parts event)
  | cleanUp => exact (kept rfl).elim
  | event occurrence => exact parts.engagement_undergo id occurrence
  | adjust adjustment => exact parts.engagement_adjust id willing

/-- A step of a link that is not in the middle of anything. -/
theorem Engaged.step_idle {parts : Parts} (engaged : (idle parts).Engaged id dealings)
    {move : WorkMove} (kept : move ≠ .link .cleanUp) (willing : move.refuses = false) :
    ∃ after, ((idle parts).step move).Engaged id after ∧
      dealings.Change false after ((idle parts).step move).flush.isSome
        ((idle parts).receives move) ((idle parts).describes move) := by
  obtain ⟨engagement, flushes⟩ := engaged
  obtain ⟨connection, used, found, same⟩ := Parts.connection_of_engagement engagement
  have quiet {moved : LinkMove} (uncleaned : moved ≠ .cleanUp) (calm : moved.refuses = false)
      (itemless : ∀ item, moved ≠ .item item) :
      ∃ after, (idle (parts.linkMove moved)).Engaged id after ∧
        dealings.Change false after false [] false := by
    have unchanged := engagement_linkMove used uncleaned calm itemless
    exact ⟨dealings, ⟨unchanged.trans engagement, flushes⟩, .same false⟩
  cases move with
  | handOver => exact ⟨dealings, ⟨engagement, flushes⟩, .same false⟩
  | link move =>
      have uncleaned : move ≠ .cleanUp := fun equal => kept (congrArg WorkMove.link equal)
      cases move with
      | item item => exact Parts.change_beginItem engagement item
      | initialise => exact quiet uncleaned willing (by rintro item ⟨⟩)
      | sendState requestState => exact quiet uncleaned willing (by rintro item ⟨⟩)
      | sendEvent event => exact quiet uncleaned willing (by rintro item ⟨⟩)
      | cleanUp => exact (uncleaned rfl).elim
      | event occurrence => exact quiet uncleaned willing (by rintro item ⟨⟩)
      | adjust adjustment => exact quiet uncleaned willing (by rintro item ⟨⟩)

/-- The next held candidate is handed over, or there is none left. -/
theorem Engaged.step_handOver {parts : Parts} {flush : Flush}
    (engaged : (LinkAtWork.mk parts (some flush)).Engaged id dealings) :
    ∃ after, (LinkAtWork.step ⟨parts, some flush⟩ .handOver).Engaged id after ∧
      dealings.Change true after (LinkAtWork.step ⟨parts, some flush⟩ .handOver).flush.isSome
        [] false := by
  obtain ⟨engagement, flushes⟩ := engaged
  obtain ⟨connection, used, found, same⟩ := Parts.connection_of_engagement engagement
  have target := flushes flush rfl
  cases held : parts.peer.held with
  | nil =>
      have next : LinkAtWork.step ⟨parts, some flush⟩ .handOver = idle (flush.finish parts) := by
        simp only [LinkAtWork.step, held]
        rfl
      rw [next]
      refine ⟨dealings, ⟨?_, by rintro flush ⟨⟩⟩, .finish ?_⟩
      · exact (flush.engagement_finish parts id).trans engagement
      · rw [same]
        exact held
  | cons candidate rest =>
      have next : LinkAtWork.step ⟨parts, some flush⟩ .handOver =
          ⟨parts.handOver id candidate rest, some flush⟩ := by
        simp only [LinkAtWork.step, held, target]
      rw [next]
      refine ⟨_, ⟨?_, flushes⟩, .handOver candidate rest ?_⟩
      · rw [same]
        exact Parts.engagement_handOver connection used found candidate rest
      · rw [same]
        exact held

/-- A step that makes the peer connection neither refuse nor cease to refuse. -/
theorem Engaged.step (engaged : work.Engaged id dealings) {move : WorkMove}
    (kept : move ≠ .link .cleanUp) (willing : move.refuses = false) :
    ∃ after, (work.step move).Engaged id after ∧
      dealings.Change work.flush.isSome after (work.step move).flush.isSome
        (work.receives move) (work.describes move) := by
  obtain ⟨parts, flush⟩ := work
  cases flush with
  | none => exact engaged.step_idle kept willing
  | some flush =>
      obtain ⟨engagement, flushes⟩ := engaged
      -- In the middle of handing over the link turns to nothing else.
      have waits : ∃ after, (LinkAtWork.mk parts (some flush)).Engaged id after ∧
          dealings.Change true after true [] false :=
        ⟨dealings, ⟨engagement, flushes⟩, .same true⟩
      cases move with
      | handOver => exact Engaged.step_handOver ⟨engagement, flushes⟩
      | link move =>
          cases move with
          | event occurrence =>
              have unchanged := parts.engagement_undergo id occurrence
              exact ⟨dealings, ⟨unchanged.trans engagement, flushes⟩, .same true⟩
          | adjust adjustment =>
              have unchanged := parts.engagement_adjust id willing
              exact ⟨dealings, ⟨unchanged.trans engagement, flushes⟩, .same true⟩
          | item item => exact waits
          | initialise => exact waits
          | sendState requestState => exact waits
          | sendEvent event => exact waits
          | cleanUp => exact waits

/-- A step that makes the peer connection refuse or cease to refuse. -/
theorem Engaged.step_refusal (engaged : work.Engaged id dealings) {move : WorkMove}
    (refusal : move.refuses = true) :
    ∃ remote candidates,
      (work.step move).Engaged id { dealings with
        refusesRemote := remote, refusesCandidates := candidates } ∧
      (work.step move).flush = work.flush ∧ work.receives move = [] := by
  obtain ⟨parts, flush⟩ := work
  cases move with
  | handOver => cases refusal
  | link move =>
      cases move with
      | adjust adjustment =>
          obtain ⟨remote, candidates, changed⟩ :=
            Parts.engagement_refusal engaged.engagement refusal
          refine ⟨remote, candidates, ?_⟩
          cases flush with
          | none => exact ⟨⟨changed, engaged.flushes⟩, rfl, rfl⟩
          | some flush => exact ⟨⟨changed, engaged.flushes⟩, rfl, rfl⟩
      | _ => cases refusal

/-- The dealings stay balanced in every run without cleaning up. -/
theorem balanced_run {received : List IceCandidate} (engaged : work.Engaged id dealings)
    (balanced : dealings.Balanced received work.flush.isSome) {moves : List WorkMove}
    (kept : .link .cleanUp ∉ moves) :
    ∃ after, (work.run moves).Engaged id after ∧
      after.Balanced (received ++ work.received moves) (work.run moves).flush.isSome := by
  induction moves generalizing work dealings received with
  | nil =>
      refine ⟨dealings, engaged, ?_⟩
      rw [LinkAtWork.received, List.append_nil]
      exact balanced
  | cons move rest ih =>
      have later : .link .cleanUp ∉ rest := fun member => kept (List.mem_cons_of_mem _ member)
      have uncleaned : move ≠ .link .cleanUp := by
        rintro rfl
        exact kept List.mem_cons_self
      rw [LinkAtWork.received, ← List.append_assoc]
      cases refusal : move.refuses with
      | false =>
          obtain ⟨after, next, change⟩ := engaged.step uncleaned refusal
          exact ih next (change.balanced balanced) later
      | true =>
          obtain ⟨remote, candidates, next, flush, none⟩ := engaged.step_refusal refusal
          rw [none, List.append_nil]
          refine ih next ?_ later
          rw [flush]
          exact balanced.refuse remote candidates

/-- In a run without refusals the dealings stay willing as well. -/
theorem willing_run {received : List IceCandidate} {earlier : Bool}
    (engaged : work.Engaged id dealings)
    (balanced : dealings.Balanced received work.flush.isSome) (willing : dealings.Willing earlier)
    {moves : List WorkMove} (kept : .link .cleanUp ∉ moves)
    (unrefused : ∀ move ∈ moves, move.refuses = false) :
    ∃ after, (work.run moves).Engaged id after ∧
      after.Balanced (received ++ work.received moves) (work.run moves).flush.isSome ∧
      after.Willing (earlier || work.described moves) := by
  induction moves generalizing work dealings received earlier with
  | nil =>
      refine ⟨dealings, engaged, ?_, ?_⟩
      · rw [LinkAtWork.received, List.append_nil]
        exact balanced
      · rw [LinkAtWork.described, Bool.or_false]
        exact willing
  | cons move rest ih =>
      have uncleaned : move ≠ .link .cleanUp := by
        rintro rfl
        exact kept List.mem_cons_self
      obtain ⟨after, next, change⟩ :=
        engaged.step uncleaned (unrefused move List.mem_cons_self)
      rw [LinkAtWork.received, ← List.append_assoc, LinkAtWork.described, ← Bool.or_assoc]
      exact ih next (change.balanced balanced) (change.willing balanced willing)
        (fun member => kept (List.mem_cons_of_mem _ member))
        fun move member => unrefused move (List.mem_cons_of_mem _ member)

end Runs

/-! ## From the beginning -/

/-- The dealings of a link that was just set up. -/
theorem engaged_initPeer {parts : Parts} {id : ConnectionId} (accounted : parts.Accounted)
    (absent : parts.peer.connection = none) (used : parts.initPeer.2.peer.connection = some id) :
    (idle parts.initPeer.2.recover).Engaged id ⟨[], false, false, false, []⟩ := by
  have empty := (accounted.resting absent).2.1
  refine ⟨?_, fun _ missing => nomatch missing⟩
  obtain ⟨configuration, fresh⟩ :=
    Parts.shown_initPeer (fun held connection => connection.dealings held) absent used
  rw [empty] at fresh
  exact fresh

private theorem candidates_perm (connection : PeerConnection) :
    (connection.candidateRequests.map CandidateRequest.candidate).Perm
      (connection.acceptedCandidates ++ connection.rejectedCandidates) := by
  unfold PeerConnection.acceptedCandidates PeerConnection.rejectedCandidates
  rw [← List.map_append]
  exact (List.filter_append_perm CandidateRequest.accepted
    connection.candidateRequests).symm.map CandidateRequest.candidate

private theorem balanced_fresh :
    (⟨[], false, false, false, []⟩ : Dealings).Balanced [] false where
  conserved := List.Perm.nil
  settled := fun _ described => absurd described Bool.false_ne_true
  flushes := fun flushing => absurd flushing Bool.false_ne_true
  early := fun _ => rfl

/-- Without refusals every candidate received was taken if a description came, and none
otherwise. -/
theorem accepted_linkRun {start : Parts} {id : ConnectionId}
    (fresh : (idle start).Engaged id ⟨[], false, false, false, []⟩) {moves : List LinkMove}
    (kept : .cleanUp ∉ moves) (unrefused : ∀ move ∈ moves, move.refuses = false) :
    ∃ connection, (start.linkRun moves).platform.connections[id]? = some connection ∧
      connection.acceptedCandidates.Perm
        (if moves.any LinkMove.describes then moves.flatMap LinkMove.candidates else []) := by
  obtain ⟨work, reached, received, described, members⟩ := exists_run_linkRun start moves
  have workKept : .link .cleanUp ∉ work := by
    intro member
    rcases members _ member with same | ⟨link, inside, same⟩
    · cases same
    · cases same
      exact kept inside
  have workUnrefused : ∀ move ∈ work, move.refuses = false := by
    intro move member
    rcases members move member with rfl | ⟨link, inside, rfl⟩
    · rfl
    · exact unrefused link inside
  obtain ⟨after, engaged, balanced, willing⟩ := willing_run fresh balanced_fresh
    ⟨rfl, rfl, (fun _ member => nomatch member), rfl⟩ workKept workUnrefused
  rw [reached, received, List.nil_append] at balanced
  rw [described, Bool.false_or] at willing
  rw [reached] at engaged
  obtain ⟨connection, _, found, same⟩ := Parts.connection_of_engagement engaged.engagement
  refine ⟨connection, found, ?_⟩
  have all : connection.acceptedCandidates = after.requests.map CandidateRequest.candidate := by
    have accepted := willing.accepted
    rw [same] at accepted ⊢
    exact congrArg _ (List.filter_eq_self.mpr accepted)
  rw [all]
  cases came : moves.any LinkMove.describes with
  | true =>
      have conserved := balanced.conserved
      rw [balanced.settled rfl (willing.described.trans came), List.append_nil] at conserved
      exact conserved.symm
  | false =>
      rw [balanced.early (willing.described.trans came)]
      exact List.Perm.nil

/-- Whatever happened before, after a link was set up and until it is cleaned up the
candidates received are those that its peer connection accepted, those that it rejected
and those still held. Each is handed over at most once, and none is held between two
items when there is a remote description. This holds however the peer connection begins
and ceases to refuse descriptions and candidates, even while held candidates are being
handed over. If it never does, the candidates accepted are the same whatever the order. -/
theorem candidates_accounted (localStream : MediaStream) (tokens : TokenScript)
    (iceConfiguration : Except Failure IceConfiguration) (label : String)
    (history : List LinkMove) (id : ConnectionId)
    (bare : ((Parts.bareLink localStream tokens iceConfiguration label).linkRun
      history).peer.connection = none)
    (initialised : ((Parts.bareLink localStream tokens iceConfiguration label).linkRun
      (history ++ [.initialise])).peer.connection = some id) :
    let start := (Parts.bareLink localStream tokens iceConfiguration label).linkRun
      (history ++ [.initialise])
    (∀ moves : List WorkMove, .link .cleanUp ∉ moves →
      let reached := (idle start).run moves
      let received := (idle start).received moves
      ∃ connection, reached.parts.platform.connections[id]? = some connection ∧
        received.Perm (connection.acceptedCandidates ++ connection.rejectedCandidates ++
          reached.parts.peer.held) ∧
        (connection.candidateRequests.map CandidateRequest.candidate).Subperm received ∧
        (reached.flush = none → connection.remoteDescription.isSome = true →
          reached.parts.peer.held = [])) ∧
    (∀ first second : List LinkMove, first.Perm second → .cleanUp ∉ first →
      (∀ move ∈ first, move.refuses = false) →
      ∃ one other, (start.linkRun first).platform.connections[id]? = some one ∧
        (start.linkRun second).platform.connections[id]? = some other ∧
        one.acceptedCandidates.Perm other.acceptedCandidates) := by
  intro start
  have fresh : (idle start).Engaged id ⟨[], false, false, false, []⟩ := by
    have accounted := Parts.accounted_linkRun localStream tokens iceConfiguration label history
    have setUp : start = ((Parts.bareLink localStream tokens iceConfiguration label).linkRun
        history).initPeer.2.recover := Parts.linkRun_append _ history [.initialise]
    rw [Parts.linkRun_append] at initialised
    rw [setUp]
    exact engaged_initPeer accounted bare initialised
  refine ⟨?_, ?_⟩
  · intro moves kept reached received
    obtain ⟨after, engaged, balanced⟩ := balanced_run fresh balanced_fresh kept
    obtain ⟨connection, _, found, same⟩ := Parts.connection_of_engagement engaged.engagement
    rw [List.nil_append, same] at balanced
    refine ⟨connection, found, ?_, ?_, ?_⟩
    · exact balanced.conserved.trans ((candidates_perm connection).append_right _)
    · exact (List.sublist_append_left _ _).subperm.trans balanced.conserved.symm.subperm
    · intro settled described
      refine balanced.settled ?_ described
      exact congrArg Option.isSome settled
  · intro first second permuted kept unrefused
    obtain ⟨one, foundOne, acceptedOne⟩ := accepted_linkRun fresh kept unrefused
    obtain ⟨other, foundOther, acceptedOther⟩ := accepted_linkRun fresh
      (fun member => kept (permuted.mem_iff.mpr member))
      fun move member => unrefused move (permuted.mem_iff.mpr member)
    refine ⟨one, other, foundOne, foundOther, ?_⟩
    have came : first.any LinkMove.describes = second.any LinkMove.describes := permuted.any_eq
    have same := permuted.flatMap_right LinkMove.candidates
    rw [← came] at acceptedOther
    refine acceptedOne.trans (List.Perm.trans ?_ acceptedOther.symm)
    split
    · exact same
    · exact List.Perm.nil

/-- A link that holds two candidates until an answer comes. The peer connection takes the
first and refuses the second, which makes two received, one of each kind, and none held;
the other way round none is refused. -/
theorem candidates_accounted_plain :
    let start := (Parts.bareLink ⟨"local", []⟩ (.ofAnswers []) (.ok ⟨[]⟩) "").linkRun
      ([] ++ [.initialise])
    let candidate : LinkMove := .item (.webrtcCandidate ⟨.null⟩)
    let answer : LinkMove := .item (.webrtcAcceptance ⟨.null⟩)
    let moves : List WorkMove := [.link candidate, .link candidate, .link answer, .handOver,
      .link (.adjust (.refuseCandidates 0 true)), .handOver, .handOver]
    (∃ connection, ((idle start).run moves).parts.platform.connections[0]? = some connection ∧
      connection.acceptedCandidates.length = 1 ∧ connection.rejectedCandidates.length = 1 ∧
      ((idle start).received moves).Perm (connection.acceptedCandidates ++
        connection.rejectedCandidates ++ ((idle start).run moves).parts.peer.held)) ∧
    (∃ one other, (start.linkRun [candidate, answer]).platform.connections[0]? = some one ∧
      (start.linkRun [answer, candidate]).platform.connections[0]? = some other ∧
      one.acceptedCandidates.Perm other.acceptedCandidates) := by
  intro start candidate answer moves
  obtain ⟨conserved, ordered⟩ := candidates_accounted ⟨"local", []⟩ (.ofAnswers []) (.ok ⟨[]⟩) ""
    [] 0 rfl rfl
  refine ⟨?_, ordered [candidate, answer] [answer, candidate] (List.Perm.swap ..) ?_ ?_⟩
  · obtain ⟨connection, found, balance, _⟩ := conserved moves (by simp [moves, candidate, answer])
    refine ⟨connection, found, ?_, ?_, balance⟩
    · cases found
      rfl
    · cases found
      rfl
  · simp [candidate, answer]
  · simp [candidate, answer, LinkMove.refuses]

end LinkAtWork

end CallControl
