import CallControl.Proofs.Answering
import CallControl.Proofs.Settling

/-! # A session that is called

As long as no task that the owner of a session asked for is due, all that the queue does is to
hand the call its items (`Session.InTime.run`). So a session that is called in time answers once,
however the frames that call it are mixed with others and with the steps of its queue
(`Session.answers_once`).
-/

namespace CallControl

open CallControl.Json

/-! ## Before the timeout -/

/-- A letter brings an item, marks its turn or holds back a task until a time at least. -/
def Letter.Patient (limit : Nat) : Letter (QueueTask CallTask) → Prop
  | .run (.item _) => True
  | .run (.marker _) => True
  | .run (.task _) => False
  | .hold deadline _ => limit ≤ deadline
  | .stop => False

private theorem patient_letters (limit : Nat) (items : List WorkItem) :
    ∀ letter ∈ items.map WorkItem.letter, letter.Patient limit := by
  intro letter member
  obtain ⟨_, _, rfl⟩ := List.mem_map.mp member
  trivial

/-- What can happen to a session of which only frames from its relay are heard. -/
inductive FrameMove where
  | frame (text : String)
  /-- The loop of the queue takes a step, if it can. -/
  | turn
  /-- Somebody begins to wait until everything in the queue is handled. -/
  | mark
  | wait (milliseconds : Nat)
  deriving Repr

namespace FrameMove

/-- The move of a session that is meant. -/
def move : FrameMove → SessionMove
  | .frame text => .event (.socket 0 (.message text))
  | .turn => .turn
  | .mark => .mark
  | .wait milliseconds => .wait milliseconds

/-- The text of the frame that comes in. -/
def text? : FrameMove → Option String
  | .frame text => some text
  | _ => none

/-- The milliseconds that pass. -/
def waited : FrameMove → Nat
  | .wait milliseconds => milliseconds
  | _ => 0

private theorem unarmed (move : FrameMove) (traps : Bool) : move.move ≠ .adjust (.trap traps) := by
  cases move <;> exact nofun

end FrameMove

namespace Session

/-- No task of its owner is due in a session before a time. -/
structure InTime (session : Session) (id : ConnectionId) (limit : Nat) : Prop where
  work : session.AtWork id
  letters : ∀ letter ∈ session.queue.loop.mailbox, letter.Patient limit
  delayed : ∀ held ∈ session.queue.loop.delayed, limit ≤ held.1

namespace InTime

open QueuedCall

variable {session : Session} {id : ConnectionId} {limit : Nat}

/-- Items and markers were put into the queue. -/
theorem extend (inTime : session.InTime id limit) {state : QueueState Call}
    {letters : List (Letter (QueueTask CallTask))}
    (patient : ∀ letter ∈ letters, letter.Patient limit)
    (work : (session.extend state letters).AtWork id) :
    (session.extend state letters).InTime id limit := by
  refine ⟨work, fun letter member => ?_, inTime.delayed⟩
  exact (List.mem_append.mp member).elim (inTime.letters letter) (patient letter)

/-- A step of the queue hands an item to the call, or the call does not notice it. -/
theorem turns (inTime : session.InTime id limit) (early : session.clock < limit)
    {move : Option QueueMove} {after : Session} (turns : session.Turns move after) :
    after.InTime id limit ∧ (move = none ∨ move = some .handle) := by
  have goesOn := (turns.queued inTime.work).1
  have letters := inTime.letters
  cases turns with
  | run task rest reached mailbox =>
      rw [mailbox] at letters
      have left : (session.withLoop { session.queue.loop with mailbox := rest }).InTime id limit :=
        ⟨inTime.work.drop mailbox, fun letter member => letters letter
          (List.mem_cons_of_mem _ member), inTime.delayed⟩
      refine ⟨left.extend (patient_letters limit _) goesOn, ?_⟩
      cases task with
      | item item => exact Or.inr rfl
      | marker number => exact Or.inl rfl
      | task task => exact (letters _ List.mem_cons_self).elim
  | aside deadline task rest mailbox =>
      rw [mailbox] at letters
      refine ⟨⟨goesOn, fun letter member => letters letter (List.mem_cons_of_mem _ member), ?_⟩,
        Or.inl rfl⟩
      intro held member
      rcases List.mem_append.mp member with there | last
      · exact inTime.delayed held there
      · exact List.mem_singleton.mp last ▸ letters _ List.mem_cons_self
  | due deadline task later reached delayed due =>
      have late := inTime.delayed (deadline, task) (delayed.mem_iff.mpr List.mem_cons_self)
      exact (Nat.not_lt_of_le (Nat.le_trans late due) early).elim

/-- What a move comes to before the time: the call takes in a frame, handles an item or does not
notice it. -/
theorem step (inTime : session.InTime id limit) (move : FrameMove)
    (early : session.clock + move.waited < limit) :
    let after := session.step move.move
    after.InTime id limit ∧ after.clock = session.clock + move.waited ∧
      ∃ talk : List TalkMove, after.queued = session.queued.run (talk.map TalkMove.overRelay) ∧
        talk.filterMap TalkMove.text? = move.text?.toList := by
  have work := inTime.work
  obtain ⟨goesOn, same⟩ := queued_step work move.unarmed
  cases move with
  | frame text =>
      have occurred : session.step (FrameMove.frame text).move = session.extend _ _ :=
        work.occur_eq (·.undergo (.socket 0 (.message text)))
      refine ⟨?_, ?_, [.receive text], same, rfl⟩
      · rw [occurred] at goesOn ⊢
        exact inTime.extend (patient_letters limit _) goesOn
      · rw [occurred]
        rfl
  | turn =>
      rcases work.turn_cases with ⟨idle, nothing, _⟩ | ⟨next, stepped, turns⟩
      · have still : session.step FrameMove.turn.move = session := step_turn_of_none idle
        rw [still]
        exact ⟨inTime, rfl, [], rfl, rfl⟩
      · have turned : session.step FrameMove.turn.move = session.withLoop next :=
          step_turn_of_some stepped
        obtain ⟨still, moved⟩ := inTime.turns early turns
        rw [turned] at same ⊢
        refine ⟨still, (turns.load_lt work).2, ?_⟩
        rcases moved with silent | handled
        · exact ⟨[], same.trans (congrArg (fun move => session.queued.run move.toList) silent), rfl⟩
        · exact ⟨[.handle],
            same.trans (congrArg (fun move => session.queued.run move.toList) handled), rfl⟩
  | mark =>
      have marked : (session.step FrameMove.mark.move).queue.loop = { session.queue.loop with
          mailbox := session.queue.loop.mailbox ++
            [.run (.marker session.queue.nextMarker)] } := if_pos work.running
      refine ⟨⟨goesOn, fun letter member => ?_, fun held member => ?_⟩, ?_, [], same, rfl⟩
      · rw [marked] at member
        rcases List.mem_append.mp member with earlier | last
        · exact inTime.letters letter earlier
        · rw [List.mem_singleton.mp last]
          trivial
      · rw [marked] at member
        exact inTime.delayed held member
      · exact (congrArg TaskLoop.clock marked :)
  | wait milliseconds =>
      exact ⟨⟨goesOn, inTime.letters, inTime.delayed⟩, rfl, [], same, rfl⟩

/-- However the frames come in between the steps of the queue, what happens to the session before
the time happens to a call that takes them in. -/
theorem run (inTime : session.InTime id limit) (moves : List FrameMove)
    (early : session.clock + (moves.map FrameMove.waited).sum < limit) :
    let after := session.run (moves.map FrameMove.move)
    after.InTime id limit ∧ after.clock = session.clock + (moves.map FrameMove.waited).sum ∧
      ∃ talk : List TalkMove, after.queued = session.queued.run (talk.map TalkMove.overRelay) ∧
        talk.filterMap TalkMove.text? = moves.filterMap FrameMove.text? := by
  induction moves generalizing session with
  | nil => exact ⟨inTime, rfl, [], rfl, rfl⟩
  | cons move rest ih =>
      simp only [List.map_cons, List.sum_cons] at early ⊢
      obtain ⟨still, clock, first, talked, heard⟩ := inTime.step move (by omega)
      obtain ⟨reached, later, more, talkedMore, heardMore⟩ := ih still (by omega)
      refine ⟨reached, ?_, first ++ more, ?_, ?_⟩
      · exact later.trans (by omega)
      · rw [List.map_append, run_append, ← talked]
        exact talkedMore
      · rw [List.filterMap_append, heard, heardMore, List.filterMap_cons]
        cases move.text? <;> rfl

end InTime

end Session

/-! ## From the start -/

/-- Setting up the links fetches no token. -/
theorem Parts.tokens_setUp {platform : Platform} {config : Config} {line : String}
    {parts : Parts} (ready : (setUp platform config line false true).1 = .ok parts) :
    parts.platform.tokens = platform.tokens := by
  simp only [setUp, Bool.false_eq_true, ↓reduceIte] at ready
  split at ready
  · cases ready
  · rename_i connected linked
    have same : connected.platform.tokens = platform.tokens := by
      unfold connectRelay Platform.connectSocket at linked
      split at linked
      · cases linked
      · cases linked
        rfl
    split at ready
    · cases ready
    · rename_i initialised
      cases ready
      have kept : connected.initPeer.2.platform.tokens = connected.platform.tokens :=
        initPeer_eq (·.platform.tokens) fun _ => rfl
      rw [initialised] at kept
      exact kept.trans same

namespace Session

variable {localStream : MediaStream} {tokens : TokenScript}
  {iceConfiguration : Except Failure IceConfiguration} {config : Config} {line : String}
  {session : Session}

/-- Until the call should have connected, nothing that the owner of a new session asked for is
due. -/
theorem inTime_start
    (started : start (.make localStream tokens iceConfiguration) config line = .running session) :
    ∃ id, session.call.Begins ∧ session.call.peer.connection = some id ∧
      session.InTime id config.connectTimeoutMs.toNat ∧ session.clock = 0 ∧
      session.queued = .idle session.call ∧ session.call.platform.tokens = tokens := by
  obtain ⟨id, begins, initialised, work, fresh⟩ := atWork_start started
  unfold start at started
  split at started
  · cases started
  · rename_i parts _ setUp
    cases started
    refine ⟨id, begins, initialised, ⟨work, ?_, nofun⟩, rfl, fresh, ?_⟩
    · intro letter member
      cases List.mem_singleton.mp member
      exact Nat.le_add_left _ _
    · exact Parts.tokens_setUp (congrArg Prod.fst setUp)

/-- A session whose relay was opened in time has the token sent, and is ready to be called. -/
theorem called_opened
    (started : start (.make localStream tokens iceConfiguration) config line = .running session)
    {token : String} (fetched : tokens.outcome = .ok token) {before : List FrameMove}
    (silent : before.filterMap FrameMove.text? = [])
    (early : (before.map FrameMove.waited).sum < config.connectTimeoutMs.toNat) :
    let opened := (session.run (before.map FrameMove.move)).step (.event (.socket 0 .opened))
    ∃ id, opened.InTime id config.connectTimeoutMs.toNat ∧
      opened.clock = (before.map FrameMove.waited).sum ∧
      opened.queued.Called id token [] .fresh := by
  obtain ⟨id, begins, initialised, inTime, zero, fresh, same⟩ := inTime_start started
  rw [← same] at fetched
  obtain ⟨still, later, talk, talked, heard⟩ := inTime.run before (by omega)
  have waited : (session.run (before.map FrameMove.move)).queued = .idle session.call := by
    rw [talked, fresh]
    exact QueuedCall.run_idle session.call (heard.trans silent)
  intro opened
  have unarmed : ∀ traps, SessionMove.event (.socket 0 .opened) ≠ .adjust (.trap traps) := nofun
  obtain ⟨goesOn, moved⟩ := queued_step still.work unarmed
  have occurred : opened = extend _ _ _ := still.work.occur_eq (·.undergo (.socket 0 .opened))
  refine ⟨id, ?_, ?_, ?_⟩
  · rw [occurred]
    exact still.extend (patient_letters _ _) (occurred ▸ goesOn)
  · rw [occurred]
    exact later.trans (by omega)
  · rw [moved, waited]
    exact begins.called initialised fetched

/-- A session whose relay opens and takes the token in time is sent frames, of which one brings an
offer and any number bring candidates before or after it, while all others are none of a call's
business. However they come in between the steps of its queue, the queue empties when it is left
to itself, and whenever it is empty after the last frame the call has answered once: the token
and one acceptance were sent, the offer was answered and every candidate applied. -/
theorem answers_once
    (started : start (.make localStream tokens iceConfiguration) config line = .running session)
    {token : String} (fetched : tokens.outcome = .ok token) {before after : List FrameMove}
    (silent : before.filterMap FrameMove.text? = [])
    (early : ((before ++ after).map FrameMove.waited).sum < config.connectTimeoutMs.toNat)
    {first second : List IceCandidate} {offer : SessionDescription}
    (called : (after.filterMap FrameMove.text?).filterMap RelayFrame.decode? =
      first.map .webrtcCandidate ++ .webrtcOffer offer :: second.map .webrtcCandidate) :
    let reached := session.run
      (before.map FrameMove.move ++ .event (.socket 0 .opened) :: after.map FrameMove.move)
    (reached.queue.loop.mailbox = [] →
        reached.call.AnsweredOnce token offer (first ++ second)) ∧
      reached.settle.queue.loop.mailbox = [] ∧
      reached.settle.call.AnsweredOnce token offer (first ++ second) := by
  rw [List.map_append, List.sum_append] at early
  obtain ⟨id, inTime, clock, ready⟩ := called_opened started fetched silent (by omega)
  let opened := (session.run (before.map FrameMove.move)).step (.event (.socket 0 .opened))
  -- What is true of the frames that came in is true when the queue took some more steps, too.
  have answers (moves : List FrameMove)
      (heard : moves.filterMap FrameMove.text? = after.filterMap FrameMove.text?)
      (waited : (moves.map FrameMove.waited).sum = (after.map FrameMove.waited).sum)
      (drained : (opened.run (moves.map FrameMove.move)).queue.loop.mailbox = []) :
      (opened.run (moves.map FrameMove.move)).call.AnsweredOnce token offer (first ++ second) := by
    obtain ⟨_, _, talk, talked, texts⟩ := inTime.run moves (by omega)
    have calling : ∀ item ∈ (talk.filterMap QueuedCall.TalkMove.text?).filterMap
        RelayFrame.decode?, item.Calling := by
      intro item member
      rw [texts, heard, called] at member
      rcases List.mem_append.mp member with candidate | rest
      · obtain ⟨_, _, rfl⟩ := List.mem_map.mp candidate
        exact .candidate _
      · rcases List.mem_cons.mp rest with rfl | candidate
        · exact .offer _
        · obtain ⟨_, _, rfl⟩ := List.mem_map.mp candidate
          exact .candidate _
    obtain ⟨intake, reached⟩ := ready.run calling
    rw [← talked, texts, heard, called] at reached
    refine reached.answeredOnce ?_
    exact congrArg (List.filterMap Letter.item?) drained
  intro reached
  have same : reached = opened.run (after.map FrameMove.move) := List.foldl_append ..
  rw [same]
  refine ⟨answers after rfl rfl, ?_⟩
  obtain ⟨goesOn, _⟩ := inTime.run after (by omega)
  obtain ⟨count, settled, empty⟩ := goesOn.work.settle
  have turns : (opened.run (after.map FrameMove.move)).settle =
      opened.run ((after ++ List.replicate count FrameMove.turn).map FrameMove.move) := by
    rw [settled, List.map_append, List.map_replicate]
    exact (List.foldl_append ..).symm
  refine ⟨empty, ?_⟩
  rw [turns] at empty ⊢
  refine answers _ ?_ ?_ empty
  · rw [List.filterMap_append, List.filterMap_replicate_of_none rfl, List.append_nil]
  · rw [List.map_append, List.sum_append, List.map_replicate, List.sum_replicate_nat]
    exact congrArg (_ + ·) (Nat.mul_zero count)

/-- A new session whose relay opens after a second. It is called with a candidate before and one
after the offer, and answers once. -/
theorem answers_once_plain :
    let offer : SessionDescription := ⟨.object [("sdp", .string "v=0")]⟩
    let candidate : FrameMove := .frame "[\"webrtc_candidate\",\x7b\x7d]"
    let before : List FrameMove := [.turn, .wait 1000]
    let after : List FrameMove := [.frame "no frame", candidate, .turn,
      .frame "[\"webrtc_offer\",\x7b\"sdp\":\"v=0\"\x7d]", .mark, candidate, .wait 1000]
    ∃ session,
      start (.make ⟨"local", []⟩ (.ofAnswers []) (.ok ⟨[]⟩)) .standard "line" =
        .running session ∧
      (session.run (before.map FrameMove.move ++ .event (.socket 0 .opened) ::
        after.map FrameMove.move)).settle.call.AnsweredOnce "token" offer
          [⟨.object []⟩, ⟨.object []⟩] := by
  intro offer candidate before after
  have started : ∃ session, start (.make ⟨"local", []⟩ (.ofAnswers []) (.ok ⟨[]⟩)) .standard
      "line" = .running session := ⟨_, rfl⟩
  obtain ⟨session, started⟩ := started
  have nothing : RelayFrame.decode? "no frame" = none := by decide +kernel
  have found : RelayFrame.decode? "[\"webrtc_candidate\",\x7b\x7d]" =
      some (.webrtcCandidate ⟨.object []⟩) := by
    have scans : tokens? ("[\"webrtc_candidate\",\x7b\x7d]".toList.map some) =
        some [.opening .array, .scalar (.string (some "webrtc_candidate")), .comma,
          .opening .object, .closing .object, .closing .array] := by
      decide +kernel
    simp only [RelayFrame.decode?, RelayFrame.parse?, Document.parse?, Document.ofChars?, scans]
    rfl
  have offered : RelayFrame.decode? "[\"webrtc_offer\",\x7b\"sdp\":\"v=0\"\x7d]" =
      some (.webrtcOffer offer) := by
    have scans : tokens? ("[\"webrtc_offer\",\x7b\"sdp\":\"v=0\"\x7d]".toList.map some) =
        some [.opening .array, .scalar (.string (some "webrtc_offer")), .comma,
          .opening .object, .scalar (.string (some "sdp")), .colon,
          .scalar (.string (some "v=0")), .closing .object, .closing .array] := by
      decide +kernel
    simp only [RelayFrame.decode?, RelayFrame.parse?, Document.parse?, Document.ofChars?, scans]
    rfl
  have called : (after.filterMap FrameMove.text?).filterMap RelayFrame.decode? =
      [⟨.object []⟩].map .webrtcCandidate ++ .webrtcOffer offer ::
        [⟨.object []⟩].map .webrtcCandidate := by
    have texts : after.filterMap FrameMove.text? = ["no frame",
        "[\"webrtc_candidate\",\x7b\x7d]", "[\"webrtc_offer\",\x7b\"sdp\":\"v=0\"\x7d]",
        "[\"webrtc_candidate\",\x7b\x7d]"] := rfl
    rw [texts]
    simp only [List.filterMap_cons, List.filterMap_nil, nothing, found, offered]
    rfl
  exact ⟨session, started, (answers_once started rfl rfl (by decide) called).2.2⟩

end Session

end CallControl
