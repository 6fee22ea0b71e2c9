import CallControl.Proofs.Raised

/-! # What comes over the relay

A link to the relay hears frames from when it was connected until the relay closes its
socket or it is cleaned up, whichever comes first. From the moves of the link alone can
be told what it raises: one item for each frame that asks for one, in order, and one more
if it was the relay that closed the socket (`Parts.heard_overRelay`). Signals sent and
the socket's opening and its errors make no difference.
-/

namespace CallControl

open CallControl.Json

/-- What can happen to a link to the relay. -/
inductive RelayMove where
  /-- Its socket reports an event. -/
  | event (event : SocketEvent)
  | send (signal : Signal)
  | cleanUp
  deriving Repr

namespace RelayMove

/-- The frame that a move delivers. -/
def frame? : RelayMove → Option String
  | .event (.message text) => some text
  | _ => none

/-- The relay closes the socket. -/
def closes : RelayMove → Bool
  | .event (.closed _ _) => true
  | _ => false

/-- The link hears of nothing after the move. -/
def ends : RelayMove → Bool
  | .cleanUp => true
  | move => move.closes

/-- The items that a move makes a link raise that hears of it. -/
def asks : RelayMove → List WorkItem
  | .event reported => reported.asks
  | _ => []

/-- The frames delivered before the first move that ends the hearing. -/
def frames (moves : List RelayMove) : List String :=
  (moves.takeWhile fun move => !move.ends).filterMap frame?

/-- The relay closes the socket, and the link was not cleaned up before. -/
def closedByRelay (moves : List RelayMove) : Bool :=
  (moves.find? ends).any closes

/-- The items that some moves make a link raise. -/
def raised (moves : List RelayMove) : List WorkItem :=
  ((frames moves).filterMap RelayFrame.decode?).map .peer ++
    if closedByRelay moves then [.coordinator .closedSignaller] else []

/-- The relay closed the socket if some closing of it comes before every cleaning up. -/
theorem closedByRelay_iff (moves : List RelayMove) :
    closedByRelay moves = true ↔
      ∃ before code reason after,
        moves = before ++ .event (.closed code reason) :: after ∧ .cleanUp ∉ before := by
  induction moves with
  | nil => simp [closedByRelay]
  | cons move rest ih =>
      constructor
      · intro closed
        by_cases ending : move.ends = true
        · rw [closedByRelay, List.find?_cons_of_pos ending] at closed
          match move, closed with
          | .event (.closed code reason), _ => exact ⟨[], code, reason, rest, rfl, List.not_mem_nil⟩
        · rw [closedByRelay, List.find?_cons_of_neg ending] at closed
          obtain ⟨before, code, reason, after, split, kept⟩ := ih.mp closed
          refine ⟨move :: before, code, reason, after, congrArg (move :: ·) split, ?_⟩
          rintro (_ | ⟨_, inside⟩)
          · exact ending rfl
          · exact kept inside
      · rintro ⟨before, code, reason, after, split, kept⟩
        cases before with
        | nil =>
            obtain ⟨rfl, rfl⟩ := List.cons.inj split
            rfl
        | cons first others =>
            obtain ⟨rfl, rfl⟩ := List.cons.inj split
            by_cases ending : move.ends = true
            · rw [closedByRelay, List.find?_cons_of_pos ending]
              cases move with
              | cleanUp => exact (kept List.mem_cons_self).elim
              | event reported => exact ending
              | send signal => exact ending
            · rw [closedByRelay, List.find?_cons_of_neg ending]
              exact ih.mpr ⟨others, code, reason, after, rfl,
                fun inside => kept (List.mem_cons_of_mem _ inside)⟩

private theorem frames_of_ends {move : RelayMove} (ending : move.ends = true)
    (rest : List RelayMove) :
    frames (move :: rest) = [] := by
  rw [frames, List.takeWhile_cons_of_neg (by simp [ending])]
  rfl

private theorem frames_of_continues {move : RelayMove} (going : move.ends = false)
    (rest : List RelayMove) : frames (move :: rest) = move.frame?.toList ++ frames rest := by
  rw [frames, List.takeWhile_cons_of_pos (by simp [going]), List.filterMap_cons]
  cases move.frame? <;> rfl

private theorem raised_of_ends {move : RelayMove} (ending : move.ends = true)
    (rest : List RelayMove) :
    raised (move :: rest) = move.asks := by
  rw [raised, frames_of_ends ending, closedByRelay, List.find?_cons_of_pos ending]
  match move, ending with
  | .cleanUp, _ => rfl
  | .event (.closed _ _), _ => rfl

private theorem raised_of_continues {move : RelayMove} (going : move.ends = false)
    (rest : List RelayMove) : raised (move :: rest) = move.asks ++ raised rest := by
  have asks : (move.frame?.toList.filterMap RelayFrame.decode?).map WorkItem.peer = move.asks := by
    match move, going with
    | .send _, _ => rfl
    | .event .opened, _ => rfl
    | .event (.error _), _ => rfl
    | .event (.message text), _ =>
        simp only [frame?, Option.toList_some, List.filterMap_cons, List.filterMap_nil,
          RelayMove.asks, SocketEvent.asks]
        cases RelayFrame.decode? text <;> rfl
  have unended : ¬ move.ends = true := Bool.eq_false_iff.mp going
  rw [raised, raised, frames_of_continues going, closedByRelay, List.find?_cons_of_neg unended,
    List.filterMap_append, List.map_append, asks, List.append_assoc]
  rfl

end RelayMove

namespace RelaySocket

/-- A socket takes what is sent on it. -/
def takes (socket : RelaySocket) : Bool :=
  socket.isOpen && !socket.closed && !socket.failsToSend

/-- A socket after a text was sent on it, which changes nothing unless it takes it. -/
def accept (socket : RelaySocket) (text : String) : RelaySocket :=
  if socket.takes then { socket with sent := socket.sent ++ [text] } else socket

private theorem send_eq_accept (socket : RelaySocket) (text : String) :
    (match socket.send text with
      | .ok sent => sent
      | .error _ => socket) = socket.accept text := by
  obtain ⟨url, observer, sent, isOpen, closed, detached, failsToSend⟩ := socket
  cases isOpen <;> cases closed <;> cases failsToSend <;> rfl

/-- A text is sent on a socket that takes it, behind what was sent before. -/
theorem sent_accept (socket : RelaySocket) (text : String) :
    (socket.accept text).sent = socket.sent ++ if socket.takes then [text] else [] := by
  unfold accept
  split
  · rfl
  · exact (List.append_nil _).symm

/-- Sending a text neither opens nor closes a socket. -/
theorem isOpen_accept (socket : RelaySocket) (text : String) :
    (socket.accept text).isOpen = socket.isOpen := by
  unfold accept
  split <;> rfl

/-- Sending a text does not close a socket. -/
theorem closed_accept (socket : RelaySocket) (text : String) :
    (socket.accept text).closed = socket.closed := by
  unfold accept
  split <;> rfl

/-- Sending a text leaves the observer of a socket alone. -/
theorem observer_accept (socket : RelaySocket) (text : String) :
    (socket.accept text).observer = socket.observer := by
  unfold accept
  split <;> rfl

/-- A socket that took something takes more. -/
theorem takes_accept (socket : RelaySocket) (text : String) :
    (socket.accept text).takes = socket.takes := by
  unfold accept
  split <;> rfl

/-- Sending a text does not detach a socket. -/
theorem detached_accept (socket : RelaySocket) (text : String) :
    (socket.accept text).detached = socket.detached := by
  unfold accept
  split <;> rfl

end RelaySocket

/-! ## Frames -/

/-- What a frame asks for: that the peer has joined, or one of the three negotiation
messages with an object as its message. -/
inductive RelayFrame.AsksFor : RelayFrame → PeerItem → Prop where
  | joined (message : Json) : AsksFor ⟨"user_joined", message⟩ .userJoined
  | offer (members : List (String × Json)) :
      AsksFor ⟨"webrtc_offer", .object members⟩ (.webrtcOffer ⟨.object members⟩)
  | acceptance (members : List (String × Json)) :
      AsksFor ⟨"webrtc_acceptance", .object members⟩ (.webrtcAcceptance ⟨.object members⟩)
  | candidate (members : List (String × Json)) :
      AsksFor ⟨"webrtc_candidate", .object members⟩ (.webrtcCandidate ⟨.object members⟩)

private theorem RelayFrame.item?_eq_some_iff (frame : RelayFrame) (item : PeerItem) :
    frame.item? = some item ↔ frame.AsksFor item := by
  constructor
  · intro asked
    obtain ⟨event, message⟩ := frame
    unfold RelayFrame.item? at asked
    split at asked
    · rename_i joined
      cases Option.some.inj asked
      cases joined
      exact .joined message
    · split at asked
      · rename_i isObject
        obtain ⟨members, rfl⟩ : ∃ members, message = .object members := by
          cases message with
          | object members => exact ⟨members, rfl⟩
          | _ => cases isObject
        dsimp only at asked
        split at asked
        · rename_i named
          cases Option.some.inj asked
          cases named
          exact .offer members
        · split at asked
          · rename_i named
            cases Option.some.inj asked
            cases named
            exact .acceptance members
          · split at asked
            · rename_i named
              cases Option.some.inj asked
              cases named
              exact .candidate members
            · cases asked
      · cases asked
  · rintro (_ | _ | _ | _) <;> rfl

/-- A text is decoded as an item when it is a frame that asks for it. -/
theorem RelayFrame.decode?_eq_some_iff (text : String) (item : PeerItem) :
    decode? text = some item ↔ ∃ frame, parse? text = some frame ∧ frame.AsksFor item := by
  unfold decode?
  rw [Option.bind_eq_some_iff]
  exact exists_congr fun frame => and_congr_right fun _ => frame.item?_eq_some_iff item

namespace Parts

/-- The parts after a move of a link to the relay over a socket. -/
def relayMove (id : SocketId) (parts : Parts) : RelayMove → Parts
  | .event event => (parts.socketEmits id event).recover
  | .send signal => parts.sendSignal signal
  | .cleanUp => parts.cleanUpRelay

/-- The parts after some moves of a link to the relay over a socket. -/
def relayRun (id : SocketId) (parts : Parts) (moves : List RelayMove) : Parts :=
  moves.foldl (relayMove id) parts

/-- The frames that a link counted, and what was raised. -/
def tally (parts : Parts) : Nat × List WorkItem :=
  (parts.relay.received, parts.platform.dispatched)

/-- A link to the relay hears of what happens on its socket and may raise items. -/
structure Listening (parts : Parts) (id : SocketId) : Prop where
  observed : parts.observerOf id = some .link
  holds : parts.relay.socket = .simulated id
  unmuted : parts.relay.muted = false
  untrapped : parts.platform.trapped = false

/-- What is sent on a socket of the platform it accepts. -/
theorem sendOnSocket_simulated (parts : Parts) (id : SocketId) (text : String) :
    parts.sendOnSocket (.simulated id) text = parts.modifySocket id (·.accept text) := by
  unfold sendOnSocket
  exact congrArg (parts.modifySocket id) (funext fun socket => socket.send_eq_accept text)

private theorem observerOf_modifySocket (parts : Parts) (target id : SocketId)
    {change : RelaySocket → RelaySocket}
    (kept : ∀ socket : RelaySocket, (change socket).observer = socket.observer) :
    (parts.modifySocket target change).observerOf id = parts.observerOf id := by
  unfold observerOf
  simp only [modifySocket, Platform.modifySocket, List.getElem?_modify]
  cases parts.platform.sockets[id]? with
  | none => rfl
  | some socket =>
      by_cases same : target = id
      · simp only [same, ↓reduceIte]
        exact kept socket
      · simp only [same, ↓reduceIte]
        rfl

private theorem observerOf_modifySocket_none (parts : Parts) (id : SocketId)
    {change : RelaySocket → RelaySocket}
    (gone : ∀ socket : RelaySocket, (change socket).observer = none) :
    (parts.modifySocket id change).observerOf id = none := by
  unfold observerOf
  simp only [modifySocket, Platform.modifySocket, List.getElem?_modify_eq]
  cases parts.platform.sockets[id]? with
  | none => rfl
  | some socket => exact gone socket

private theorem observerOf_modifySocket_of_none {parts : Parts} {id : SocketId}
    (unobserved : parts.observerOf id = none) (target : SocketId)
    {change : RelaySocket → RelaySocket}
    (kept : ∀ socket : RelaySocket, socket.observer = none → (change socket).observer = none) :
    (parts.modifySocket target change).observerOf id = none := by
  unfold observerOf at unobserved ⊢
  simp only [modifySocket, Platform.modifySocket, List.getElem?_modify]
  cases found : parts.platform.sockets[id]? with
  | none => rfl
  | some socket =>
      rw [found] at unobserved
      by_cases same : target = id
      · simp only [same, ↓reduceIte]
        exact kept socket unobserved
      · simp only [same, ↓reduceIte]
        exact unobserved

private theorem observerOf_sendSignal (parts : Parts) (signal : Signal) (id : SocketId) :
    (parts.sendSignal signal).observerOf id = parts.observerOf id := by
  unfold sendSignal
  cases parts.relay.socket with
  | simulated target =>
      rw [sendOnSocket_simulated]
      exact observerOf_modifySocket parts target id fun socket => socket.observer_accept _
  | absent => rfl
  | unheeding => rfl

private theorem raiseFromRelay_eq {parts : Parts} (unmuted : parts.relay.muted = false)
    (untrapped : parts.platform.trapped = false) (item : WorkItem) :
    parts.raiseFromRelay item =
      { parts with platform := { parts.platform with
          dispatched := parts.platform.dispatched ++ [item] } } := by
  unfold raiseFromRelay Platform.dispatch
  rw [if_neg (Bool.eq_false_iff.mp unmuted), if_neg (Bool.eq_false_iff.mp untrapped)]

private theorem tally_sendOnSocket (parts : Parts) (socket : HeldSocket) (text : String) :
    (parts.sendOnSocket socket text).tally = parts.tally := by
  unfold sendOnSocket
  split <;> rfl

/-! ## Moves of a link that hears -/

namespace Listening

variable {parts : Parts} {id : SocketId}

/-- An event of the socket reaches the link. -/
theorem socketEmits_eq (listening : parts.Listening id) (event : SocketEvent) :
    parts.socketEmits id event =
      (parts.modifySocket id (·.after event)).relayHeard (.simulated id) event := by
  obtain ⟨socket, found, link⟩ := Option.bind_eq_some_iff.mp listening.observed
  unfold socketEmits
  simp only [found, link]
  rfl

private theorem modifySocket (listening : parts.Listening id) {change : RelaySocket → RelaySocket}
    (kept : ∀ socket : RelaySocket, (change socket).observer = socket.observer) :
    (parts.modifySocket id change).Listening id where
  observed := (observerOf_modifySocket parts id id kept).trans listening.observed
  holds := listening.holds
  unmuted := listening.unmuted
  untrapped := listening.untrapped

/-- A link that listens to the relay goes on listening when it sends. -/
theorem sendOnSocket (listening : parts.Listening id) (text : String) :
    (parts.sendOnSocket (.simulated id) text).Listening id := by
  rw [sendOnSocket_simulated]
  exact listening.modifySocket fun socket => socket.observer_accept text

/-- Opening sends the token if there is one, and raises nothing. -/
theorem relayOpened (listening : parts.Listening id) :
    (parts.relayOpened (.simulated id)).Listening id ∧
      (parts.relayOpened (.simulated id)).tally = parts.tally := by
  have asked : Parts.Listening
      { parts with platform := { parts.platform with tokens := parts.platform.tokens.advance } }
      id :=
    ⟨listening.observed, listening.holds, listening.unmuted, listening.untrapped⟩
  simp only [Parts.relayOpened, fetchToken, greet, TokenScript.fetch]
  split
  · exact ⟨asked.sendOnSocket _, tally_sendOnSocket _ _ _⟩
  · exact ⟨⟨listening.observed, listening.holds, listening.unmuted, listening.untrapped⟩, rfl⟩
  · exact ⟨asked, rfl⟩

/-- A frame is counted, and raises the item that it asks for. -/
theorem relayDelivered (listening : parts.Listening id) (text : String) :
    (parts.relayDelivered text).Listening id ∧
      (parts.relayDelivered text).tally =
        (parts.tally.1 + 1, parts.tally.2 ++ (SocketEvent.message text).asks) := by
  have counted : Parts.Listening
      { parts with relay := { parts.relay with received := parts.relay.received + 1 } } id :=
    ⟨listening.observed, listening.holds, listening.unmuted, listening.untrapped⟩
  simp only [Parts.relayDelivered, SocketEvent.asks]
  cases RelayFrame.decode? text with
  | none => exact ⟨counted, congrArg (Prod.mk _) (List.append_nil _).symm⟩
  | some item =>
      dsimp only
      rw [raiseFromRelay_eq counted.unmuted counted.untrapped]
      exact ⟨⟨listening.observed, listening.holds, listening.unmuted, listening.untrapped⟩, rfl⟩

/-- A move that does not end the hearing. -/
theorem relayMove_of_continues (listening : parts.Listening id) {move : RelayMove}
    (going : move.ends = false) :
    (relayMove id parts move).Listening id ∧
      (relayMove id parts move).tally =
        (parts.tally.1 + move.frame?.toList.length, parts.tally.2 ++ move.asks) := by
  have quiet : parts.tally = (parts.tally.1 + 0, parts.tally.2 ++ []) :=
    congrArg (Prod.mk _) (List.append_nil _).symm
  cases move with
  | cleanUp => cases going
  | send signal =>
      have sent : relayMove id parts (.send signal) =
          parts.sendOnSocket (.simulated id) signal.toText :=
        congrArg (parts.sendOnSocket · signal.toText) listening.holds
      rw [sent]
      exact ⟨listening.sendOnSocket _, (tally_sendOnSocket _ _ _).trans quiet⟩
  | event reported =>
      simp only [relayMove, listening.socketEmits_eq]
      have changed (kept : ∀ socket : RelaySocket,
          (socket.after reported).observer = socket.observer) :
          (parts.modifySocket id (·.after reported)).Listening id :=
        listening.modifySocket kept
      cases reported with
      | closed code reason => cases going
      | opened =>
          obtain ⟨still, same⟩ := (changed fun _ => rfl).relayOpened
          exact ⟨⟨still.observed, still.holds, still.unmuted, still.untrapped⟩, same.trans quiet⟩
      | message text =>
          obtain ⟨still, grown⟩ := (changed fun _ => rfl).relayDelivered text
          exact ⟨⟨still.observed, still.holds, still.unmuted, still.untrapped⟩, grown⟩
      | error text =>
          have still := changed fun _ => rfl
          exact ⟨⟨still.observed, still.holds, still.unmuted, still.untrapped⟩, quiet⟩

/-- The relay's closing of the socket is the last that the link hears of; cleaning up
makes no report at all. -/
theorem relayMove_of_ends (listening : parts.Listening id) {move : RelayMove}
    (ending : move.ends = true) :
    (relayMove id parts move).observerOf id = none ∧
      (relayMove id parts move).tally = (parts.tally.1, parts.tally.2 ++ move.asks) := by
  match move, ending with
  | .cleanUp, _ =>
      simp only [relayMove, cleanUpRelay, listening.holds]
      refine ⟨observerOf_modifySocket_none _ id fun socket => ?_,
        congrArg (Prod.mk _) (List.append_nil _).symm⟩
      split <;> rfl
  | .event (.closed code reason), _ =>
      have shut : (parts.modifySocket id (·.after (.closed code reason))).observerOf id = none :=
        observerOf_modifySocket_none parts id fun _ => rfl
      simp only [relayMove, listening.socketEmits_eq, relayHeard]
      have unmuted : (parts.modifySocket id (·.after (.closed code reason))).relay.muted = false :=
        listening.unmuted
      rw [raiseFromRelay_eq unmuted listening.untrapped]
      exact ⟨shut, rfl⟩

end Listening

/-! ## Moves of a link that hears nothing -/

/-- Nothing makes a socket without an observer tell the link anything. -/
theorem relayMove_of_unobserved {parts : Parts} {id : SocketId}
    (unobserved : parts.observerOf id = none) (move : RelayMove) :
    (relayMove id parts move).observerOf id = none ∧
      (relayMove id parts move).tally = parts.tally := by
  cases move with
  | send signal => exact ⟨(observerOf_sendSignal parts signal id).trans unobserved,
      tally_sendOnSocket _ _ _⟩
  | event reported =>
      simp only [relayMove, socketEmits]
      cases found : parts.platform.sockets[id]? with
      | none => exact ⟨unobserved, rfl⟩
      | some socket =>
          have silent : socket.observer = none := by
            rw [observerOf, found] at unobserved
            exact unobserved
          simp only [silent]
          refine ⟨observerOf_modifySocket_of_none unobserved id fun current gone => ?_, rfl⟩
          cases reported with
          | closed code reason => rfl
          | _ => exact gone
  | cleanUp =>
      simp only [relayMove, cleanUpRelay]
      split
      · refine ⟨observerOf_modifySocket_of_none unobserved _ fun current _ => ?_, rfl⟩
        split <;> rfl
      · exact ⟨unobserved, rfl⟩

/-! ## Runs -/

private theorem tally_relayRun_of_unobserved {parts : Parts} {id : SocketId}
    (unobserved : parts.observerOf id = none) (moves : List RelayMove) :
    (relayRun id parts moves).tally = parts.tally := by
  unfold relayRun
  induction moves generalizing parts with
  | nil => rfl
  | cons move rest ih =>
      obtain ⟨still, same⟩ := relayMove_of_unobserved unobserved move
      exact (ih still).trans same

private theorem Listening.tally_relayRun {parts : Parts} {id : SocketId}
    (listening : parts.Listening id) (moves : List RelayMove) :
    (relayRun id parts moves).tally =
      (parts.tally.1 + (RelayMove.frames moves).length,
        parts.tally.2 ++ RelayMove.raised moves) := by
  induction moves generalizing parts with
  | nil => exact congrArg (Prod.mk _) (List.append_nil _).symm
  | cons move rest ih =>
      change (relayRun id (relayMove id parts move) rest).tally = _
      -- Once a move ended the hearing the induction hypothesis does not apply any more: the link
      -- no longer listens, and the rest of the run changes nothing.
      rcases Bool.eq_false_or_eq_true move.ends with ending | going
      · obtain ⟨unobserved, grown⟩ := listening.relayMove_of_ends ending
        rw [tally_relayRun_of_unobserved unobserved, grown, RelayMove.frames_of_ends ending,
          RelayMove.raised_of_ends ending]
        rfl
      · obtain ⟨still, grown⟩ := listening.relayMove_of_continues going
        rw [ih still, grown, RelayMove.frames_of_continues going,
          RelayMove.raised_of_continues going, List.length_append, Nat.add_assoc,
          List.append_assoc]

/-- A link that was just connected listens on its socket. -/
theorem listening_connectRelay {parts start : Parts} {config : Config} {line : String}
    (untrapped : parts.platform.trapped = false)
    (connected : parts.connectRelay config line = .ok start) :
    start.Listening parts.platform.sockets.length ∧
      start.tally = (0, parts.platform.dispatched) := by
  unfold connectRelay Platform.connectSocket at connected
  split at connected
  · cases connected
  · cases connected
    refine ⟨⟨?_, rfl, rfl, untrapped⟩, rfl⟩
    unfold observerOf
    rw [List.getElem?_concat_length]
    rfl

/-- From its connection on, what a link to the relay raises and counts is told by its
moves alone: the frames delivered before the first closing or cleaning up are counted,
those of them that ask for an item raise it, in order, and at the end the closing is
reported if it came before cleaning up. A frame asks for an item if it is a frame at all
and one of the four that concern a call. -/
theorem heard_overRelay {parts start : Parts} {config : Config} {line : String}
    (untrapped : parts.platform.trapped = false)
    (connected : parts.connectRelay config line = .ok start) (moves : List RelayMove) :
    (relayRun parts.platform.sockets.length start moves).platform.dispatched =
        parts.platform.dispatched ++
          ((RelayMove.frames moves).filterMap RelayFrame.decode?).map .peer ++
          (if RelayMove.closedByRelay moves then [.coordinator .closedSignaller] else []) ∧
      (relayRun parts.platform.sockets.length start moves).relay.received =
        (RelayMove.frames moves).length ∧
      (RelayMove.closedByRelay moves = true ↔
        ∃ before code reason after,
          moves = before ++ .event (.closed code reason) :: after ∧ .cleanUp ∉ before) ∧
      ∀ text item, RelayFrame.decode? text = some item ↔
        ∃ frame, RelayFrame.parse? text = some frame ∧ frame.AsksFor item := by
  obtain ⟨listening, fresh⟩ := listening_connectRelay untrapped connected
  have grown := listening.tally_relayRun moves
  rw [fresh, Nat.zero_add] at grown
  refine ⟨?_, congrArg Prod.fst grown, RelayMove.closedByRelay_iff moves,
    RelayFrame.decode?_eq_some_iff⟩
  rw [List.append_assoc]
  exact congrArg Prod.snd grown

/-- A peer that joins between frames that ask for nothing, makes an offer and is not heard
any more once the relay closed the socket. -/
theorem heard_untilClosed :
    let parts := onPlatform (.make ⟨"local", []⟩ (.ofAnswers []) (.ok ⟨[]⟩))
    let moves : List RelayMove :=
      [.event .opened, .event (.message "no frame"),
        .event (.message "\x7b\"event\":\"user_joined\"\x7d"),
        .event (.message "\x7b\"event\":\"webrtc_offer\"\x7d"), .send (.offer ⟨.object []⟩),
        .event (.message "[\"webrtc_offer\",\x7b\"sdp\":\"v=0\"\x7d]"),
        .event (.closed (some 1000) "bye"),
        .event (.message "\x7b\"event\":\"user_joined\"\x7d"), .cleanUp]
    ∃ start, parts.connectRelay .standard "line" = .ok start ∧
      (relayRun 0 start moves).platform.dispatched =
        [.peer .userJoined, .peer (.webrtcOffer ⟨.object [("sdp", .string "v=0")]⟩),
          .coordinator .closedSignaller] ∧
      (relayRun 0 start moves).relay.received = 4 := by
  intro parts moves
  have connected : ∃ start, parts.connectRelay .standard "line" = .ok start := ⟨_, rfl⟩
  obtain ⟨start, connected⟩ := connected
  have untrapped : parts.platform.trapped = false := rfl
  obtain ⟨dispatched, received, _⟩ := heard_overRelay untrapped connected moves
  have nothing : RelayFrame.decode? "no frame" = none := by decide +kernel
  have joined : RelayFrame.decode? "\x7b\"event\":\"user_joined\"\x7d" = some .userJoined := by
    have scans : tokens? ("\x7b\"event\":\"user_joined\"\x7d".toList.map some) =
        some [.opening .object, .scalar (.string (some "event")), .colon,
          .scalar (.string (some "user_joined")), .closing .object] := by
      decide +kernel
    simp only [RelayFrame.decode?, RelayFrame.parse?, Document.parse?, Document.ofChars?, scans]
    rfl
  have bare : RelayFrame.decode? "\x7b\"event\":\"webrtc_offer\"\x7d" = none := by decide +kernel
  have offered : RelayFrame.decode? "[\"webrtc_offer\",\x7b\"sdp\":\"v=0\"\x7d]" =
      some (.webrtcOffer ⟨.object [("sdp", .string "v=0")]⟩) := by
    have scans : tokens? ("[\"webrtc_offer\",\x7b\"sdp\":\"v=0\"\x7d]".toList.map some) =
        some [.opening .array, .scalar (.string (some "webrtc_offer")), .comma,
          .opening .object, .scalar (.string (some "sdp")), .colon,
          .scalar (.string (some "v=0")), .closing .object, .closing .array] := by
      decide +kernel
    simp only [RelayFrame.decode?, RelayFrame.parse?, Document.parse?, Document.ofChars?, scans]
    rfl
  have frames : RelayMove.frames moves = ["no frame", "\x7b\"event\":\"user_joined\"\x7d",
      "\x7b\"event\":\"webrtc_offer\"\x7d", "[\"webrtc_offer\",\x7b\"sdp\":\"v=0\"\x7d]"] := rfl
  have closed : RelayMove.closedByRelay moves = true := rfl
  have first : parts.platform.sockets.length = 0 := rfl
  rw [first, frames] at dispatched received
  simp only [List.filterMap_cons, List.filterMap_nil, nothing, joined, bare, offered,
    closed] at dispatched
  refine ⟨start, connected, ?_, ?_⟩
  · rw [dispatched]
    rfl
  · rw [received]
    rfl

end Parts

end CallControl
