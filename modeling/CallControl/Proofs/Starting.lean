import CallControl.Proofs.HangUp
import CallControl.Proofs.Relayed

/-! # Starting a call

A call is started in stages: the relay is connected, the ICE configuration is fetched and the
peer connection is created (`StartStage`). The socket may report at once, and what the link to
the relay raises then waits for the call. As soon as one thing cannot be had what was set up is
undone, and nothing is left of it but a socket that nobody hears of (`Parts.Undone`). Whatever
happens meanwhile and later, a start is all or nothing (`start_all_or_nothing`). All this is
about a queue whose thread starts (`WorkQueue.start`).
-/

namespace CallControl

/-- Why a call to an address cannot be started: the first thing that cannot be had. -/
def Platform.startFailure? (platform : Platform) (url : String) : Option Failure :=
  if platform.refusesSockets then
    some (.call (.socketConnect (url ++ ": " ++ InjectedFault.socketConnect.message)))
  else
    match platform.iceConfiguration with
    | .error failure => some failure
    | .ok _ =>
        if platform.refusesConnections then
          some (.call (.createPeerConnection InjectedFault.createPeerConnection.message))
        else none

private theorem Platform.startFailure?_eq_none (platform : Platform) (url : String) :
    platform.startFailure? url = none ↔ platform.refusesSockets = false ∧
      (∃ configuration, platform.iceConfiguration = .ok configuration) ∧
      platform.refusesConnections = false := by
  unfold startFailure?
  cases platform.refusesSockets with
  | true => exact ⟨nofun, nofun⟩
  | false =>
      cases platform.iceConfiguration with
      | error failure => exact ⟨nofun, fun had => nomatch had.2.1⟩
      | ok configuration =>
          cases platform.refusesConnections with
          | true => exact ⟨nofun, nofun⟩
          | false => exact ⟨fun _ => ⟨rfl, ⟨configuration, rfl⟩, rfl⟩, fun _ => rfl⟩

/-- Nothing was made on a platform, and no observer of a call was told anything. -/
structure Platform.Unused (platform : Platform) : Prop where
  sockets : platform.sockets = []
  connections : platform.connections = []
  channels : platform.channels = []
  heeding : platform.hasUnheeding = false
  untold : platform.journal.filter Note.ofCall = []

/-- How far the start of a call has come. -/
inductive StartStage where
  | connecting
  | fetching
  | creating
  /-- What was set up is about to be undone. -/
  | givingUp (failure : Failure)

/-- The start of a call on the thread of its queue, which has started. -/
inductive Starting where
  /-- The links are being set up, and the items raised so far wait. -/
  | underWay (stage : StartStage) (parts : Parts) (waiting : List WorkItem)
  | finished (result : SessionStart)

/-- What can happen while a call is started and afterwards. -/
inductive StartMove where
  /-- The start goes on to its next stage. -/
  | proceed
  | event (occurrence : Occurrence)
  /-- A socket reports to the link, which may have told it to stop. -/
  | stray (socket : SocketId) (event : SocketEvent)
  /-- The loop of the queue takes a step, if there is one. -/
  | turn
  | wait (milliseconds : Nat)

/-- The start goes on in a move. -/
def StartMove.proceeds : StartMove → Bool
  | .proceed => true
  | _ => false

namespace Parts

/-- The links of a call before they are set up. -/
def unlinked (platform : Platform) (config : Config) : Parts :=
  ⟨platform, .unconnected, .make config.dataChannelLabel⟩

/-- The parts after a move that concerns them. -/
def hear (parts : Parts) : StartMove → Parts
  | .event occurrence => parts.undergo occurrence
  | .stray id event =>
      if id < parts.platform.sockets.length then (parts.relayHeard (.simulated id) event).recover
      else parts
  | .proceed | .turn | .wait _ => parts

end Parts

namespace Session

/-- A session over parts that were set up. The items that wait go before the timeout. -/
def overParts (config : Config) (line : String) (parts : Parts) (waiting : List WorkItem) :
    Session :=
  ⟨((WorkQueue.start (queueName line) (.ofParts parts line false)).dispatchAll waiting).enqueueAfter
    config.connectTimeoutMs.toNat .connectTimeout⟩

/-- A session after a move. -/
def goOn (session : Session) : StartMove → Session
  | .proceed => session
  | .event occurrence => session.step (.event occurrence)
  | .stray id event => session.occur (·.hear (.stray id event))
  | .turn => session.step .turn
  | .wait milliseconds => session.step (.wait milliseconds)

end Session

namespace Starting

/-- A start before its first stage. -/
def begin (platform : Platform) (config : Config) : Starting :=
  .underWay .connecting (.unlinked platform config) []

/-- What comes of a stage. -/
def proceed (config : Config) (line : String) (parts : Parts) (waiting : List WorkItem) :
    StartStage → Starting
  | .connecting =>
      match parts.connectRelay config line with
      | .error failure => .finished (.failed failure parts)
      | .ok connected => .underWay .fetching connected waiting
  | .fetching =>
      match parts.platform.iceConfiguration with
      | .error failure => .underWay (.givingUp failure) parts waiting
      | .ok _ => .underWay .creating parts waiting
  | .creating =>
      match parts.initPeer with
      | (.error failure, tried) => .underWay (.givingUp failure) tried waiting
      | (.ok (), ready) => .finished (.running (.overParts config line ready waiting))
  | .givingUp failure => .finished (.failed failure parts.cleanUpRelay.cleanUpPeer)

/-- A start after a move. -/
def step (config : Config) (line : String) : Starting → StartMove → Starting
  | .underWay stage parts waiting, .proceed => proceed config line parts waiting stage
  | .underWay stage parts waiting, move =>
      let after := parts.hear move
      .underWay stage after
        (waiting ++ after.platform.dispatched.drop parts.platform.dispatched.length)
  | .finished (.failed failure parts), move => .finished (.failed failure (parts.hear move))
  | .finished (.running session), move => .finished (.running (session.goOn move))

/-- A start after some moves. -/
def run (config : Config) (line : String) (starting : Starting) (moves : List StartMove) :
    Starting :=
  moves.foldl (step config line) starting

/-- The task that runs in a move, with what it leaves. -/
def performs? :
    Starting → StartMove → Option (QueueTask CallTask × Turn (QueueTask CallTask) (QueueState Call))
  | .finished (.running session), .turn => session.performs? (.goesOn .turn)
  | _, _ => none

/-- The tasks that run in some moves, with what they leave. -/
def performed (config : Config) (line : String) :
    Starting → List StartMove →
      List (QueueTask CallTask × Turn (QueueTask CallTask) (QueueState Call))
  | _, [] => []
  | starting, move :: moves =>
      (starting.performs? move).toList ++
        performed config line (starting.step config line move) moves

/-- How many stages are left at most. -/
def remaining : Starting → Nat
  | .underWay .connecting _ _ => 4
  | .underWay .fetching _ _ => 3
  | .underWay .creating _ _ => 2
  | .underWay (.givingUp _) _ _ => 1
  | .finished _ => 0

private theorem run_append (config : Config) (line : String) (starting : Starting)
    (earlier later : List StartMove) :
    starting.run config line (earlier ++ later) =
      (starting.run config line earlier).run config line later :=
  List.foldl_append

end Starting

/-! ## The stages -/

namespace Parts

variable {parts : Parts}

/-- Without a peer connection, and once there is a socket, setting up the link to the peer fails
exactly as the start does. -/
theorem initPeer_fst (absent : parts.peer.connection = none)
    (accepts : parts.platform.refusesSockets = false) (url : String) :
    parts.initPeer.1 = (parts.platform.startFailure? url).elim (.ok ()) .error := by
  unfold initPeer Platform.startFailure? Platform.createConnection
  rw [absent, if_neg (Bool.eq_false_iff.mp accepts)]
  cases parts.platform.iceConfiguration with
  | error failure => rfl
  | ok configuration => cases parts.platform.refusesConnections <;> rfl

/-- A link that cannot be set up stays as it is. -/
theorem initPeer_of_error {failure : Failure} (fails : parts.initPeer.1 = .error failure) :
    parts.initPeer = (.error failure, parts) := by
  rcases parts.initPeer_cases with ⟨result, same, _⟩ | ⟨configuration, _, same⟩
  · rw [same] at fails ⊢
    exact congrArg (·, parts) fails
  · rw [same] at fails
    cases fails

/-- A link to the relay is connected over a new socket, unless no socket can be had. -/
theorem connectRelay_cases (parts : Parts) (config : Config) (line : String) :
    parts.platform.refusesSockets = true ∧
      parts.connectRelay config line = .error (.call (.socketConnect
        (config.lineUrl line ++ ": " ++ InjectedFault.socketConnect.message))) ∨
    parts.platform.refusesSockets = false ∧
      parts.connectRelay config line = .ok { parts with
        platform := { parts.platform with
          sockets := parts.platform.sockets ++ [.make (config.lineUrl line) .link] }
        relay := ⟨.simulated parts.platform.sockets.length, false, 0⟩ } := by
  by_cases refuses : parts.platform.refusesSockets = true
  · refine Or.inl ⟨refuses, ?_⟩
    simp only [connectRelay, Platform.connectSocket, if_pos refuses]
    rfl
  · refine Or.inr ⟨Bool.eq_false_iff.mpr refuses, ?_⟩
    simp only [connectRelay, Platform.connectSocket, if_neg refuses]

private theorem peer_of_connectRelay {config : Config} {line : String} {connected : Parts}
    (connects : parts.connectRelay config line = .ok connected) : connected.peer = parts.peer := by
  rcases parts.connectRelay_cases config line with ⟨_, same⟩ | ⟨_, same⟩
  · cases same.symm.trans connects
  · cases same.symm.trans connects
    rfl

/-! ## What is heard meanwhile -/

/-- There is no peer connection and no channel, nobody was told anything, and what can be had
is what could be had from a platform. -/
structure Untried (parts : Parts) (platform : Platform) : Prop where
  connections : parts.platform.connections = []
  channels : parts.platform.channels = []
  absent : parts.peer.connection = none
  untold : parts.told = []
  refuses : parts.platform.refusesSockets = platform.refusesSockets
  failure : ∀ url, parts.platform.startFailure? url = platform.startFailure? url

/-- What a move is to parts of which at most the relay's side was set up. -/
inductive Signals (parts : Parts) : Parts → Prop where
  | nothing : Signals parts parts
  | recovers : Signals parts parts.recover
  | socket (id : SocketId) (event : SocketEvent) :
      Signals parts (parts.socketEmits id event).recover
  | stray (id : SocketId) (event : SocketEvent) :
      Signals parts (parts.relayHeard (.simulated id) event).recover

namespace Untried

variable {platform : Platform}

private theorem unlinked (unused : platform.Unused) (config : Config) :
    (Parts.unlinked platform config).Untried platform :=
  ⟨unused.connections, unused.channels, rfl, unused.untold, rfl, fun _ => rfl⟩

private theorem of_relay (untried : parts.Untried platform) {after : Parts}
    (besides : after.besidesRelay = parts.besidesRelay) (told : after.told = parts.told) :
    after.Untried platform where
  connections :=
    (congrArg (fun rest : Parts => rest.platform.connections) besides :).trans untried.connections
  channels :=
    (congrArg (fun rest : Parts => rest.platform.channels) besides :).trans untried.channels
  absent := (congrArg (fun rest : Parts => rest.peer.connection) besides :).trans untried.absent
  untold := told.trans untried.untold
  refuses :=
    (congrArg (fun rest : Parts => rest.platform.refusesSockets) besides :).trans untried.refuses
  failure := fun url =>
    (congrArg (fun rest : Parts => rest.platform.startFailure? url) besides :).trans
      (untried.failure url)

private theorem of_signals (untried : parts.Untried platform) {after : Parts}
    (signals : parts.Signals after) : after.Untried platform := by
  cases signals with
  | nothing => exact untried
  | recovers => exact untried.of_relay rfl rfl
  | socket id event =>
      exact untried.of_relay (besidesRelay_socketEmits parts id event)
        (told_socketEmits parts id event)
  | stray id event =>
      exact untried.of_relay (besidesRelay_relayHeard parts _ event)
        (told_relayHeard parts _ event)

private theorem signals (untried : parts.Untried platform)
    (heeding : parts.platform.hasUnheeding = false) (move : StartMove) :
    parts.Signals (parts.hear move) := by
  -- There is no peer connection and no channel that could report anything.
  have noChannel (id : ChannelId) : parts.platform.channels[id]? = none := by
    rw [untried.channels]
    exact List.getElem?_nil
  cases move with
  | proceed => exact .nothing
  | turn => exact .nothing
  | wait milliseconds => exact .nothing
  | stray id event =>
      simp only [hear]
      split
      · exact .stray id event
      · exact .nothing
  | event occurrence =>
      cases occurrence with
      | socket id event => exact .socket id event
      | unheeding event =>
          simp only [hear, undergo, heeding]
          exact .nothing
      | connection id event =>
          have silent : parts.connectionEmits id event = parts := by
            unfold connectionEmits
            rw [untried.connections, List.getElem?_nil]
          simp only [hear, undergo, occur, silent]
          exact .recovers
      | channelOpened id =>
          have silent : parts.openChannelNow id = parts := by
            unfold openChannelNow channelEmits
            rw [modifyChannel_of_none (noChannel id), noChannel]
          simp only [hear, undergo, occur, silent]
          exact .recovers
      | channelMessage id text =>
          have silent : parts.channelEmits id (.message text) = parts := by
            unfold channelEmits
            rw [noChannel]
          simp only [hear, undergo, occur, silent]
          exact .recovers
      | channelClosed id =>
          have silent : parts.closeChannel id = parts := by
            unfold closeChannel
            rw [noChannel]
          simp only [hear, undergo, occur, silent]
          exact .recovers

end Untried

private theorem RelayHeld.of_signals (held : parts.RelayHeld) {after : Parts}
    (signals : parts.Signals after) : after.RelayHeld := by
  cases signals with
  | nothing => exact held
  | recovers => exact ⟨held.only, held.held, held.heeding⟩
  | socket id event =>
      have still := held.socketEmits id event
      exact ⟨still.only, still.held, still.heeding⟩
  | stray id event =>
      have still := held.relayHeard (.simulated id) event
      exact ⟨still.only, still.held, still.heeding⟩

/-- The relay is connected, and nothing else was set up. -/
structure Linked (parts : Parts) (platform : Platform) : Prop
    extends parts.Untried platform, parts.RelayHeld where
  accepts : parts.platform.refusesSockets = false

private theorem Linked.hear {platform : Platform} (linked : parts.Linked platform)
    (move : StartMove) :
    (parts.hear move).Linked platform := by
  have signals := linked.signals linked.heeding move
  have untried := linked.toUntried.of_signals signals
  refine ⟨untried, linked.toRelayHeld.of_signals signals, ?_⟩
  rw [untried.refuses, ← linked.refuses]
  exact linked.accepts

/-! ## What is left of a failed start -/

/-- The sockets that were opened are detached and closed, and the link to the relay lets
nothing through. -/
structure Undone (parts : Parts) (opened : Nat) : Prop where
  opened : parts.platform.sockets.length = opened
  spent : ∀ socket ∈ parts.platform.sockets, socket.Spent
  muted : parts.relay.muted = true
  heeding : parts.platform.hasUnheeding = false

namespace Undone

variable {opened : Nat}

private theorem of_gone (gone : parts.RelayGone) : parts.Undone 1 := by
  obtain ⟨⟨socket, single, spent⟩, _, muted, heeding⟩ := gone
  refine ⟨congrArg List.length single, fun other member => ?_, muted, heeding⟩
  rw [single] at member
  cases List.mem_singleton.mp member
  exact spent

private theorem modifySocket (undone : parts.Undone opened) (id : SocketId)
    {change : RelaySocket → RelaySocket}
    (kept : ∀ socket : RelaySocket, socket.Spent → (change socket).Spent) :
    (parts.modifySocket id change).Undone opened := by
  refine ⟨(List.length_modify ..).trans undone.opened, fun socket member => ?_, undone.muted,
    undone.heeding⟩
  obtain ⟨position, found⟩ := List.mem_iff_getElem?.mp member
  simp only [Parts.modifySocket, Platform.modifySocket, List.getElem?_modify] at found
  obtain ⟨earlier, there, same⟩ := Option.map_eq_some_iff.mp found
  have spent := undone.spent earlier (List.mem_of_getElem? there)
  rw [← same]
  split
  · exact kept earlier spent
  · exact spent

/-- A socket that is closed takes nothing. -/
theorem sendOnSocket (undone : parts.Undone opened) (socket : HeldSocket) (text : String) :
    (parts.sendOnSocket socket text).Undone opened := by
  unfold Parts.sendOnSocket
  split
  · refine undone.modifySocket _ fun held spent => ?_
    unfold RelaySocket.send
    rw [spent.closed]
    exact spent
  · exact undone

private theorem socketEmits_eq (undone : parts.Undone opened) (id : SocketId)
    (event : SocketEvent) :
    parts.socketEmits id event = parts.modifySocket id (·.after event) :=
  socketEmits_of_unobserved
    (fun socket found => (undone.spent socket (List.mem_of_getElem? found)).unobserved) event

/-- The link raises nothing, whatever a socket reports to it. -/
theorem relayHeard (undone : parts.Undone opened) (socket : HeldSocket) (event : SocketEvent) :
    (parts.relayHeard socket event).Undone opened ∧
      (parts.relayHeard socket event).platform.dispatched = parts.platform.dispatched := by
  have muted {current : Parts} (silent : current.relay.muted = true) (item : WorkItem) :
      current.raiseFromRelay item = current := if_pos silent
  cases event with
  | opened =>
      simp only [Parts.relayHeard, relayOpened, fetchToken, greet]
      split
      · refine ⟨sendOnSocket ?_ socket _, congrArg Voice.dispatched (voice_sendOnSocket _ socket _)⟩
        exact ⟨undone.opened, undone.spent, undone.muted, undone.heeding⟩
      · exact ⟨⟨undone.opened, undone.spent, undone.muted, undone.heeding⟩, rfl⟩
      · exact ⟨⟨undone.opened, undone.spent, undone.muted, undone.heeding⟩, rfl⟩
  | message text =>
      have counted : ({ parts with
          relay := { parts.relay with received := parts.relay.received + 1 } } :
            Parts).Undone opened :=
        ⟨undone.opened, undone.spent, undone.muted, undone.heeding⟩
      simp only [Parts.relayHeard, relayDelivered]
      split
      · rw [muted counted.muted]
        exact ⟨counted, rfl⟩
      · exact ⟨counted, rfl⟩
  | closed code reason =>
      simp only [Parts.relayHeard]
      rw [muted undone.muted]
      exact ⟨undone, rfl⟩
  | error text => exact ⟨undone, rfl⟩

private theorem of_signals (undone : parts.Undone opened) {after : Parts}
    (signals : parts.Signals after) :
    after.Undone opened ∧ after.platform.dispatched = parts.platform.dispatched := by
  have recovers {current : Parts} (still : current.Undone opened) : current.recover.Undone opened :=
    ⟨still.opened, still.spent, still.muted, still.heeding⟩
  cases signals with
  | nothing => exact ⟨undone, rfl⟩
  | recovers => exact ⟨recovers undone, rfl⟩
  | socket id event =>
      rw [undone.socketEmits_eq]
      exact ⟨recovers (undone.modifySocket id fun _ spent => spent.after event), rfl⟩
  | stray id event =>
      obtain ⟨still, same⟩ := undone.relayHeard (.simulated id) event
      exact ⟨recovers still, same⟩

end Undone

end Parts

namespace Starting

variable {config : Config} {line : String}

/-- What comes of a start over a connected relay when nothing else happens. -/
theorem run_fetching {parts : Parts} (absent : parts.peer.connection = none)
    (waiting : List WorkItem) :
    (underWay .fetching parts waiting).run config line (List.replicate 3 .proceed) =
      .finished (match parts.initPeer with
        | (.error failure, tried) => .failed failure tried.cleanUpRelay.cleanUpPeer
        | (.ok (), ready) => .running (.overParts config line ready waiting)) := by
  have stages : (underWay .fetching parts waiting).run config line (List.replicate 3 .proceed) =
      ((proceed config line parts waiting .fetching).step config line .proceed).step config line
        .proceed := rfl
  rw [stages]
  cases fetched : parts.platform.iceConfiguration with
  | error failure =>
      have fails : parts.initPeer = (.error failure, parts) := by
        unfold Parts.initPeer
        rw [absent, fetched]
        rfl
      simp only [proceed, fetched, fails]
      rfl
  | ok configuration =>
      simp only [proceed, fetched, step]
      rcases parts.initPeer with ⟨outcome, tried⟩
      cases outcome with
      | error failure => rfl
      | ok done => rfl

/-- When nothing else happens a start comes to what starting a session at once comes to. -/
theorem run_proceed (platform : Platform) (config : Config) (line : String) :
    (begin platform config).run config line (List.replicate 4 .proceed) =
      .finished (Session.start platform config line) := by
  have stages : (begin platform config).run config line (List.replicate 4 .proceed) =
      (proceed config line (.unlinked platform config) [] .connecting).run config line
        (List.replicate 3 .proceed) := rfl
  have atOnce : Parts.setUp platform config line false true =
      match (Parts.unlinked platform config).connectRelay config line with
      | .error failure => (.error failure, .unlinked platform config)
      | .ok connected =>
          match connected.initPeer with
          | (.error failure, tried) => (.error failure, tried.cleanUpRelay.cleanUpPeer)
          | (.ok (), ready) => (.ok ready, ready) := rfl
  rw [stages, Session.start, atOnce]
  cases connects : (Parts.unlinked platform config).connectRelay config line with
  | error failure =>
      simp only [proceed, connects]
      rfl
  | ok connected =>
      have absent : connected.peer.connection = none :=
        congrArg PeerLink.connection (Parts.peer_of_connectRelay connects)
      simp only [proceed, connects]
      rw [run_fetching absent]
      rcases connected.initPeer with ⟨outcome, tried⟩
      cases outcome with
      | error failure => rfl
      | ok done => rfl

/-! ## Every start -/

/-- What a start has come to is what can come of it. -/
inductive Accords (platform : Platform) (url : String) : Starting → Prop where
  | connecting {parts : Parts} {waiting : List WorkItem} (untried : parts.Untried platform)
      (undone : parts.Undone 0) : Accords platform url (.underWay .connecting parts waiting)
  | fetching {parts : Parts} {waiting : List WorkItem} (linked : parts.Linked platform) :
      Accords platform url (.underWay .fetching parts waiting)
  | creating {parts : Parts} {waiting : List WorkItem} (linked : parts.Linked platform) :
      Accords platform url (.underWay .creating parts waiting)
  | givingUp {parts : Parts} {waiting : List WorkItem} {failure : Failure}
      (linked : parts.Linked platform) (fails : platform.startFailure? url = some failure) :
      Accords platform url (.underWay (.givingUp failure) parts waiting)
  | failed {parts : Parts} {failure : Failure} (untried : parts.Untried platform)
      (undone : parts.Undone (if platform.refusesSockets then 0 else 1))
      (fails : platform.startFailure? url = some failure) :
      Accords platform url (.finished (.failed failure parts))
  | running {session : Session} (had : platform.startFailure? url = none) :
      Accords platform url (.finished (.running session))

private theorem accords_begin {platform : Platform} (unused : platform.Unused) (config : Config)
    (url : String) : (begin platform config).Accords platform url := by
  refine .connecting (.unlinked unused config) ⟨?_, fun socket member => ?_, rfl, unused.heeding⟩
  · exact congrArg List.length unused.sockets
  · have none : socket ∈ ([] : List RelaySocket) := unused.sockets ▸ member
    cases none

/-- A move other than going on leaves a start at its stage. -/
theorem step_underWay (config : Config) (line : String) (move : StartMove) :
    move = .proceed ∨ ∀ stage parts waiting, ∃ more,
      (underWay stage parts waiting).step config line move =
        .underWay stage (parts.hear move) more := by
  cases move with
  | proceed => exact Or.inl rfl
  | _ => exact Or.inr fun _ _ _ => ⟨_, rfl⟩

namespace Accords

variable {platform : Platform}

private theorem connect {parts : Parts} (untried : parts.Untried platform) (undone : parts.Undone 0)
    (waiting : List WorkItem) :
    (proceed config line parts waiting .connecting).Accords platform (config.lineUrl line) := by
  have none : parts.platform.sockets = [] := List.length_eq_zero_iff.mp undone.opened
  rcases parts.connectRelay_cases config line with ⟨refuses, same⟩ | ⟨accepts, same⟩
  · have refused := untried.refuses.symm.trans refuses
    simp only [proceed, same]
    refine .failed untried ?_ (if_pos refused)
    rw [if_pos refused]
    exact undone
  · simp only [proceed, same, none]
    exact .fetching ⟨untried.of_relay rfl rfl, ⟨rfl, rfl, undone.heeding⟩, accepts⟩

private theorem fetch {parts : Parts} (linked : parts.Linked platform) (waiting : List WorkItem) :
    (proceed config line parts waiting .fetching).Accords platform (config.lineUrl line) := by
  have failure := linked.failure (config.lineUrl line)
  unfold Platform.startFailure? at failure
  rw [if_neg (Bool.eq_false_iff.mp linked.accepts)] at failure
  simp only [proceed]
  cases fetched : parts.platform.iceConfiguration with
  | error cause =>
      rw [fetched] at failure
      exact .givingUp linked failure.symm
  | ok configuration => exact .creating linked

private theorem create {parts : Parts} (linked : parts.Linked platform) (waiting : List WorkItem) :
    (proceed config line parts waiting .creating).Accords platform (config.lineUrl line) := by
  have outcome := Parts.initPeer_fst linked.absent linked.accepts (config.lineUrl line)
  rw [linked.failure] at outcome
  cases fails : platform.startFailure? (config.lineUrl line) with
  | some failure =>
      rw [fails] at outcome
      simp only [proceed, Parts.initPeer_of_error outcome]
      exact .givingUp linked fails
  | none =>
      rw [fails] at outcome
      have ready : parts.initPeer = (.ok (), parts.initPeer.2) :=
        congrArg (·, parts.initPeer.2) outcome
      simp only [proceed]
      rw [ready]
      exact .running fails

private theorem giveUp {parts : Parts} {failure : Failure} (linked : parts.Linked platform)
    (fails : platform.startFailure? (config.lineUrl line) = some failure)
    (waiting : List WorkItem) :
    (proceed config line parts waiting (.givingUp failure)).Accords platform
      (config.lineUrl line) := by
  have released := linked.of_relay (Parts.besidesRelay_cleanUpRelay parts)
    (Parts.told_cleanUpRelay parts)
  have undone := Parts.Undone.of_gone linked.toRelayHeld.cleanUpRelay
  have accepted : platform.refusesSockets = false := linked.refuses.symm.trans linked.accepts
  simp only [proceed]
  rw [Parts.cleanUpPeer_of_none released.absent]
  refine .failed (released.of_relay rfl rfl) ?_ fails
  rw [if_neg (Bool.eq_false_iff.mp accepted)]
  exact ⟨undone.opened, undone.spent, undone.muted, undone.heeding⟩

private theorem step {starting : Starting}
    (accords : starting.Accords platform (config.lineUrl line)) (move : StartMove) :
    (starting.step config line move).Accords platform (config.lineUrl line) := by
  rcases step_underWay config line move with rfl | stays
  · cases accords with
    | connecting untried undone => exact connect untried undone _
    | fetching linked => exact fetch linked _
    | creating linked => exact create linked _
    | @givingUp parts waiting failure linked fails => exact giveUp linked fails waiting
    | failed untried undone fails => exact .failed untried undone fails
    | running had => exact .running had
  · -- The stage stays, so only what the parts hear matters.
    cases accords with
    | @connecting parts waiting untried undone =>
        obtain ⟨more, same⟩ := stays .connecting parts waiting
        have signals := untried.signals undone.heeding move
        rw [same]
        exact .connecting (untried.of_signals signals) (undone.of_signals signals).1
    | @fetching parts waiting linked =>
        obtain ⟨more, same⟩ := stays .fetching parts waiting
        rw [same]
        exact .fetching (linked.hear move)
    | @creating parts waiting linked =>
        obtain ⟨more, same⟩ := stays .creating parts waiting
        rw [same]
        exact .creating (linked.hear move)
    | @givingUp parts waiting failure linked fails =>
        obtain ⟨more, same⟩ := stays (.givingUp failure) parts waiting
        rw [same]
        exact .givingUp (linked.hear move) fails
    | failed untried undone fails =>
        have signals := untried.signals undone.heeding move
        exact .failed (untried.of_signals signals) (undone.of_signals signals).1 fails
    | running had => exact .running had

private theorem run {starting : Starting}
    (accords : starting.Accords platform (config.lineUrl line)) (moves : List StartMove) :
    (starting.run config line moves).Accords platform (config.lineUrl line) := by
  unfold Starting.run
  induction moves generalizing starting with
  | nil => exact accords
  | cons move rest ih => exact ih (accords.step move)

/-- A start that failed stays so, and nothing is dispatched any more. -/
theorem run_failed {parts : Parts} {failure : Failure}
    (accords : (finished (.failed failure parts)).Accords platform (config.lineUrl line))
    (later : List StartMove) :
    ∃ after,
      (finished (.failed failure parts)).run config line later = .finished (.failed failure after) ∧
      after.platform.dispatched = parts.platform.dispatched := by
  unfold Starting.run
  induction later generalizing parts with
  | nil => exact ⟨parts, rfl, rfl⟩
  | cons move rest ih =>
      have next := accords.step move
      cases accords with
      | failed untried undone fails =>
          have quiet := (undone.of_signals (untried.signals undone.heeding move)).2
          obtain ⟨after, same, unsaid⟩ := ih next
          exact ⟨after, same, unsaid.trans quiet⟩

end Accords

/-- A session that was started goes on. -/
theorem run_running (config : Config) (line : String) (session : Session)
    (moves : List StartMove) :
    ∃ after, (finished (.running session)).run config line moves = .finished (.running after) := by
  unfold run
  induction moves generalizing session with
  | nil => exact ⟨session, rfl⟩
  | cons move rest ih => exact ih (session.goOn move)

/-- Before a start fails no task runs. -/
theorem performed_of_failed {starting : Starting} {moves : List StartMove} {failure : Failure}
    {parts : Parts} (failed : starting.run config line moves = .finished (.failed failure parts)) :
    starting.performed config line moves = [] := by
  induction moves generalizing starting with
  | nil => rfl
  | cons move rest ih =>
      unfold performed
      rw [ih failed, List.append_nil, Option.toList_eq_nil_iff]
      match starting with
      | .underWay .. => rfl
      | .finished (.failed ..) => rfl
      | .finished (.running session) =>
          -- A session that runs never becomes a start that failed.
          obtain ⟨after, running⟩ := run_running config line session (move :: rest)
          cases running.symm.trans failed

/-- Each stage brings the start nearer to its end. -/
theorem remaining_proceed (config : Config) (line : String) (stage : StartStage) (parts : Parts)
    (waiting : List WorkItem) :
    (proceed config line parts waiting stage).remaining <
      (underWay stage parts waiting).remaining := by
  cases stage with
  | connecting =>
      simp only [proceed]
      split <;> simp only [remaining] <;> omega
  | fetching =>
      simp only [proceed]
      split <;> simp only [remaining] <;> omega
  | creating =>
      simp only [proceed]
      split <;> simp only [remaining] <;> omega
  | givingUp failure => exact Nat.zero_lt_one

private theorem remaining_step (config : Config) (line : String) (starting : Starting)
    (move : StartMove) :
    (starting.step config line move).remaining ≤
      starting.remaining - (if move.proceeds then 1 else 0) := by
  cases starting with
  | finished result => cases result <;> exact Nat.zero_le _
  | underWay stage parts waiting =>
      cases move with
      | proceed => exact Nat.le_sub_one_of_lt (remaining_proceed config line stage parts waiting)
      | _ => cases stage <;> exact Nat.le_refl _

private theorem remaining_run (config : Config) (line : String) (starting : Starting)
    (moves : List StartMove) :
    (starting.run config line moves).remaining ≤
      starting.remaining - moves.countP StartMove.proceeds := by
  unfold run
  induction moves generalizing starting with
  | nil => exact Nat.le_refl _
  | cons move rest ih =>
      have first := remaining_step config line starting move
      have others := ih (starting.step config line move)
      rw [List.countP_cons, List.foldl_cons]
      omega

private theorem finished_of_remaining {starting : Starting} (done : starting.remaining = 0) :
    ∃ result, starting = .finished result := by
  match starting, done with
  | .finished result, _ => exact ⟨result, rfl⟩
  | .underWay .connecting _ _, done => cases done
  | .underWay .fetching _ _, done => cases done
  | .underWay .creating _ _, done => cases done
  | .underWay (.givingUp _) _ _, done => cases done

end Starting

/-- A platform on which nothing has happened, with what comes of asking it for a socket, for
the ICE configuration and for a peer connection. -/
def Platform.unasked (localStream : MediaStream) (tokens : TokenScript) (refusesSockets : Bool)
    (iceConfiguration : Except Failure IceConfiguration) (refusesConnections : Bool) : Platform :=
  { Platform.make localStream tokens iceConfiguration with refusesSockets, refusesConnections }

/-- Whatever happens while a call is started and afterwards, a start whose queue has a thread
and that goes through its stages comes to an end: the session runs if the socket, the ICE
configuration and the peer connection can all be had, and otherwise the start fails for the
first of them that cannot. When nothing else happens in between, this is what starting a session
at once comes to. After a start that failed no peer connection was made, the socket is detached
and closed if there is one, the observer was told nothing, no task has run, and nothing that
happens later makes it another end or is dispatched. -/
theorem start_all_or_nothing (localStream : MediaStream) (tokens : TokenScript)
    (refusesSockets : Bool) (iceConfiguration : Except Failure IceConfiguration)
    (refusesConnections : Bool) (config : Config) (line : String) :
    let platform := Platform.unasked localStream tokens refusesSockets iceConfiguration
      refusesConnections
    let failure? := platform.startFailure? (config.lineUrl line)
    let begun := Starting.begin platform config
    (failure? = none ↔ refusesSockets = false ∧
      (∃ configuration, iceConfiguration = .ok configuration) ∧ refusesConnections = false) ∧
    begun.run config line (List.replicate 4 .proceed) =
      .finished (Session.start platform config line) ∧
    ∀ moves,
      (4 ≤ moves.countP StartMove.proceeds →
        ∃ result, begun.run config line moves = .finished result) ∧
      (∀ session, begun.run config line moves = .finished (.running session) → failure? = none) ∧
      ∀ failure parts, begun.run config line moves = .finished (.failed failure parts) →
        failure? = some failure ∧
        parts.platform.sockets.length = (if refusesSockets then 0 else 1) ∧
        (∀ socket ∈ parts.platform.sockets, socket.Spent) ∧
        parts.platform.connections = [] ∧
        parts.told = [] ∧
        begun.performed config line moves = [] ∧
        ∀ later, ∃ after,
          begun.run config line (moves ++ later) = .finished (.failed failure after) ∧
          after.platform.dispatched = parts.platform.dispatched := by
  intro platform failure? begun
  have unused : platform.Unused := ⟨rfl, rfl, rfl, rfl, rfl⟩
  have accords (moves : List StartMove) :
      (begun.run config line moves).Accords platform (config.lineUrl line) :=
    (Starting.accords_begin unused config (config.lineUrl line)).run moves
  refine ⟨platform.startFailure?_eq_none _, Starting.run_proceed platform config line,
    fun moves => ⟨fun enough => ?_, fun session running => ?_, fun failure parts failed => ?_⟩⟩
  · have left : (begun.run config line moves).remaining ≤ 4 - moves.countP StartMove.proceeds :=
      Starting.remaining_run config line begun moves
    exact Starting.finished_of_remaining (by omega)
  · have holds := accords moves
    rw [running] at holds
    cases holds with
    | running had => exact had
  · have holds := accords moves
    rw [failed] at holds
    cases holds with
    | failed untried undone fails =>
        refine ⟨fails, undone.opened, undone.spent, untried.connections, untried.untold,
          Starting.performed_of_failed failed, fun later => ?_⟩
        rw [Starting.run_append, failed]
        exact Starting.Accords.run_failed (.failed untried undone fails) later

/-- The relay goes away before it turns out that there is no ICE configuration, and the socket
reports once more. -/
def tooLate : List StartMove :=
  [.proceed, .event (.socket 0 .opened), .event (.socket 0 (.closed none "gone")), .proceed,
    .proceed, .turn, .stray 0 (.closed none "gone")]

/-- What was raised before the start failed is all that is dispatched, and it is never taken up. -/
theorem start_all_or_nothing_tooLate :
    let platform := Platform.unasked ⟨"local", []⟩ (.ofAnswers []) false
      (.error (.injected .iceConfig)) false
    let begun := Starting.begin platform .standard
    ∃ parts, begun.run .standard "line" tooLate = .finished (.failed (.injected .iceConfig) parts) ∧
      (parts.platform.sockets.length = 1 ∧ ∀ socket ∈ parts.platform.sockets, socket.Spent) ∧
      parts.platform.dispatched = [.coordinator .closedSignaller] ∧
      begun.performed .standard "line" tooLate = [] := by
  intro platform begun
  refine ⟨_, rfl, ?_, rfl, rfl⟩
  obtain ⟨_, _, every⟩ := start_all_or_nothing ⟨"local", []⟩ (.ofAnswers []) false
    (.error (.injected .iceConfig)) false .standard "line"
  obtain ⟨_, opened, spent, _⟩ := (every tooLate).2.2 _ _ rfl
  exact ⟨opened, spent⟩

end CallControl
