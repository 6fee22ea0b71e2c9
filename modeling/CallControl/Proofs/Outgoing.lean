import CallControl.Proofs.Aftermath
import CallControl.Proofs.Grown
import CallControl.Proofs.QueuedCall
import CallControl.Proofs.Relayed

/-! # What goes out over the relay

Two things are sent on the socket of a call: the token when the socket opens, and every
signal that the call handles while it can be sent. The signals were raised before and
waited their turn. What each move sends, opens and cuts off is stated by
`Call.Transmits.move`, and what a queued call makes of it by `QueuedCall.Orderly.step`; how
the token and the signals follow one another is in `CallControl.Proofs.Opening`.
-/

namespace CallControl

/-- What is sent on a socket whose opening is heard: the token, if it can be fetched and the
socket takes it. -/
def RelaySocket.greeting (socket : RelaySocket) (tokens : TokenScript) : List String :=
  match tokens.outcome with
  | .ok token => if socket.takes then [token] else []
  | .error _ => []

/-- A move opens the socket of a call. -/
def CallMove.opens : CallMove → Bool
  | .event (.socket 0 .opened) => true
  | _ => false

private theorem CallMove.eq_of_opens {move : CallMove} (opens : move.opens = true) :
    move = .event (.socket 0 .opened) := by
  unfold CallMove.opens at opens
  split at opens
  · rfl
  · cases opens

namespace Call

open Parts

/-! ## This end of the relay -/

section

variable (call : Call)

/-- The socket that a call was set up over. -/
def socket? : Option RelaySocket := call.platform.sockets[0]?

/-- The socket with the tokens that its opening asks for. -/
def nearEnd : Option RelaySocket × TokenScript := (call.socket?, call.platform.tokens)

/-- The frames sent on the socket, oldest first. -/
def frames : List String := call.socket?.elim [] RelaySocket.sent

/-- The socket is open. -/
def opened : Bool := call.socket?.any RelaySocket.isOpen

/-- The socket was closed, or the link to the relay given up. -/
def cutOff : Bool := !call.holdsRelay || call.socket?.any RelaySocket.closed

/-- A signal that the call handles is sent: the link to the relay is held, its socket is
open, and sending on it does not fail. -/
def sends : Bool := call.holdsRelay && call.socket?.any RelaySocket.takes

/-- What is sent when the socket opens: the token, unless it cannot be fetched or sent. -/
def greeting : List String :=
  match call.platform.tokens.outcome with
  | .ok token =>
      if !call.cutOff && call.socket?.any fun socket => !socket.failsToSend then [token] else []
  | .error _ => []

/-- As long as the socket is there, the link to the relay is told of its events. -/
def Watched : Prop :=
  call.cutOff = false → ∃ socket, call.socket? = some socket ∧ socket.observer = some .link

/-- The texts that a move sends on the socket. -/
def texts : CallMove → List String
  | .item (.signal signal) => if call.sends then [signal.toText] else []
  | .event (.socket 0 .opened) => call.greeting
  | _ => []

end

/-- What a move does at this end of the relay: it sends some texts, and it may open the
socket and ask for a token; what was cut off remains so. -/
structure Transmits (before after : Call) (opens : Bool) (texts : List String) : Prop where
  frames : after.frames = before.frames ++ texts
  opened : after.opened = true → before.opened = true ∨ opens = true
  tokens : opens = false → after.platform.tokens = before.platform.tokens
  cutOff : before.cutOff = true → after.cutOff = true
  watched : after.Watched

namespace Transmits

variable {before after : Call}

/-- Work that leaves the socket alone and holds on to the link. -/
theorem of_socket_eq {opens : Bool} (watched : before.Watched)
    (socket : after.socket? = before.socket?) (holds : after.holdsRelay = before.holdsRelay)
    (tokens : opens = false → after.platform.tokens = before.platform.tokens) :
    Transmits before after opens [] where
  frames := by
    unfold Call.frames
    rw [socket, List.append_nil]
  opened := fun isOpen => by
    unfold Call.opened at isOpen
    rw [socket] at isOpen
    exact Or.inl isOpen
  tokens := tokens
  cutOff := fun lost => by
    unfold Call.cutOff at lost ⊢
    rwa [socket, holds]
  watched := fun whole => by
    unfold Call.cutOff at whole
    rw [socket, holds] at whole
    rw [socket]
    exact watched whole

/-- Work that leaves this end of the relay alone. -/
theorem of_same (watched : before.Watched) (same : after.nearEnd = before.nearEnd)
    (holds : after.holdsRelay = before.holdsRelay) : Transmits before after false [] :=
  .of_socket_eq watched (congrArg Prod.fst same) holds fun _ => congrArg Prod.snd same

/-- Work that leaves this end of the relay alone comes first. -/
theorem after_same {between : Call} {opens : Bool} {texts : List String}
    (transmits : Transmits between after opens texts)
    (same : between.nearEnd = before.nearEnd) (holds : between.holdsRelay = before.holdsRelay) :
    Transmits before after opens texts := by
  obtain ⟨frames, opened, tokens, cutOff, watched⟩ := transmits
  have socket : between.socket? = before.socket? := congrArg Prod.fst same
  unfold Call.frames Call.opened Call.cutOff at *
  rw [socket] at frames opened cutOff
  rw [holds] at cutOff
  exact ⟨frames, opened, fun closing => (tokens closing).trans (congrArg Prod.snd same), cutOff,
    watched⟩

/-- Work that changes the socket and holds on to the link. -/
theorem of_socket {socket changed : RelaySocket} {opens : Bool} {texts : List String}
    (watched : before.Watched) (found : before.socket? = some socket)
    (present : after.socket? = some changed) (holds : after.holdsRelay = before.holdsRelay)
    (sent : changed.sent = socket.sent ++ texts)
    (opened : changed.isOpen = true → socket.isOpen = true ∨ opens = true)
    (closed : socket.closed = true → changed.closed = true)
    (told : changed.closed = false → changed.observer = socket.observer)
    (tokens : opens = false → after.platform.tokens = before.platform.tokens) :
    Transmits before after opens texts where
  frames := by
    unfold Call.frames
    rw [found, present]
    exact sent
  opened := by
    unfold Call.opened
    rw [found, present]
    exact opened
  tokens := tokens
  cutOff := by
    unfold Call.cutOff
    rw [found, present, holds]
    simp only [Option.any_some, Bool.or_eq_true]
    exact Or.imp_right closed
  watched := fun whole => by
    unfold Call.cutOff at whole
    rw [present, holds, Option.any_some, Bool.or_eq_false_iff] at whole
    obtain ⟨held, working⟩ := whole
    have before : before.cutOff = false := by
      unfold Call.cutOff
      rw [found, held, Option.any_some, Bool.false_or]
      exact Bool.eq_false_iff.mpr fun already =>
        Bool.eq_false_iff.mp working (closed already)
    obtain ⟨same, isSame, link⟩ := watched before
    rw [found] at isSame
    cases isSame
    exact ⟨changed, present, (told working).trans link⟩

/-- Work that gives up the link. -/
theorem of_released (released : after.holdsRelay = false) (sent : after.frames = before.frames)
    (opened : after.opened = true → before.opened = true)
    (tokens : after.platform.tokens = before.platform.tokens) :
    Transmits before after false [] where
  frames := sent.trans (List.append_nil _).symm
  opened := fun isOpen => Or.inl (opened isOpen)
  tokens := fun _ => tokens
  cutOff := fun _ => by
    unfold Call.cutOff
    rw [released]
    rfl
  watched := fun whole => by
    unfold Call.cutOff at whole
    rw [released] at whole
    cases whole

end Transmits

variable {call : Call}

/-- A call that agrees with its links has one socket. -/
theorem exists_socket (coupled : call.toParts.Coupled call.holdsRelay) :
    ∃ socket, call.platform.sockets = [socket] ∧ call.socket? = some socket := by
  have single : ∃ socket, call.platform.sockets = [socket] := by
    cases holds : call.holdsRelay with
    | true => exact List.length_eq_one_iff.mp (coupled.held holds).only
    | false =>
        obtain ⟨socket, single, _⟩ := (coupled.gone holds).spent
        exact ⟨socket, single⟩
  obtain ⟨socket, single⟩ := single
  refine ⟨socket, single, ?_⟩
  unfold socket?
  rw [single]
  rfl

private theorem nearEnd_of_peer {before after : Call}
    (same : after.toParts.besidesPeer = before.toParts.besidesPeer) :
    after.nearEnd = before.nearEnd :=
  (congrArg (fun rest : Parts => (rest.platform.sockets[0]?, rest.platform.tokens)) same :)

/-- What happens to the link to the peer leaves the socket alone. -/
theorem socket?_of_peer {before after : Call}
    (same : after.toParts.besidesPeer = before.toParts.besidesPeer) :
    after.socket? = before.socket? :=
  congrArg Prod.fst (nearEnd_of_peer same)

/-- Only the peer's side changes, and what is told. -/
theorem Transmits.of_peer {after : Call} (watched : call.Watched)
    (same : after.toParts.besidesPeer = call.toParts.besidesPeer)
    (holds : after.holdsRelay = call.holdsRelay) : Transmits call after false [] :=
  .of_same watched (nearEnd_of_peer same) holds

/-- Giving up the link to the relay sends nothing, opens nothing and asks for no token. -/
theorem socket_releaseRelay (coupled : call.toParts.Coupled call.holdsRelay) :
    call.releaseRelay.frames = call.frames ∧
      (call.releaseRelay.opened = true → call.opened = true) ∧
      call.releaseRelay.platform.tokens = call.platform.tokens := by
  unfold releaseRelay
  split
  · rename_i holds
    obtain ⟨socket, _, found⟩ := exists_socket coupled
    have simulated := (coupled.held holds).held
    unfold frames opened
    simp only [socket?] at found ⊢
    simp only [cleanUpRelay, simulated, modifySocket, Platform.modifySocket,
      List.getElem?_modify_eq, found, Option.map_eq_map, Option.map_some, Option.elim_some,
      Option.any_some]
    split
    · exact ⟨rfl, id, trivial⟩
    · refine ⟨rfl, fun isOpen => ?_, trivial⟩
      cases isOpen
  · exact ⟨rfl, id, rfl⟩

private theorem Transmits.releaseRelay (coupled : call.toParts.Coupled call.holdsRelay) :
    Transmits call call.releaseRelay false [] :=
  have released : call.releaseRelay.holdsRelay = false :=
    congrArg Prod.snd call.standing_releaseRelay
  have ⟨sent, opened, tokens⟩ := socket_releaseRelay coupled
  .of_released released sent opened tokens

private theorem Transmits.endCall (sound : call.Sound) (running : call.lifecycle ≠ .ended) :
    Transmits call call.endCall false [] := by
  have nearEnd : call.endCall.nearEnd = call.releaseRelay.nearEnd := by
    have same : call.endCall.toParts.besidesPeer = call.releaseRelay.toParts.besidesPeer := by
      unfold Call.endCall
      rw [if_neg running]
      exact (besidesPeer_of_reports (besidesReports_setLifecycle _ _)).trans
        (besidesPeer_cleanUpPeer _)
    exact nearEnd_of_peer same
  have socket : call.endCall.socket? = call.releaseRelay.socket? := congrArg Prod.fst nearEnd
  have finished : call.endCall.holdsRelay = false :=
    congrArg Prod.snd (standing_endCall running)
  obtain ⟨sent, isOpen, tokens⟩ := socket_releaseRelay sound.coupled
  refine .of_released finished ?_ ?_ ((congrArg Prod.snd nearEnd).trans tokens)
  · unfold Call.frames at sent ⊢
    rw [socket]
    exact sent
  · unfold Call.opened at isOpen ⊢
    rw [socket]
    exact isOpen

private theorem Transmits.coordinate (sound : call.Sound) (watched : call.Watched)
    (running : call.lifecycle ≠ .ended) (item : CoordinatorItem) :
    Transmits call (call.coordinate item) false [] := by
  have flagged (before : Call) (flags : CallFlags) :
      (before.setFlags flags).toParts.besidesPeer = before.toParts.besidesPeer :=
    besidesPeer_of_reports (besidesReports_setFlags before flags)
  have holding (before : Call) (flags : CallFlags) :
      (before.setFlags flags).holdsRelay = before.holdsRelay :=
    congrArg Prod.snd (before.standing_setFlags flags)
  cases item with
  | peerConnected =>
      have shown := call.besidesReports_setLifecycle .connected
      have standing := call.standing_setLifecycle .connected
      exact (Transmits.releaseRelay
        (coupled_of_standing standing (sound.coupled.congr shown))).after_same
          (nearEnd_of_peer (besidesPeer_of_reports shown)) (congrArg Prod.snd standing)
  | closedSignaller =>
      simp only [Call.coordinate]
      split
      · exact .releaseRelay sound.coupled
      · exact .endCall sound running
  | peerConnectionEnded => exact .endCall sound running
  | peerStreamTrackUpdate =>
      refine .of_peer watched ((flagged _ _).trans ?_) ((holding _ _).trans ?_)
      · exact besidesPeer_of_reports (besidesReports_tell call _)
      · exact congrArg Prod.snd (call.standing_tell _)
  | peerMicTurnedOn => exact .of_peer watched (flagged _ _) (holding _ _)
  | peerMicTurnedOff => exact .of_peer watched (flagged _ _) (holding _ _)
  | peerVideoTurnedOn => exact .of_peer watched (flagged _ _) (holding _ _)
  | peerVideoTurnedOff => exact .of_peer watched (flagged _ _) (holding _ _)

private theorem Transmits.negotiate (watched : call.Watched) (item : PeerItem) :
    Transmits call (call.negotiate item) false [] := by
  simp only [Call.negotiate]
  split
  · refine .of_peer watched ((besidesPeer_processItem _ item).trans ?_)
      (congrArg Prod.snd (call.standing_setLifecycle .connecting))
    exact besidesPeer_of_reports (call.besidesReports_setLifecycle .connecting)
  · exact .of_peer watched (besidesPeer_processItem _ item) rfl

/-- A signal that is handled is sent if the link is held and its socket takes it. -/
theorem Transmits.signal (sound : call.Sound) (watched : call.Watched) (signal : Signal) :
    Transmits call (call.signal signal) false (call.texts (.item (.signal signal))) := by
  obtain ⟨socket, _, found⟩ := exists_socket sound.coupled
  unfold Call.signal
  split
  · rename_i holds
    have takes : call.sends = socket.takes := by
      unfold sends
      rw [holds, found, Option.any_some, Bool.true_and]
    have handed : ({ call with toParts := call.toParts.sendSignal signal } : Call).socket? =
        some (socket.accept signal.toText) := by
      simp only [socket?] at found ⊢
      simp only [sendSignal, (sound.coupled.held holds).held, sendOnSocket_simulated, modifySocket,
        Platform.modifySocket, List.getElem?_modify_eq, found, Option.map_eq_map, Option.map_some]
    simp only [Call.texts, takes]
    refine .of_socket watched found handed rfl (socket.sent_accept _) (fun isOpen => Or.inl ?_)
      (fun closed => (socket.closed_accept _).trans closed) (fun _ => socket.observer_accept _)
      fun _ => ?_
    · exact (socket.isOpen_accept _).symm.trans isOpen
    · simp only [sendSignal, (sound.coupled.held holds).held, sendOnSocket_simulated, modifySocket,
        Platform.modifySocket]
  · rename_i lost
    have quiet : call.sends = false := by
      unfold sends
      rw [Bool.eq_false_iff.mpr lost, Bool.false_and]
    simp only [Call.texts, quiet]
    exact .of_same watched rfl rfl

/-- Hearing that the socket opened sends the token if it can be fetched; hearing of anything
else leaves the socket alone and asks for no token. -/
theorem socket_relayHeard {parts : Parts} {socket : RelaySocket}
    (found : parts.platform.sockets[0]? = some socket) (event : SocketEvent) :
    ∃ changed, (parts.relayHeard (.simulated 0) event).platform.sockets[0]? = some changed ∧
      changed.sent = socket.sent ++ (match event with
        | .opened => socket.greeting parts.platform.tokens
        | _ => []) ∧
      changed.isOpen = socket.isOpen ∧ changed.closed = socket.closed ∧
      changed.observer = socket.observer ∧ changed.takes = socket.takes ∧
      (CallMove.opens (.event (.socket 0 event)) = false →
        (parts.relayHeard (.simulated 0) event).platform.tokens = parts.platform.tokens) := by
  have raised (current : Parts) (item : WorkItem) :
      (current.raiseFromRelay item).platform.sockets = current.platform.sockets :=
    (congrArg (fun rest : Parts => rest.platform.sockets)
      (besidesReports_raiseFromRelay current item) :)
  have kept (current : Parts) (item : WorkItem) :
      (current.raiseFromRelay item).platform.tokens = current.platform.tokens :=
    (congrArg (fun rest : Parts => rest.platform.tokens)
      (besidesReports_raiseFromRelay current item) :)
  have nothing : socket.sent = socket.sent ++ [] := (List.append_nil _).symm
  cases event with
  | opened =>
      simp only [relayHeard, relayOpened, fetchToken, greet, TokenScript.fetch,
        RelaySocket.greeting]
      cases outcome : parts.platform.tokens.outcome with
      | ok token =>
          refine ⟨socket.accept token, ?_, socket.sent_accept token, socket.isOpen_accept token,
            socket.closed_accept token, socket.observer_accept token, socket.takes_accept token,
            fun never => Bool.noConfusion never⟩
          simp only [sendOnSocket_simulated, modifySocket, Platform.modifySocket,
            List.getElem?_modify_eq, found, Option.map_eq_map, Option.map_some]
      | error failure =>
          cases failure <;> exact ⟨socket, found, nothing, rfl, rfl, rfl, rfl,
            fun never => Bool.noConfusion never⟩
  | message text =>
      simp only [relayHeard, relayDelivered]
      split
      · exact ⟨socket, (congrArg (·[0]?) (raised _ _)).trans found, nothing, rfl, rfl, rfl, rfl,
          fun _ => kept _ _⟩
      · exact ⟨socket, found, nothing, rfl, rfl, rfl, rfl, fun _ => rfl⟩
  | closed code reason =>
      exact ⟨socket, (congrArg (·[0]?) (raised _ _)).trans found, nothing, rfl, rfl, rfl, rfl,
        fun _ => kept _ _⟩
  | error text => exact ⟨socket, found, nothing, rfl, rfl, rfl, rfl, fun _ => rfl⟩

/-- A socket that the link to the relay is not told of any more gets no token. -/
theorem greeting_of_unobserved {socket : RelaySocket} (watched : call.Watched)
    (found : call.socket? = some socket) (unobserved : socket.observer ≠ some .link) :
    call.greeting = [] := by
  have lost : call.cutOff = true := by
    by_contra whole
    obtain ⟨same, isSame, link⟩ := watched (Bool.eq_false_iff.mpr whole)
    rw [found] at isSame
    cases isSame
    exact unobserved link
  unfold greeting
  rw [lost]
  split <;> rfl

/-- A socket that the link to the relay is told of gets the token if it takes it once it is
open. -/
theorem greeting_of_observed {socket : RelaySocket}
    (coupled : call.toParts.Coupled call.holdsRelay) (found : call.socket? = some socket)
    (link : socket.observer = some .link) :
    call.greeting = (socket.after .opened).greeting call.platform.tokens := by
  have holds : call.holdsRelay = true := by
    by_contra lost
    obtain ⟨spent, single, isSpent⟩ := (coupled.gone (Bool.eq_false_iff.mpr lost)).spent
    unfold socket? at found
    rw [single] at found
    cases found
    exact nomatch link.symm.trans isSpent.unobserved
  unfold greeting cutOff RelaySocket.greeting
  rw [found, holds]
  simp only [Option.any_some, Bool.not_true, Bool.false_or, RelaySocket.after, RelaySocket.takes,
    Bool.true_and]

/-- An event of the socket, after which some texts may have been sent on it. -/
theorem Transmits.of_after {after : Call} {socket changed : RelaySocket} {texts : List String}
    {event : SocketEvent} (watched : call.Watched) (found : call.socket? = some socket)
    (present : after.socket? = some changed) (holds : after.holdsRelay = call.holdsRelay)
    (sent : changed.sent = (socket.after event).sent ++ texts)
    (isOpen : changed.isOpen = (socket.after event).isOpen)
    (closed : changed.closed = (socket.after event).closed)
    (observer : changed.observer = (socket.after event).observer)
    (tokens : CallMove.opens (.event (.socket 0 event)) = false →
      after.platform.tokens = call.platform.tokens) :
    Transmits call after (CallMove.opens (.event (.socket 0 event))) texts := by
  refine .of_socket watched found present holds ?_ ?_ ?_ ?_ tokens
  · rw [sent]
    cases event <;> rfl
  · rw [isOpen]
    cases event with
    | opened => exact fun _ => Or.inr rfl
    | message text => exact Or.inl
    | closed code reason => exact nofun
    | error text => exact Or.inl
  · rw [closed]
    cases event with
    | closed code reason => exact fun _ => rfl
    | _ => exact id
  · rw [closed, observer]
    cases event with
    | closed code reason => exact nofun
    | _ => exact fun _ => rfl

/-- An event of the socket that is told to others only, or to nobody: no token is sent. -/
theorem Transmits.of_untold {after : Call} {socket : RelaySocket} {event : SocketEvent}
    (watched : call.Watched) (found : call.socket? = some socket)
    (unobserved : socket.observer ≠ some .link)
    (same : after.socket? = some (socket.after event))
    (holds : after.holdsRelay = call.holdsRelay)
    (tokens : after.platform.tokens = call.platform.tokens) :
    Transmits call after (CallMove.opens (.event (.socket 0 event)))
      (call.texts (.event (.socket 0 event))) := by
  refine .of_after watched found same holds ?_ rfl rfl rfl fun _ => tokens
  have greeting := greeting_of_unobserved watched found unobserved
  cases event with
  | opened => rw [texts, greeting]; exact (List.append_nil _).symm
  | _ => exact (List.append_nil _).symm

private theorem Transmits.socketEmits (sound : call.Sound) (watched : call.Watched) (id : SocketId)
    (event : SocketEvent) :
    Transmits call (call.withParts fun parts => (parts.socketEmits id event).recover)
      (CallMove.opens (.event (.socket id event))) (call.texts (.event (.socket id event))) := by
  obtain ⟨socket, single, found⟩ := exists_socket sound.coupled
  cases id with
  | succ id =>
      have nobody : call.platform.sockets[id + 1]? = none := by
        rw [single]
        rfl
      have unchanged : call.toParts.socketEmits (id + 1) event = call.toParts := by
        unfold Parts.socketEmits
        rw [nobody]
      simp only [withParts, unchanged]
      exact .of_same watched rfl rfl
  | zero =>
      simp only [withParts, Parts.socketEmits]
      have present : call.platform.sockets[0]? = some socket := found
      rw [present]
      dsimp only
      have changed : (call.toParts.modifySocket 0 (·.after event)).platform.sockets[0]? =
          some (socket.after event) := by
        simp only [modifySocket, Platform.modifySocket, List.getElem?_modify_eq, present,
          Option.map_eq_map, Option.map_some]
      cases observer : socket.observer with
      | none =>
          refine .of_untold watched found (fun link => ?_) changed rfl rfl
          cases observer.symm.trans link
      | some audience =>
          cases audience with
          | note =>
              refine .of_untold watched found (fun link => ?_) changed rfl rfl
              cases observer.symm.trans link
          | link =>
              obtain ⟨heard, told, sent, isOpen, closed, same, _, tokens⟩ :=
                socket_relayHeard changed event
              refine .of_after watched found told rfl (sent.trans ?_) isOpen closed same tokens
              have greeting := greeting_of_observed sound.coupled found observer
              cases event with
              | opened => rw [texts, greeting]; rfl
              | _ => rfl

private theorem Transmits.undergo (sound : call.Sound) (watched : call.Watched)
    (occurrence : Occurrence) :
    Transmits call (call.withParts (·.undergo occurrence)) (CallMove.opens (.event occurrence))
      (call.texts (.event occurrence)) := by
  have heeding : call.platform.hasUnheeding = false := by
    cases holds : call.holdsRelay with
    | true => exact (sound.coupled.held holds).heeding
    | false => exact (sound.coupled.gone holds).heeding
  cases occurrence with
  | socket id event => exact .socketEmits sound watched id event
  | unheeding event =>
      simp only [withParts, Parts.undergo, heeding, Bool.false_eq_true, ↓reduceIte]
      exact .of_same watched rfl rfl
  | connection id event =>
      exact .of_peer watched (besidesPeer_connectionEmits call.toParts id event) rfl
  | channelOpened id =>
      exact .of_peer watched
        (besidesPeer_congr (besidesChannels_openChannelNow call.toParts id)) rfl
  | channelMessage id text =>
      exact .of_peer watched
        (besidesPeer_congr (besidesChannels_channelEmits call.toParts id _)) rfl
  | channelClosed id =>
      exact .of_peer watched (besidesPeer_congr (besidesChannels_closeChannel call.toParts id)) rfl

/-- A change that nobody is told of may make sending fail or not. -/
theorem Transmits.adjust (sound : call.Sound) (watched : call.Watched) (adjustment : Adjustment) :
    Transmits call (call.withParts (·.adjust adjustment)) false [] := by
  obtain ⟨socket, single, found⟩ := exists_socket sound.coupled
  cases adjustment with
  | socketFails id fails =>
      cases id with
      | zero =>
          have changed : (call.withParts (·.adjust (.socketFails 0 fails))).socket? =
              some { socket with failsToSend := fails } := by
            unfold socket?
            simp only [withParts, Parts.adjust, Platform.adjust, Platform.modifySocket, single]
            rfl
          exact .of_socket watched found changed rfl (List.append_nil _).symm Or.inl id
            (fun _ => rfl)
            fun _ => rfl
      | succ id =>
          refine .of_same watched ?_ rfl
          unfold nearEnd socket?
          simp only [withParts, Parts.adjust, Platform.adjust, Platform.modifySocket, single]
          rfl
  | _ => exact .of_same watched rfl rfl

private theorem Transmits.switch (watched : call.Watched) (kind : MediaKind) (enabled : Bool)
    (flags : CallFlags) (event : ToggleEvent) :
    Transmits call
      { (call.setLocalEnabled kind enabled).setFlags flags with
        toParts := ((call.setLocalEnabled kind enabled).setFlags flags).toParts.sendEvent event }
      false [] := by
  have shown := besidesReports_setFlags (call.setLocalEnabled kind enabled) flags
  have sent := besidesChannels_sendEvent
    ((call.setLocalEnabled kind enabled).setFlags flags).toParts event
  have switched : (call.setLocalEnabled kind enabled).nearEnd = call.nearEnd := rfl
  have nearEnd {after : Call}
      (same : after.toParts.besidesPeer = (call.setLocalEnabled kind enabled).toParts.besidesPeer) :
      after.nearEnd = call.nearEnd :=
    (nearEnd_of_peer same).trans switched
  exact .of_same watched (nearEnd ((besidesPeer_congr sent).trans (besidesPeer_of_reports shown)))
    (congrArg Prod.snd (standing_setFlags (call.setLocalEnabled kind enabled) flags))

private theorem Transmits.runTask (sound : call.Sound) (watched : call.Watched)
    (running : call.lifecycle ≠ .ended) (task : CallTask) :
    Transmits call (call.runTask task) false [] := by
  cases task with
  | setMic enabled =>
      simp only [Call.runTask, setMic, if_neg running]
      exact .switch watched .audio enabled _ _
  | setVideo enabled =>
      simp only [Call.runTask, setVideo, if_neg running]
      exact .switch watched .video enabled _ _
  | connectTimeout =>
      simp only [Call.runTask, connectTimeout]
      split
      · exact .endCall sound running
      · exact .endCall sound running
      · exact .of_same watched rfl rfl
      · exact .of_same watched rfl rfl
  | endCall => exact .endCall sound running

private theorem Transmits.route (sound : call.Sound) (watched : call.Watched)
    (running : call.lifecycle ≠ .ended) (item : WorkItem) :
    Transmits call (call.route item) false (call.texts (.item item)) := by
  unfold Call.route
  rw [if_neg running]
  cases item with
  | signal signal => exact .signal sound watched signal
  | peer item => exact .negotiate watched item
  | coordinator item => exact .coordinate sound watched running item

/-- What a move of a call does at this end of the relay. -/
theorem Transmits.move (sound : call.Sound) (watched : call.Watched) (move : CallMove) :
    Transmits call (call.move move) move.opens (call.texts move) := by
  cases move with
  | event occurrence => exact .undergo sound watched occurrence
  | adjust adjustment => exact .adjust sound watched adjustment
  | item item =>
      have routed : Transmits call (call.route item) false (call.texts (.item item)) := by
        by_cases finished : call.lifecycle = .ended
        · have released : call.holdsRelay = false := by
            apply sound.past
            rw [finished]
            decide
          have quiet : call.sends = false := by
            unfold sends
            rw [released, Bool.false_and]
          rw [route_of_ended finished]
          cases item with
          | signal signal =>
              simp only [Call.texts, quiet]
              exact .of_same watched rfl rfl
          | _ => exact .of_same watched rfl rfl
        · exact .route sound watched finished item
      exact ⟨routed.frames, routed.opened, routed.tokens, routed.cutOff, routed.watched⟩
  | task task =>
      have done : Transmits call (call.runTask task) false [] := by
        by_cases finished : call.lifecycle = .ended
        · rw [runTask_of_ended finished]
          exact .of_same watched rfl rfl
        · exact .runTask sound watched finished task
      exact ⟨done.frames, done.opened, done.tokens, done.cutOff, done.watched⟩

/-- Nothing is sent after the socket was closed or the link given up. -/
theorem texts_of_cutOff (lost : call.cutOff = true) (move : CallMove) : call.texts move = [] := by
  have quiet : call.sends = false := by
    unfold sends
    unfold cutOff at lost
    cases holds : call.holdsRelay with
    | false => rfl
    | true =>
        rw [holds] at lost
        cases found : call.socket? with
        | none => rfl
        | some socket =>
            rw [found] at lost
            have closed : socket.closed = true := lost
            simp only [Option.any_some, RelaySocket.takes, closed, Bool.not_true, Bool.and_false,
              Bool.false_and]
  have greeting : call.greeting = [] := by
    unfold Call.greeting
    rw [lost]
    split <;> rfl
  unfold texts
  split
  · rw [quiet]
    rfl
  · exact greeting
  · rfl

/-- Nothing but the opening itself sends anything while the socket is not open. -/
theorem texts_of_unopened (unopened : call.opened = false) {move : CallMove}
    (closing : move.opens = false) : call.texts move = [] := by
  have quiet : call.sends = false := by
    unfold sends
    unfold opened at unopened
    cases found : call.socket? with
    | none => exact Bool.and_false _
    | some socket =>
        rw [found] at unopened
        have shut : socket.isOpen = false := unopened
        simp only [Option.any_some, RelaySocket.takes, shut, Bool.false_and, Bool.and_false]
  unfold texts
  split
  · rw [quiet]
    rfl
  · cases closing
  · rfl

/-- A call that was just set up has a new socket, and raised nothing. -/
theorem Begins.socket {start : Call} (begins : start.Begins) :
    ∃ url, start.socket? = some (.make url .link) ∧ start.platform.dispatched = [] := by
  obtain ⟨localStream, tokens, iceConfiguration, label, url, setUp⟩ := begins.parts
  refine ⟨url, ?_⟩
  unfold socket?
  rcases setUp with bare | complete
  · rw [bare]
    exact ⟨rfl, rfl⟩
  · rw [complete]
    exact ⟨(congrArg (fun rest : Parts => rest.platform.sockets[0]?) (besidesPeer_initPeer _) :),
      congrArg Voice.dispatched (voice_initPeer _)⟩

end Call

/-! ## A call and what waits for it -/

/-- The socket of a call is reported open. -/
def QueueMove.opening : QueueMove := .event (.socket 0 .opened)

namespace QueuedCall

/-- The item that a move handles, with whether a signal could be sent just then. -/
def handling (queued : QueuedCall) (move : QueueMove) : List (WorkItem × Bool) :=
  match queued.next? move with
  | some (.item item, _) => [(item, queued.call.sends)]
  | _ => []

/-- The text that is sent for an item: signals are, if that is possible. -/
def sentText? : WorkItem × Bool → Option String
  | (.signal signal, true) => some signal.toText
  | _ => none

/-- The texts that a move sends on the socket of the call. -/
def texts (queued : QueuedCall) (move : QueueMove) : List String :=
  match queued.next? move with
  | some (done, _) => queued.call.texts done
  | none => []

private theorem opening_of_next {queued : QueuedCall} {move : QueueMove} {done : CallMove}
    {rest : List WorkItem} (next : queued.next? move = some (done, rest))
    (opens : done.opens = true) : move = .opening := by
  rw [CallMove.eq_of_opens opens] at next
  rcases next_cases next with ⟨_, _, same, _⟩ | ⟨_, _, same, _⟩ | ⟨_, moved, same, _⟩ |
    ⟨_, _, same, _⟩
  · cases same
  · cases same
  · cases same
    exact moved
  · cases same

/-- Nothing is sent before the socket is open. -/
theorem texts_of_unopened {queued : QueuedCall} (unopened : queued.call.opened = false)
    {move : QueueMove} (other : move ≠ .opening) : queued.texts move = [] := by
  unfold texts
  split
  · rename_i done rest next
    exact Call.texts_of_unopened unopened
      (Bool.eq_false_iff.mpr fun opens => other (opening_of_next next opens))
  · rfl

/-- Nothing is sent after the socket was closed or the relay given up. -/
theorem texts_of_cutOff {queued : QueuedCall} (lost : queued.call.cutOff = true)
    (move : QueueMove) : queued.texts move = [] := by
  unfold texts
  split
  · exact Call.texts_of_cutOff lost _
  · rfl

/-- Apart from the opening, a move sends the signal that it handles. -/
theorem texts_of_handling (queued : QueuedCall) {move : QueueMove} (other : move ≠ .opening) :
    queued.texts move = (queued.handling move).filterMap sentText? := by
  cases move with
  | handle =>
      simp only [texts, handling, next?]
      cases queued.waiting with
      | nil => rfl
      | cons item rest =>
          dsimp only
          cases item with
          | signal signal =>
              simp only [Call.texts]
              cases queued.call.sends <;> rfl
          | _ => rfl
  | task task => rfl
  | adjust adjustment => rfl
  | event occurrence =>
      cases occurrence with
      | socket id event =>
          cases id with
          | succ id => rfl
          | zero =>
              cases event with
              | opened => exact (other rfl).elim
              | _ => rfl
      | _ => rfl

/-- What holds of a queued call in the course of a run: it agrees with its links, the
socket is watched, and what waits is what was raised but for what is past. -/
structure Orderly (queued : QueuedCall) (past : List WorkItem) : Prop where
  sound : queued.call.Sound
  watched : queued.call.Watched
  ordered : past ++ queued.waiting = queued.call.platform.dispatched

/-- One move: what it handles is past, and what it sends follows what was sent. -/
theorem Orderly.step {queued : QueuedCall} {past : List WorkItem} (orderly : queued.Orderly past)
    (move : QueueMove) :
    (queued.step move).Orderly (past ++ (queued.handling move).map Prod.fst) ∧
      (queued.step move).call.frames = queued.call.frames ++ queued.texts move ∧
      ((queued.step move).call.opened = true → queued.call.opened = true ∨ move = .opening) ∧
      (move ≠ .opening →
        (queued.step move).call.platform.tokens = queued.call.platform.tokens) ∧
      (queued.call.cutOff = true → (queued.step move).call.cutOff = true) := by
  cases next : queued.next? move with
  | none =>
      have still : queued.step move = queued := by
        unfold QueuedCall.step
        rw [next]
      simp only [handling, texts, next, still, List.map_nil, List.append_nil, true_and]
      exact ⟨orderly, Or.inl, fun _ => trivial, id⟩
  | some pair =>
      obtain ⟨done, rest⟩ := pair
      obtain ⟨items, raised⟩ := queued.call.grows_move done
      have transmits := Call.Transmits.move orderly.sound orderly.watched done
      have since : queued.call.raisedSince (queued.call.move done) = items := by
        unfold Call.raisedSince
        rw [← raised, List.drop_left]
      rw [step_of_next next, since]
      have taken : (queued.handling move).map Prod.fst ++ rest = queued.waiting := by
        unfold handling
        rw [next]
        rcases next_cases next with ⟨item, _, rfl, waiting⟩ | ⟨_, _, rfl, waiting⟩ |
          ⟨_, _, rfl, waiting⟩ | ⟨_, _, rfl, waiting⟩
        all_goals exact waiting.symm
      -- What is handled was the first that waited, and what is raised waits last, so past and
      -- waiting items together remain what was raised.
      refine ⟨⟨orderly.sound.move done, transmits.watched, ?_⟩, ?_, ?_, ?_, transmits.cutOff⟩
      · rw [← raised, ← orderly.ordered, ← taken]
        simp only [List.append_assoc]
      · unfold texts
        rw [next]
        exact transmits.frames
      · exact fun isOpen => (transmits.opened isOpen).imp_right (opening_of_next next)
      · exact fun other => transmits.tokens
          (Bool.eq_false_iff.mpr fun opens => other (opening_of_next next opens))

end QueuedCall

/-- A call that was just set up is watched and has sent nothing. -/
theorem Call.Begins.orderly {start : Call} (begins : start.Begins) :
    (QueuedCall.idle start).Orderly [] ∧ start.opened = false ∧ start.frames = [] := by
  obtain ⟨url, socket, silent⟩ := begins.socket
  refine ⟨⟨begins.sound, fun _ => ⟨_, socket, rfl⟩, silent.symm⟩, ?_, ?_⟩
  · unfold opened
    rw [socket]
    rfl
  · unfold frames
    rw [socket]
    rfl

end CallControl
