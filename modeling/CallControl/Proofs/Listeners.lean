import Mathlib.Logic.Relation
import CallControl.Proofs.Grown
import CallControl.Proofs.HangUp
import CallControl.Proofs.Relayed
import CallControl.Proofs.Spoken

/-! # What listeners leave alone

The listeners of a call do little when they hear of something: they raise items, note
whether the path works and which remote tracks there are, wait for an announced channel to
open and count the frames (`Parts.Reaction`). Only when a socket opens do they fetch the token
and send it. Everything else of a call is left to the tasks of its queue: what was negotiated
stays as it is as long as none of them runs (`Session.callbacks_only_raise`).
-/

namespace CallControl

/-- A channel but for the listeners that wait for it to open. -/
def DataChannel.besidesAwaiting (channel : DataChannel) : DataChannel :=
  { channel with
    listeners := channel.listeners.filter fun listener => listener.role != .awaitOpen
    nextListener := 0 }

private theorem DataChannel.besidesAwaiting_addListener (channel : DataChannel) :
    (channel.addListener .awaitOpen).besidesAwaiting = channel.besidesAwaiting := by
  unfold DataChannel.addListener DataChannel.besidesAwaiting
  rw [List.filter_append]
  exact congrArg (fun listeners => { channel with listeners, nextListener := 0 })
    (List.append_nil _)

/-- A socket but for the frames sent on it. -/
def RelaySocket.besidesFrames (socket : RelaySocket) : RelaySocket := { socket with sent := [] }

/-- One of the answers of a script is the token. -/
def TokenScript.Gives (script : TokenScript) (token : String) : Prop :=
  ∃ calls, ({ script with calls } : TokenScript).outcome = .ok token

/-- The socket that is reported open. -/
def Occurrence.opens? : Occurrence → Option HeldSocket
  | .socket id .opened => some (.simulated id)
  | .unheeding .opened => some .unheeding
  | _ => none

namespace Parts

/-- The parts with what something that happens is to the object that it happens to, before
anybody hears of it. -/
def happening (parts : Parts) : Occurrence → Parts
  | .socket id event => parts.modifySocket id (·.after event)
  | .connection id event => parts.modifyConnection id (·.after event)
  | .channelOpened id => parts.modifyChannel id fun channel => { channel with state := .opened }
  | .channelClosed id => parts.modifyChannel id fun channel => { channel with state := .closed }
  | .unheeding _ | .channelMessage _ _ => parts

/-- The parts but for what listeners may change: whether the path works, the remote stream, the
channels that have yet to open and the listeners that wait for that, the number of frames
received, and what is raised. Others write down what they hear. -/
def besidesHearing (parts : Parts) : Parts :=
  { parts with
    platform := { parts.platform with
      channels := parts.platform.channels.map DataChannel.besidesAwaiting
      dispatched := []
      journal := parts.told
      trapped := false
      crashed := false }
    relay := { parts.relay with received := 0 }
    peer := { parts.peer with
      gate := .passing
      remoteStream := ⟨"", []⟩
      pending := []
      connected := false } }

/-- The parts but for what listeners may change, the tokens fetched and the frames sent. -/
def besidesGreeting (parts : Parts) : Parts :=
  let rest := parts.besidesHearing
  { rest with
    platform := { rest.platform with
      tokens := .ofAnswers []
      sockets := rest.platform.sockets.map RelaySocket.besidesFrames } }

/-- The frames sent on a socket. -/
def framesOn (parts : Parts) (id : SocketId) : List String :=
  (parts.platform.sockets[id]?).elim [] RelaySocket.sent

/-! ## What a listener does -/

/-- One thing that a listener does when it hears of something other than the opening of a
socket, or somebody else writes down; and the end of a break. -/
inductive Reaction : Parts → Parts → Prop where
  | raisesFromPeer (parts : Parts) (item : WorkItem) : Reaction parts (parts.raiseFromPeer item)
  | raisesFromRelay (parts : Parts) (item : WorkItem) : Reaction parts (parts.raiseFromRelay item)
  | knows (parts : Parts) (connected : Bool) (remoteStream : MediaStream) :
      Reaction parts { parts with peer := { parts.peer with connected, remoteStream } }
  | awaits (parts : Parts) (id : ChannelId) (listener : Nat) :
      Reaction parts { parts.modifyChannel id (·.addListener .awaitOpen) with
        peer := { parts.peer with pending := parts.peer.pending ++ [⟨id, listener⟩] } }
  | counts (parts : Parts) :
      Reaction parts { parts with
        relay := { parts.relay with received := parts.relay.received + 1 } }
  | notes (parts : Parts) {note : Note} (other : note.ofCall = false) :
      Reaction parts (parts.note note)
  | recovers (parts : Parts) : Reaction parts parts.recover

/-- What listeners do one after the other. -/
abbrev Reacts : Parts → Parts → Prop := Relation.ReflTransGen Reaction

private theorem reacts_eachUntilCrash {Element : Type} {step : Parts → Element → Parts}
    (reacts : ∀ (current : Parts) (element : Element), current.Reacts (step current element))
    (parts : Parts) (elements : List Element) :
    parts.Reacts (parts.eachUntilCrash step elements) :=
  eachUntilCrash_preserves (motive := parts.Reacts)
    (fun current element _ reacted => reacted.trans (reacts current element)) .refl

private theorem reacts_channelHeard (parts : Parts) (id : ChannelId) (event : ChannelEvent)
    (role : ChannelRole) : parts.Reacts (parts.channelHeard id event role) := by
  cases role with
  | awaitOpen =>
      cases event with
      | opened => exact .single (.raisesFromPeer parts _)
      | message text => exact .refl
      | closed => exact .refl
  | peerMessages =>
      cases event with
      | opened => exact .refl
      | closed => exact .refl
      | message text =>
          simp only [channelHeard]
          split
          · exact reacts_eachUntilCrash (fun current item => .single (.raisesFromPeer current item))
              parts _
          · exact .refl
  | note => exact .single (.notes parts rfl)

private theorem reacts_channelEmits (parts : Parts) (id : ChannelId) (event : ChannelEvent) :
    parts.Reacts (parts.channelEmits id event) := by
  unfold channelEmits
  split
  · exact .refl
  · exact reacts_eachUntilCrash (fun current role => current.reacts_channelHeard id event role)
      parts _

private theorem reacts_channelAnnounced (parts : Parts) (id : ChannelId) :
    parts.Reacts (parts.channelAnnounced id) := by
  unfold channelAnnounced
  split
  · exact .refl
  · split
    · exact .single (.raisesFromPeer parts _)
    · exact .single (.awaits parts id _)

private theorem reacts_peerHeard (parts : Parts) (event : ConnectionEvent) :
    parts.Reacts (parts.peerHeard event) := by
  cases event with
  | negotiationNeeded => exact .single (.raisesFromPeer parts _)
  | iceCandidate candidate =>
      cases candidate with
      | none => exact .refl
      | some candidate => exact .single (.raisesFromPeer parts _)
  | track track =>
      have known : parts.Reaction { parts with
          peer := { parts.peer with remoteStream := parts.peer.remoteStream.add track } } :=
        .knows parts parts.peer.connected _
      exact .tail (.single known) (.raisesFromPeer _ _)
  | iceState state =>
      have known : parts.Reaction { parts with
          peer := { parts.peer with
            connected := PeerLink.connectedAfter parts.peer.connected state } } :=
        .knows parts _ parts.peer.remoteStream
      simp only [peerHeard, pathChanged]
      split
      · exact .tail (.single known) (.raisesFromPeer _ _)
      · exact .single known
  | dataChannel id => exact parts.reacts_channelAnnounced id

private theorem reacts_connectionHeard (parts : Parts) (event : ConnectionEvent)
    (audience : ConnectionAudience) : parts.Reacts (connectionHeard event parts audience) := by
  cases audience with
  | link => exact parts.reacts_peerHeard event
  | note => exact .single (.notes parts rfl)

private theorem reacts_relayHeard (parts : Parts) (socket : HeldSocket) {event : SocketEvent}
    (other : event ≠ .opened) : parts.Reacts (parts.relayHeard socket event) := by
  cases event with
  | opened => exact (other rfl).elim
  | message text =>
      simp only [relayHeard, relayDelivered]
      split
      · exact .tail (.single (.counts parts)) (.raisesFromRelay _ _)
      · exact .single (.counts parts)
  | closed code reason => exact .single (.raisesFromRelay parts _)
  | error text => exact .refl

/-! ## What happens, and who hears of it -/

private theorem socketEmits_cases (parts : Parts) (id : SocketId) (event : SocketEvent) :
    (parts.happening (.socket id event)).Reacts (parts.socketEmits id event) ∨
      event = .opened ∧ parts.socketEmits id event =
        (parts.happening (.socket id event)).relayOpened (.simulated id) := by
  unfold socketEmits
  split
  · rename_i absent
    have same : parts.happening (.socket id event) = parts := modifySocket_of_none absent _
    rw [same]
    exact Or.inl .refl
  · dsimp only
    split
    · exact Or.inl .refl
    · rename_i observer _
      cases observer with
      | note => exact Or.inl (.single (.notes _ rfl))
      | link =>
          by_cases opening : event = .opened
          · subst opening
            exact Or.inr ⟨rfl, rfl⟩
          · exact Or.inl (reacts_relayHeard _ _ opening)

private theorem reacts_connectionEmits (parts : Parts) (id : ConnectionId)
    (event : ConnectionEvent) :
    (parts.happening (.connection id event)).Reacts (parts.connectionEmits id event) := by
  unfold connectionEmits
  split
  · rename_i absent
    have same : parts.happening (.connection id event) = parts := modifyConnection_of_none absent _
    rw [same]
  · exact reacts_eachUntilCrash (fun current => current.reacts_connectionHeard event) _ _

/-- Closing a channel that is closed already changes nothing. -/
theorem happening_closed {parts : Parts} {id : ChannelId}
    (closed : ∀ channel, parts.platform.channels[id]? = some channel → channel.isClosed = true) :
    parts.happening (.channelClosed id) = parts := by
  have same : parts.platform.channels.modify id (fun channel => { channel with state := .closed }) =
      parts.platform.channels := by
    refine List.ext_getElem? fun position => ?_
    rw [List.getElem?_modify]
    split
    · rename_i here
      subst here
      cases found : parts.platform.channels[id]? with
      | none => rfl
      | some channel =>
          have shut : channel.state = .closed := eq_of_beq (closed channel found)
          exact congrArg some (by rw [← shut])
    · exact id_map' _
  simp only [happening, modifyChannel, Platform.modifyChannel, same]

private theorem reacts_closeChannel (parts : Parts) (id : ChannelId) :
    (parts.happening (.channelClosed id)).Reacts (parts.closeChannel id) := by
  unfold closeChannel
  split
  · rename_i absent
    rw [happening_closed fun channel found => nomatch absent.symm.trans found]
  · rename_i channel found
    split
    · rename_i closed
      rw [happening_closed fun other same => by
        cases found.symm.trans same
        exact closed]
    · exact reacts_channelEmits _ id .closed

/-- Listeners hear of whatever happens, unless it is the opening of a socket that the link to
the relay is told of. -/
theorem undergo_reacts (parts : Parts) (occurrence : Occurrence) :
    (parts.happening occurrence).Reacts (parts.undergo occurrence) ∨
      ∃ socket, occurrence.opens? = some socket ∧
        parts.undergo occurrence = ((parts.happening occurrence).relayOpened socket).recover := by
  have ends {before after : Parts} (reacted : before.Reacts after) : before.Reacts after.recover :=
    .tail reacted (.recovers after)
  cases occurrence with
  | socket id event =>
      rcases parts.socketEmits_cases id event with reacted | ⟨rfl, greets⟩
      · exact Or.inl (ends reacted)
      · exact Or.inr ⟨.simulated id, rfl, congrArg recover greets⟩
  | unheeding event =>
      simp only [undergo]
      split
      · by_cases opening : event = .opened
        · subst opening
          exact Or.inr ⟨.unheeding, rfl, rfl⟩
        · exact Or.inl (ends (reacts_relayHeard parts .unheeding opening))
      · exact Or.inl .refl
  | connection id event => exact Or.inl (ends (parts.reacts_connectionEmits id event))
  | channelOpened id => exact Or.inl (ends (reacts_channelEmits _ id .opened))
  | channelMessage id text => exact Or.inl (ends (parts.reacts_channelEmits id (.message text)))
  | channelClosed id => exact Or.inl (ends (parts.reacts_closeChannel id))

/-! ## What is left alone -/

private theorem besidesHearing_congr {before after : Parts}
    (same : after.besidesReports = before.besidesReports) (told : after.told = before.told) :
    after.besidesHearing = before.besidesHearing := by
  have rest := congrArg (fun rest : Parts => { rest.besidesHearing with
    platform := { rest.besidesHearing.platform with journal := before.told } }) same
  unfold besidesHearing
  rw [told]
  exact rest

namespace Reaction

variable {before after : Parts}

private theorem besidesHearing_eq (reaction : before.Reaction after) :
    after.besidesHearing = before.besidesHearing := by
  cases reaction with
  | raisesFromPeer item =>
      exact besidesHearing_congr (besidesReports_raiseFromPeer ..) (told_raiseFromPeer ..)
  | raisesFromRelay item =>
      exact besidesHearing_congr (besidesReports_raiseFromRelay ..) (told_raiseFromRelay ..)
  | knows connected remoteStream => rfl
  | awaits id listener =>
      have same := map_modify_of_eq DataChannel.besidesAwaiting_addListener
        before.platform.channels id
      exact congrArg (fun channels => { before.besidesHearing with
        platform := { before.besidesHearing.platform with channels } }) same
  | counts => rfl
  | notes other => exact besidesHearing_congr rfl (told_note other)
  | recovers => rfl

/-- While the dispatcher does not break off, the gate stays as it is. -/
theorem spares_gate (reaction : before.Reaction after)
    (untrapped : before.platform.trapped = false) :
    after.platform.trapped = false ∧ after.peer.gate = before.peer.gate := by
  have dispatched (item : WorkItem) : (before.platform.dispatch item).trapped = false := by
    unfold Platform.dispatch
    rw [if_neg (Bool.eq_false_iff.mp untrapped)]
    exact untrapped
  cases reaction with
  | raisesFromPeer item =>
      unfold raiseFromPeer
      split
      · rename_i passing
        rw [if_neg (Bool.eq_false_iff.mp untrapped)]
        exact ⟨dispatched item, passing.symm⟩
      · exact ⟨untrapped, rfl⟩
  | raisesFromRelay item =>
      unfold raiseFromRelay
      split
      · exact ⟨untrapped, rfl⟩
      · exact ⟨dispatched item, rfl⟩
  | knows connected remoteStream => exact ⟨untrapped, rfl⟩
  | awaits id listener => exact ⟨untrapped, rfl⟩
  | counts => exact ⟨untrapped, rfl⟩
  | notes other => exact ⟨untrapped, rfl⟩
  | recovers => exact ⟨untrapped, rfl⟩

end Reaction

namespace Reacts

variable {before after : Parts}

private theorem besidesHearing_eq (reacts : before.Reacts after) :
    after.besidesHearing = before.besidesHearing := by
  induction reacts with
  | refl => rfl
  | tail _ last ih => exact last.besidesHearing_eq.trans ih

private theorem spares_gate (reacts : before.Reacts after)
    (untrapped : before.platform.trapped = false) :
    after.platform.trapped = false ∧ after.peer.gate = before.peer.gate := by
  induction reacts with
  | refl => exact ⟨untrapped, rfl⟩
  | tail _ last ih =>
      obtain ⟨still, same⟩ := last.spares_gate ih.1
      exact ⟨still, same.trans ih.2⟩

end Reacts

/-! ## The opening of a socket -/

private theorem besidesGreeting_congr {before after : Parts}
    (same : after.besidesHearing = before.besidesHearing) :
    after.besidesGreeting = before.besidesGreeting := by
  unfold besidesGreeting
  rw [same]

private theorem framesOn_modifySocket (parts : Parts) (target : SocketId)
    {change : RelaySocket → RelaySocket}
    (kept : ∀ socket : RelaySocket, (change socket).sent = socket.sent) :
    (parts.modifySocket target change).framesOn = parts.framesOn :=
  funext fun id => elim_modify_of_eq kept parts.platform.sockets target id []

private theorem framesOn_adjust (parts : Parts) (adjustment : Adjustment) :
    (parts.adjust adjustment).framesOn = parts.framesOn := by
  cases adjustment with
  | socketFails id fails => exact framesOn_modifySocket parts id fun _ => rfl
  | _ => rfl

/-- A text is sent on one socket at most, and only if that takes it. -/
theorem framesOn_sendOnSocket (parts : Parts) (socket : HeldSocket) (text : String)
    (id : SocketId) :
    (parts.sendOnSocket socket text).framesOn id = parts.framesOn id ∨
      socket = .simulated id ∧
        (parts.sendOnSocket socket text).framesOn id = parts.framesOn id ++ [text] := by
  cases socket with
  | absent => exact Or.inl rfl
  | unheeding => exact Or.inl rfl
  | simulated target =>
      rw [sendOnSocket_simulated]
      unfold framesOn modifySocket Platform.modifySocket
      by_cases same : target = id
      · subst same
        rw [List.getElem?_modify_eq]
        cases parts.platform.sockets[target]? with
        | none => exact Or.inl rfl
        | some socket =>
            change (socket.accept text).sent = socket.sent ∨
              HeldSocket.simulated target = .simulated target ∧
                (socket.accept text).sent = socket.sent ++ [text]
            rw [socket.sent_accept]
            split
            · exact Or.inr ⟨rfl, rfl⟩
            · exact Or.inl (List.append_nil _)
      · rw [List.getElem?_modify_ne _ _ same]
        exact Or.inl rfl

private theorem besidesGreeting_sendOnSocket (parts : Parts) (socket : HeldSocket) (text : String) :
    (parts.sendOnSocket socket text).besidesGreeting = parts.besidesGreeting := by
  cases socket with
  | absent => rfl
  | unheeding => rfl
  | simulated id =>
      have kept (socket : RelaySocket) :
          (socket.accept text).besidesFrames = socket.besidesFrames := by
        unfold RelaySocket.accept
        split <;> rfl
      rw [sendOnSocket_simulated]
      exact congrArg (fun sockets => { parts.besidesGreeting with
        platform := { parts.besidesGreeting.platform with sockets } })
          (map_modify_of_eq kept parts.platform.sockets id)

/-- When the link to the relay hears that a socket opened, it fetches one token and sends it on
that socket at most. -/
theorem relayOpened_greets (parts : Parts) (socket : HeldSocket) :
    (parts.relayOpened socket).besidesGreeting = parts.besidesGreeting ∧
      (parts.relayOpened socket).voice = { parts.voice with
        crashed := (parts.relayOpened socket).platform.crashed } ∧
      (parts.relayOpened socket).platform.tokens = parts.platform.tokens.advance ∧
      ∀ id, (parts.relayOpened socket).framesOn id = parts.framesOn id ∨
        ∃ token, socket = .simulated id ∧ parts.platform.tokens.outcome = .ok token ∧
          (parts.relayOpened socket).framesOn id = parts.framesOn id ++ [token] := by
  simp only [relayOpened, fetchToken, greet, TokenScript.fetch]
  cases outcome : parts.platform.tokens.outcome with
  | error failure => cases failure <;> exact ⟨rfl, rfl, rfl, fun _ => Or.inl rfl⟩
  | ok token =>
      refine ⟨besidesGreeting_sendOnSocket _ socket token, ?_, ?_, fun id => ?_⟩
      · cases socket <;> rfl
      · cases socket <;> rfl
      · rcases framesOn_sendOnSocket _ socket token id with same | ⟨there, sent⟩
        · exact Or.inl same
        · exact Or.inr ⟨token, there, rfl, sent⟩

/-! ## Whatever happens -/

/-- Something happened and those who listened were told. Beside what that is to the object
that it happened to, only what listeners may change is another one: items are raised behind
those raised before, and no gate is shut unless the dispatcher breaks off. When a socket opens,
one token is fetched at most and sent on that socket. -/
structure Reported (before after : Parts) (occurrence : Occurrence) : Prop where
  besides : after.besidesGreeting = (before.happening occurrence).besidesGreeting
  raised : before.platform.dispatched <+: after.platform.dispatched
  gate : before.platform.trapped = false →
    after.platform.trapped = false ∧ after.peer.gate = before.peer.gate
  tokens : after.platform.tokens = before.platform.tokens ∨
    occurrence.opens?.isSome = true ∧ after.platform.tokens = before.platform.tokens.advance
  frames : ∀ id, after.framesOn id = before.framesOn id ∨
    ∃ token, occurrence.opens? = some (.simulated id) ∧
      before.platform.tokens.outcome = .ok token ∧
      after.platform.tokens = before.platform.tokens.advance ∧
      after.framesOn id = before.framesOn id ++ [token]

/-- What happens to an object raises nothing, fetches nothing and sends nothing. -/
theorem happening_silent (parts : Parts) (occurrence : Occurrence) :
    (parts.happening occurrence).voice = parts.voice ∧
      (parts.happening occurrence).platform.tokens = parts.platform.tokens ∧
      (parts.happening occurrence).framesOn = parts.framesOn := by
  cases occurrence with
  | socket id event =>
      refine ⟨rfl, rfl, framesOn_modifySocket parts id fun socket => ?_⟩
      cases event <;> rfl
  | _ => exact ⟨rfl, rfl, rfl⟩

private theorem reported_undergo (parts : Parts) (occurrence : Occurrence) :
    parts.Reported (parts.undergo occurrence) occurrence := by
  obtain ⟨voice, tokens, frames⟩ := parts.happening_silent occurrence
  have gate : (parts.happening occurrence).peer.gate = parts.peer.gate := congrArg Voice.gate voice
  have trapped : (parts.happening occurrence).platform.trapped = parts.platform.trapped :=
    congrArg Voice.trapped voice
  have raised := parts.grows_undergo occurrence
  rcases parts.undergo_reacts occurrence with reacts | ⟨socket, opens, same⟩
  · have besides := reacts.besidesHearing_eq
    refine ⟨besidesGreeting_congr besides, raised, fun untrapped => ?_, Or.inl ?_,
      fun id => Or.inl ?_⟩
    · rw [← gate]
      exact reacts.spares_gate (trapped.trans untrapped)
    · exact (congrArg (fun rest : Parts => rest.platform.tokens) besides :).trans tokens
    · exact (congrArg (fun rest : Parts => rest.framesOn id) besides :).trans (congrFun frames id)
  · obtain ⟨besides, spared, fetched, sent⟩ :=
      (parts.happening occurrence).relayOpened_greets socket
    rw [tokens] at fetched sent
    rw [frames] at sent
    rw [same] at raised ⊢
    refine ⟨besides, raised, fun untrapped => ?_, Or.inr ⟨?_, fetched⟩, fun id => ?_⟩
    · exact ⟨(congrArg Voice.trapped spared).trans (trapped.trans untrapped),
        (congrArg Voice.gate spared).trans gate⟩
    · rw [opens]
      rfl
    · rcases sent id with kept | ⟨token, rfl, given, more⟩
      · exact Or.inl kept
      · exact Or.inr ⟨token, opens, given, fetched, more⟩

end Parts

/-! ## What is left to the queue -/

/-- What was made of a peer connection by negotiating over it. -/
structure Transcript where
  localDescription : Option SessionDescription
  remoteDescription : Option SessionDescription
  /-- The options of the offers created, oldest first. -/
  offers : List OfferOptions
  answers : Nat
  /-- The candidates handed over, oldest first. -/
  candidates : List CandidateRequest
  tracks : List MediaTrack

def PeerConnection.transcript (connection : PeerConnection) : Transcript :=
  ⟨connection.localDescription, connection.remoteDescription, connection.offerOptions,
    connection.answersCreated, connection.candidateRequests, connection.addedTracks⟩

/-- How far a call has come, and what it told the peer. -/
structure Negotiated where
  lifecycle : Lifecycle
  flags : CallFlags
  held : List IceCandidate
  adopted : Option ChannelRegistration
  /-- The transcripts of all peer connections. -/
  transcripts : List Transcript
  /-- The messages sent on each channel, oldest first. -/
  messages : ChannelId → List String

namespace Call

variable {call : Call}

def negotiated (call : Call) : Negotiated :=
  ⟨call.lifecycle, call.flags, call.peer.held, call.peer.adopted,
    call.platform.connections.map PeerConnection.transcript, call.toParts.sentOn⟩

private theorem transcripts_modifyConnection (parts : Parts) (id : ConnectionId)
    {change : PeerConnection → PeerConnection}
    (kept : ∀ connection, (change connection).transcript = connection.transcript) :
    (parts.modifyConnection id change).platform.connections.map PeerConnection.transcript =
      parts.platform.connections.map PeerConnection.transcript :=
  map_modify_of_eq kept _ id

private theorem negotiated_congr (call : Call) {parts : Parts}
    (held : parts.peer.held = call.peer.held) (adopted : parts.peer.adopted = call.peer.adopted)
    (transcripts : parts.platform.connections.map PeerConnection.transcript =
      call.platform.connections.map PeerConnection.transcript)
    (messages : parts.sentOn = call.toParts.sentOn) :
    ({ call with toParts := parts } : Call).negotiated = call.negotiated := by
  unfold negotiated
  rw [held, adopted, transcripts, messages]

/-- Whatever happens on the platform, nothing is negotiated. -/
theorem negotiated_undergo (call : Call) (occurrence : Occurrence) :
    (call.withParts (·.undergo occurrence)).negotiated = call.negotiated := by
  have besides := (call.toParts.reported_undergo occurrence).besides
  have linked : (call.toParts.happening occurrence).peer = call.peer := by
    cases occurrence <;> rfl
  have connected : (call.toParts.happening occurrence).platform.connections.map
      PeerConnection.transcript = call.platform.connections.map PeerConnection.transcript := by
    cases occurrence with
    | connection id event =>
        refine transcripts_modifyConnection call.toParts id fun connection => ?_
        cases event <;> rfl
    | _ => rfl
  refine negotiated_congr call ?_ ?_ ?_ (call.toParts.sentOn_undergo occurrence)
  · rw [← linked]
    exact (congrArg (fun rest : Parts => rest.peer.held) besides :)
  · rw [← linked]
    exact (congrArg (fun rest : Parts => rest.peer.adopted) besides :)
  · rw [← connected]
    exact (congrArg (fun rest : Parts =>
      rest.platform.connections.map PeerConnection.transcript) besides :)

/-- Nothing is negotiated when the platform changes without anybody being told. -/
theorem negotiated_adjust (call : Call) (adjustment : Adjustment) :
    (call.withParts (·.adjust adjustment)).negotiated = call.negotiated := by
  refine negotiated_congr call rfl rfl ?_ (call.toParts.sentOn_adjust adjustment)
  cases adjustment with
  | refuseRemote id refuses => exact transcripts_modifyConnection call.toParts id fun _ => rfl
  | refuseTracks id refuses => exact transcripts_modifyConnection call.toParts id fun _ => rfl
  | refuseCandidates id refuses => exact transcripts_modifyConnection call.toParts id fun _ => rfl
  | overhearConnection id kind => exact transcripts_modifyConnection call.toParts id fun _ => rfl
  | _ => rfl

end Call

/-- A move reports a socket open. -/
def ClosingMove.opens (id : SocketId) : ClosingMove → Bool
  | .goesOn (.event occurrence) => occurrence.opens? == some (.simulated id)
  | _ => false

/-- What was sent on a socket since are tokens, not more than it was reported open. -/
structure Parts.Greets (before after : Parts) (id : SocketId) (openings : Nat) : Prop where
  answers : after.platform.tokens.answers = before.platform.tokens.answers
  sent : ∃ tokens, after.framesOn id = before.framesOn id ++ tokens ∧ tokens.length ≤ openings ∧
    ∀ token ∈ tokens, before.platform.tokens.Gives token

namespace Parts.Greets

private theorem of_same {before after : Parts} (id : SocketId) (openings : Nat)
    (tokens : after.platform.tokens = before.platform.tokens)
    (frames : after.framesOn id = before.framesOn id) : before.Greets after id openings :=
  ⟨congrArg TokenScript.answers tokens,
    [], by rw [frames, List.append_nil], Nat.zero_le _, fun _ member => nomatch member⟩

private theorem trans {first second third : Parts} {id : SocketId} {earlier later : Nat}
    (greets : first.Greets second id earlier) (again : second.Greets third id later) :
    first.Greets third id (earlier + later) := by
  obtain ⟨same, tokens, sent, few, given⟩ := greets
  obtain ⟨still, others, more, fewer, givenToo⟩ := again
  refine ⟨still.trans same, tokens ++ others, ?_, ?_, ?_⟩
  · rw [more, sent, List.append_assoc]
  · rw [List.length_append]
    exact Nat.add_le_add few fewer
  · intro token member
    rcases List.mem_append.mp member with here | there
    · exact given token here
    · obtain ⟨calls, outcome⟩ := givenToo token there
      refine ⟨calls, ?_⟩
      rw [← same]
      exact outcome

private theorem of_reported {before after : Parts} {occurrence : Occurrence}
    (reported : before.Reported after occurrence) (id : SocketId) :
    before.Greets after id
      (if occurrence.opens? == some (.simulated id) then 1 else 0) := by
  have answers : after.platform.tokens.answers = before.platform.tokens.answers := by
    rcases reported.tokens with same | ⟨_, fetched⟩
    · rw [same]
    · rw [fetched]
      rfl
  rcases reported.frames id with same | ⟨token, opens, given, _, sent⟩
  · exact ⟨answers, [], by rw [same, List.append_nil], Nat.zero_le _,
      fun _ member => nomatch member⟩
  · refine ⟨answers, [token], sent, ?_, fun other member => ?_⟩
    · rw [opens, beq_self_eq_true]
      exact Nat.le_refl 1
    · cases List.mem_singleton.mp member
      exact ⟨before.platform.tokens.calls, given⟩

end Parts.Greets

namespace Session

variable {session : Session}

/-- What listeners raise when something happens goes behind what waits in the queue, and the
rest of the session stays as it is. -/
theorem step_event (session : Session) (occurrence : Occurrence) :
    ∃ parts items, session.call.toParts.Reported parts occurrence ∧
      parts.platform.dispatched = session.call.platform.dispatched ++ items ∧
      session.step (.event occurrence) =
        session.extend
          { session.queue.loop.state with owner := { session.call with toParts := parts } }
          (if session.running then items.map WorkItem.letter else []) := by
  have reported := session.call.toParts.reported_undergo occurrence
  obtain ⟨items, raised⟩ := reported.raised
  refine ⟨_, items, reported, raised.symm, ?_⟩
  have since :
      session.call.raisedSince (session.call.withParts (·.undergo occurrence)) = items := by
    change (session.call.toParts.undergo occurrence).platform.dispatched.drop _ = items
    rw [← raised, List.drop_left]
  refine (session.occur_eq (·.undergo occurrence)).trans ?_
  rw [since, TaskLoop.postAll_eq, List.map_map]
  rfl

/-- A move that runs no task negotiates nothing, and nothing is sent on a socket but the token
when it opens. -/
theorem close_of_idle {move : ClosingMove} (idle : session.performs? move = none) :
    (session.close move).call.negotiated = session.call.negotiated ∧
      ∀ id, session.call.toParts.Greets (session.close move).call.toParts id
        (if move.opens id then 1 else 0) := by
  rw [call_close_of_idle idle]
  have quiet : session.call.negotiated = session.call.negotiated ∧
      ∀ id, session.call.toParts.Greets session.call.toParts id
        (if move.opens id then 1 else 0) :=
    ⟨rfl, fun id => .of_same id _ rfl rfl⟩
  cases move with
  | stop => exact quiet
  | join => exact quiet
  | goesOn move =>
      cases move with
      | event occurrence =>
          exact ⟨session.call.negotiated_undergo occurrence, fun id =>
            .of_reported (session.call.toParts.reported_undergo occurrence) id⟩
      | adjust adjustment =>
          refine ⟨session.call.negotiated_adjust adjustment, fun id => ?_⟩
          refine .of_same id _ ?_ ?_
          · cases adjustment <;> rfl
          · exact congrFun (session.call.toParts.framesOn_adjust adjustment) id
      | ask task => exact quiet
      | mark => exact quiet
      | wait milliseconds => exact quiet
      | turn => exact quiet

/-- As long as no task runs, nothing is negotiated. -/
theorem closeRun_of_idle {moves : List ClosingMove} (idle : session.performed moves = []) :
    (session.closeRun moves).call.negotiated = session.call.negotiated ∧
      ∀ id, session.call.toParts.Greets (session.closeRun moves).call.toParts id
        (moves.countP (·.opens id)) := by
  unfold closeRun
  induction moves generalizing session with
  | nil => exact ⟨rfl, fun id => .of_same id _ rfl rfl⟩
  | cons move moves ih =>
      obtain ⟨first, rest⟩ := List.append_eq_nil_iff.mp idle
      have first : session.performs? move = none := by
        cases performs : session.performs? move with
        | none => rfl
        | some done =>
            rw [performs] at first
            cases first
      obtain ⟨same, greets⟩ := close_of_idle first
      obtain ⟨still, more⟩ := ih rest
      refine ⟨still.trans same, fun id => ?_⟩
      rw [List.countP_cons, Nat.add_comm]
      exact (greets id).trans (more id)

/-- Whatever state a session is in and whatever happens on its platform: beside what that is
to the object that it happens to, the listeners that hear of it change whether the path works,
the remote stream, the channels that have yet to open with the listeners that wait for that
and the number of frames received, and what they raise goes behind what waits in the queue. As
long as the queue runs no task, the stage and the flags of the call, the candidates held and
handed over, the tracks added, the descriptions, the offers and answers, the channel in use and
the messages sent stay as they are, and nothing is sent on a socket but a token for each
time that it is reported open. -/
theorem callbacks_only_raise (session : Session) :
    (∀ occurrence, ∃ parts items, session.call.toParts.Reported parts occurrence ∧
      parts.platform.dispatched = session.call.platform.dispatched ++ items ∧
      session.step (.event occurrence) =
        session.extend
          { session.queue.loop.state with owner := { session.call with toParts := parts } }
          (if session.running then items.map WorkItem.letter else [])) ∧
    ∀ moves, session.performed moves = [] →
      (session.closeRun moves).call.negotiated = session.call.negotiated ∧
      ∀ id, session.call.toParts.Greets (session.closeRun moves).call.toParts id
        (moves.countP (·.opens id)) :=
  ⟨session.step_event, fun _ => closeRun_of_idle⟩

/-- A session whose timeout is held back and whose socket is open. -/
def onHold : Session := justStarted.run [.turn, .event (.socket 0 .opened)]

/-- The peer connection asks for negotiation, and a while passes. -/
def negotiationAsked : List ClosingMove :=
  [.goesOn (.event (.connection 0 .negotiationNeeded)), .goesOn (.wait 100)]

/-- While the queue is held nothing is offered, and as soon as it goes on there is an offer. -/
theorem callbacks_only_raise_onHold :
    let asked := onHold.closeRun negotiationAsked
    start (.make ⟨"local", []⟩ (.ofAnswers []) (.ok ⟨[]⟩)) .standard "line" =
        .running justStarted ∧
      onHold.performed negotiationAsked = [] ∧
      asked.queue.loop.mailbox.filterMap Letter.item? = [.peer .negotiationNeeded] ∧
      asked.call.negotiated = onHold.call.negotiated ∧
      asked.call.platform.connections.map PeerConnection.offersCreated = [0] ∧
      (asked.step .turn).call.platform.connections.map PeerConnection.offersCreated = [1] := by
  have idle : onHold.performed negotiationAsked = [] := rfl
  obtain ⟨same, _⟩ := onHold.callbacks_only_raise.2 negotiationAsked idle
  exact ⟨rfl, idle, rfl, same, rfl, rfl⟩

end Session

end CallControl
