import CallControl.Proofs.ReadBack
import CallControl.Proofs.Relayed

/-! # Signals across the relay

What one side sends as a signal is what the other side is handed. The text that a link
sends is read back as the signal itself, and when the relay delivers the same message
under the event of its kind, the link that hears it raises the one item that carries the
same value (`Signal.verbatim`). Neither depends on where the fields stand or on what else
the objects contain.
-/

namespace CallControl

open CallControl.Json

/-! ## What can cross -/

/-- An object that can be carried as it is: its keys are in order, its numbers are
integers of 64 bits, and it nests no deeper than a field of a record may. -/
structure Json.Portable (value : Json) : Prop where
  isObject : value.isObject = true
  ordered : value.every keysIncrease = true
  integral : value.every numberFits = true
  shallow : value.nesting ≤ 126

/-- The fields of an object that carries a value as its message, beside a tag. -/
def tagged (tag kind : String) (value : Json) : List (String × List Char) :=
  [(tag, writeText kind), ("message", write value)]

/-- The fields of a tagged message are found wherever they stand, and its value is kept. -/
theorem exists_tagged_fields? {tag kind : String} {value : Json} (portable : value.Portable)
    (distinct : tag ≠ "message") {fields : List (String × List Char)}
    (carries : Carries (tagged tag kind value) fields) :
    ∃ members document, Spells (writeObject fields) (.object members) ∧
      fields? [tag, "message"] (.object members) =
        some [some (.scalar (.string (some kind))), some document] ∧
      ofDocument? fieldDepth document = some value := by
  obtain ⟨document, spells, kept⟩ := exists_spells_write value portable.ordered portable.integral
  have apart : ((tagged tag kind value).map Prod.fst).Nodup := by
    simpa [tagged] using distinct
  obtain ⟨members, object, found⟩ :=
    carries.exists_fields? apart (.cons (.writeText kind) (.cons spells .nil))
  exact ⟨members, document, object, found, kept fieldDepth portable.shallow⟩

namespace Signal

/-- The fields of a signal on the wire. -/
def record (signal : Signal) : List (String × List Char) :=
  tagged "type" signal.kind signal.value

/-- The event under which the relay delivers a signal. -/
def event : Signal → String
  | .offer _ => "webrtc_offer"
  | .candidate .. => "webrtc_candidate"
  | .acceptance _ => "webrtc_acceptance"

/-- The fields of a frame that delivers a signal. -/
def delivery (signal : Signal) : List (String × List Char) :=
  tagged "event" signal.event signal.value

/-- The item that hands a signal to the link to the peer. -/
def arrival : Signal → PeerItem
  | .offer description => .webrtcOffer description
  | .candidate path => .webrtcCandidate path
  | .acceptance description => .webrtcAcceptance description

/-! ## Reading a signal -/

private theorem ofKind?_kind (signal : Signal) :
    ofKind? signal.kind signal.value = some signal := by
  cases signal <;> rfl

/-- An object that carries the fields of a signal is read as the signal. -/
theorem parse?_of_carries {signal : Signal} (portable : signal.value.Portable)
    {fields : List (String × List Char)} (carries : Carries signal.record fields) :
    parse? (String.ofList (writeObject fields)) = some signal := by
  have distinct : "type" ≠ "message" := by decide
  obtain ⟨members, document, spells, found, kept⟩ :=
    exists_tagged_fields? portable distinct carries
  unfold parse?
  rw [spells.parse?, Option.bind_some]
  simp only [found, kindIn?, readKind?, kept, Option.bind_some, ofKind?_kind]

/-- A frame under the event of a kind asks for the item of that kind. -/
theorem asksFor_arrival {signal : Signal} (isObject : signal.value.isObject = true) :
    RelayFrame.AsksFor ⟨signal.event, signal.value⟩ signal.arrival := by
  have object : ∀ value : Json, value.isObject = true → ∃ members, value = .object members := by
    intro value isObject
    cases value with
    | object members => exact ⟨members, rfl⟩
    | _ => cases isObject
  obtain ⟨members, same⟩ := object signal.value isObject
  obtain ⟨⟨value⟩⟩ | ⟨⟨value⟩⟩ | ⟨⟨value⟩⟩ := signal
  · rw [show value = .object members from same]
    exact .offer members
  · rw [show value = .object members from same]
    exact .candidate members
  · rw [show value = .object members from same]
    exact .acceptance members

/-- An object that carries the fields of a delivered signal asks for its arrival. -/
theorem decode?_of_carries {signal : Signal} (portable : signal.value.Portable)
    {fields : List (String × List Char)} (carries : Carries signal.delivery fields) :
    RelayFrame.decode? (String.ofList (writeObject fields)) = some signal.arrival := by
  have distinct : "event" ≠ "message" := by decide
  obtain ⟨members, document, spells, found, kept⟩ :=
    exists_tagged_fields? portable distinct carries
  refine (RelayFrame.decode?_eq_some_iff _ _).mpr
    ⟨⟨signal.event, signal.value⟩, ?_, asksFor_arrival portable.isObject⟩
  unfold RelayFrame.parse?
  rw [spells.parse?, Option.bind_some]
  simp only [found, required, string?, orDefault, kept, Option.bind_some, Option.map_some]

/-! ## Sending and hearing -/

private theorem sent_sendSignal {sender : Parts} {id : SocketId} {socket : RelaySocket}
    (holds : sender.relay.socket = .simulated id)
    (found : sender.platform.sockets[id]? = some socket) (takes : socket.takes = true)
    (signal : Signal) :
    (sender.sendSignal signal).platform.sockets[id]? =
      some { socket with sent := socket.sent ++ [signal.toText] } := by
  unfold Parts.sendSignal
  rw [holds, Parts.sendOnSocket_simulated]
  simp only [Parts.modifySocket, Platform.modifySocket, List.getElem?_modify_eq, found,
    Option.map_eq_map, Option.map_some, RelaySocket.accept, if_pos takes]

/-- A signal with a value that can be carried crosses the relay as it is. On a socket that
takes it, one text is sent; this text is read as the signal, and so is every object that
carries its fields. Every frame that carries its message under the event of its kind makes
a link that hears it raise one item, that of its kind with the same value. -/
theorem verbatim (signal : Signal) (portable : signal.value.Portable) :
    (∀ (sender : Parts) (id : SocketId) (socket : RelaySocket),
      sender.relay.socket = .simulated id → sender.platform.sockets[id]? = some socket →
        socket.takes = true →
        (sender.sendSignal signal).platform.sockets[id]? =
          some { socket with sent := socket.sent ++ [signal.toText] }) ∧
      parse? signal.toText = some signal ∧
      (∀ fields, Carries signal.record fields →
        parse? (String.ofList (writeObject fields)) = some signal) ∧
      ∀ fields, Carries signal.delivery fields →
        ∀ (receiver : Parts) (id : SocketId), receiver.Listening id →
          (receiver.socketEmits id
              (.message (String.ofList (writeObject fields)))).platform.dispatched =
            receiver.platform.dispatched ++ [.peer signal.arrival] := by
  refine ⟨fun sender id socket holds found takes => sent_sendSignal holds found takes signal,
    parse?_of_carries portable (.of_perm (.refl _)), fun fields => parse?_of_carries portable, ?_⟩
  intro fields carries receiver id listening
  let move : RelayMove := .event (.message (String.ofList (writeObject fields)))
  have going : move.ends = false := rfl
  have grown := congrArg Prod.snd (listening.relayMove_of_continues going).2
  simp only [move, RelayMove.asks, SocketEvent.asks, decode?_of_carries portable carries] at grown
  exact grown

/-- A candidate with integers at both ends of their range and texts that need escapes. -/
def roughCandidate : Signal :=
  .candidate ⟨.object
    [("bounds", .array [.number (.integer (-Int.pow 2 63)), .number (.integer (Int.pow 2 64 - 1))]),
      ("sdpMid", .string "\"\\\n\x01"), ("é", .object [("", .null), ("a", .bool true)])]⟩

/-- It crosses with its fields swapped and a field between them that nobody knows. -/
theorem verbatim_roughCandidate :
    let start := Parts.onPlatform (.make ⟨"local", []⟩ (.ofAnswers []) (.ok ⟨[]⟩))
    let around (kind : String × List Char) : List (String × List Char) :=
      [("message", write roughCandidate.value)] ++ ("more", writeText "\t") :: [kind]
    roughCandidate.value.Portable ∧
      parse? (String.ofList (writeObject (around ("type", writeText "candidate")))) =
        some roughCandidate ∧
      ∃ receiver, start.connectRelay .standard "line" = .ok receiver ∧
        (receiver.socketEmits 0 (.message (String.ofList
            (writeObject (around ("event", writeText "webrtc_candidate")))))).platform.dispatched =
          [.peer roughCandidate.arrival] := by
  intro start around
  have portable : roughCandidate.value.Portable := ⟨rfl, by decide, by decide, by decide⟩
  obtain ⟨_, _, parsed, heard⟩ := roughCandidate.verbatim portable
  have signal : Carries roughCandidate.record (around ("type", writeText "candidate")) :=
    (Carries.of_perm (.swap ..)).insert (by decide) (.writeText "\t")
  have delivery :
      Carries roughCandidate.delivery (around ("event", writeText "webrtc_candidate")) :=
    (Carries.of_perm (.swap ..)).insert (by decide) (.writeText "\t")
  have connected : ∃ receiver, start.connectRelay .standard "line" = .ok receiver := ⟨_, rfl⟩
  obtain ⟨receiver, connected⟩ := connected
  obtain ⟨listening, fresh⟩ := Parts.listening_connectRelay rfl connected
  refine ⟨portable, parsed _ signal, receiver, connected, ?_⟩
  have silent : receiver.platform.dispatched = [] := congrArg Prod.snd fresh
  rw [heard _ delivery receiver 0 listening, silent, List.nil_append]

end Signal

end CallControl
