import CallControl.Proofs.OwnFlags
import CallControl.Proofs.QueuedCall

/-! # Answers to requests for state

A running call that uses a channel takes in whatever comes in on it. The only messages that
it answers are states that ask for its own, each with one state that asks for nothing
(`QueuedCall.Conversing.run`). So two sides that do nothing but take in what the other sends
come to rest.
-/

namespace CallControl

/-! ## Requests -/

/-- A text asks whoever takes it in for their state. -/
def PeerMessage.requests (text : String) : Bool :=
  match parse? text with
  | some (.state report) => report.requestState
  | _ => false

namespace WorkItem

/-- An item makes the call send its state. -/
def asksState : WorkItem → Bool
  | .peer .sendInitialState => true
  | _ => false

/-- The items that messages on a data channel ask for. -/
inductive Chats : WorkItem → Prop
  | answer : Chats (.peer .sendInitialState)
  | report (event : ToggleEvent) : Chats (.coordinator event.report)

end WorkItem

namespace PeerMessage

private theorem chats_of_mem_items {message : PeerMessage} {item : WorkItem}
    (member : item ∈ message.items) : item.Chats := by
  cases message with
  | toggle event =>
      cases List.mem_singleton.mp member
      exact .report event
  | state report =>
      rcases List.mem_append.mp member with asked | told
      · split at asked
        · cases List.mem_singleton.mp asked
          exact .answer
        · cases asked
      · rcases List.mem_cons.mp told with rfl | last
        · exact .report _
        · cases List.mem_singleton.mp last
          exact .report _

private theorem chats_of_mem_asks {text : String} {item : WorkItem} (member : item ∈ asks text) :
    item.Chats := by
  unfold asks at member
  split at member
  · exact chats_of_mem_items member
  · cases member

/-- A text asks for this side's state once if it is a request, and otherwise not at all. -/
theorem countP_asks (text : String) :
    (asks text).countP WorkItem.asksState = if requests text then 1 else 0 := by
  unfold asks requests
  cases parse? text with
  | none => rfl
  | some message =>
      cases message with
      | toggle event => rfl
      | state report =>
          obtain ⟨requestState, micOn, videoOn⟩ := report
          cases requestState <;> rfl

/-- A state that asks for nothing is answered by nobody. -/
theorem requests_toText (report : StateReport) :
    requests report.toText = report.requestState := by
  have read : parse? report.toText = some (.state report) := parse?_toText (.state report)
  unfold requests
  rw [read]

end PeerMessage

/-! ## A call that converses -/

namespace Call

open Parts

variable {call : Call} {id : ChannelId}

/-- A call goes on through every run that does not end it and loses nothing. -/
theorem Ready.run {connection : ConnectionId} (ready : call.Ready connection)
    {moves : List CallMove} (unarmed : ∀ traps, .adjust (.trap traps) ∉ moves)
    (running : (call.run moves).lifecycle ≠ .ended) : (call.run moves).Ready connection := by
  induction moves generalizing call with
  | nil => exact ready
  | cons move rest ih =>
      rw [run_cons] at running ⊢
      have goes : call.ends move = false := by
        rw [Bool.eq_false_iff]
        exact fun ends => running_of_run running (ready.ended_of_ends ends)
      have proceeds := ready.proceeds goes fun traps same =>
        unarmed traps (same ▸ List.mem_cons_self)
      exact ih proceeds.ready (fun traps member => unarmed traps (List.mem_cons_of_mem _ member))
        running

private theorem accepts_adopted (accepts : call.toParts.accepts id = true) :
    ∃ registration, call.peer.adopted = some registration ∧ registration.channel = id := by
  unfold Parts.accepts at accepts
  rw [Bool.and_eq_true] at accepts
  cases used : call.peer.adopted with
  | none =>
      rw [used] at accepts
      exact nomatch accepts.1
  | some registration =>
      rw [used] at accepts
      exact ⟨registration, rfl, eq_of_beq accepts.1⟩

/-- Handling what comes in on a channel does not change which channel is in use. -/
theorem accepts_route (running : call.lifecycle ≠ .ended) {item : WorkItem} (chats : item.Chats) :
    (call.route item).toParts.accepts = call.toParts.accepts := by
  cases chats with
  | answer =>
      rw [call.route_peer running .sendInitialState rfl]
      unfold processItem
      split
      · rfl
      · exact accepts_sendToPeer ..
  | report event =>
      have shown (flags : CallFlags) :
          (call.setFlags flags).toParts.accepts = call.toParts.accepts :=
        accepts_of_reports (besidesReports_setFlags ..)
      rw [route_coordinator running]
      cases event <;> exact shown _

/-- A running call that uses a channel which takes what is sent on it. It was set up and
anything may have happened to it, but that its dispatcher breaks off. -/
structure Converses (call : Call) (id : ChannelId) : Prop where
  reached : ∃ (start : Call) (moves : List CallMove), start.Begins ∧
    (∀ traps, .adjust (.trap traps) ∉ moves) ∧ start.run moves = call
  running : call.lifecycle ≠ .ended
  accepts : call.toParts.accepts id = true

/-- A call that converses has a peer connection. -/
theorem Converses.ready (converses : call.Converses id) :
    ∃ connection, call.Ready connection := by
  obtain ⟨start, moves, begins, unarmed, rfl⟩ := converses.reached
  obtain ⟨registration, used, _⟩ := accepts_adopted converses.accepts
  cases initialised : start.peer.connection with
  | none =>
      have absent := unconnected_run initialised moves
      have unused := ((begins.sound_run moves).coupled.accounted.resting absent).2.2.1
      exact nomatch unused.symm.trans used
  | some connection =>
      exact ⟨connection, (begins.ready initialised).run unarmed converses.running⟩

end Call

namespace QueuedCall

open Parts

/-- A call that converses on a channel; what waits was asked for there. -/
structure Conversing (queued : QueuedCall) (id : ChannelId) : Prop where
  ready : ∃ connection, queued.call.Ready connection
  accepts : queued.call.toParts.accepts id = true
  chats : ∀ item ∈ queued.waiting, item.Chats

/-- A call that converses does so with nothing waiting. -/
theorem conversing_idle {call : Call} {id : ChannelId}
    (converses : call.Converses id) : (idle call).Conversing id :=
  ⟨converses.ready, converses.accepts, nofun⟩

namespace Conversing

variable {queued : QueuedCall} {id : ChannelId}

/-- A text that comes in on the channel is taken in, and answered later. -/
theorem receive (conversing : queued.Conversing id) (text : String) :
    let after := queued.step (.event (.channelMessage id text))
    after.Conversing id ∧ after.waiting = queued.waiting ++ PeerMessage.asks text ∧
      after.call.toParts.sentOn = queued.call.toParts.sentOn := by
  obtain ⟨connection, ready⟩ := conversing.ready
  obtain ⟨registration, used, same⟩ := Call.accepts_adopted conversing.accepts
  have goes : queued.call.ends (.event (.channelMessage id text)) = false := rfl
  have proceeds := ready.proceeds goes nofun
  have asked : queued.call.raisedBy (.event (.channelMessage id text)) = PeerMessage.asks text := by
    refine (ChannelsKept.reports_message ready.sound.coupled.accounted.channels id text).trans ?_
    rw [used, Option.any_some, same]
    exact if_pos (beq_self_eq_true id)
  have waiting : (queued.step (.event (.channelMessage id text))).waiting =
      queued.waiting ++ PeerMessage.asks text := by
    rw [← asked, step_of_proceeds rfl proceeds]
  have kept : (queued.call.move (.event (.channelMessage id text))).toParts.besidesReports =
      queued.call.toParts.besidesReports := besidesReports_channelEmits ..
  intro after
  refine ⟨⟨⟨connection, proceeds.ready⟩, ?_, ?_⟩, waiting, sentOn_of_reports kept⟩
  · exact (congrFun (accepts_of_reports kept) id).trans conversing.accepts
  · intro item member
    rw [waiting] at member
    rcases List.mem_append.mp member with earlier | raised
    · exact conversing.chats item earlier
    · exact PeerMessage.chats_of_mem_asks raised

/-- What a call sends when it handles an item. -/
def answers (call : Call) (item : WorkItem) : List String :=
  if item.asksState then [(call.toParts.stateReport false).toText] else []

/-- What waits is handled; it is answered if it asks for this side's state, and otherwise
only shown. -/
theorem handle (conversing : queued.Conversing id) {item : WorkItem} {rest : List WorkItem}
    (waiting : queued.waiting = item :: rest) :
    let after := queued.step .handle
    after.Conversing id ∧ after.waiting = rest ∧
      after.call.toParts.sentOn id =
        queued.call.toParts.sentOn id ++ answers queued.call item := by
  obtain ⟨connection, ready⟩ := conversing.ready
  have chats : item.Chats := conversing.chats item (waiting ▸ List.mem_cons_self)
  have goes : queued.call.ends (.item item) = false := by
    cases chats with
    | answer => rfl
    | report event => cases event <;> rfl
  have silent : queued.call.raisedBy (.item item) = [] := by
    cases chats with
    | answer =>
        simp only [Call.raisedBy, Parts.tells]
        cases queued.call.toParts.peerConnection? <;> rfl
    | report event => rfl
  have unarmed (traps : Bool) : CallMove.item item ≠ .adjust (.trap traps) := by
    intro same
    cases same
  have proceeds := ready.proceeds goes unarmed
  have told : (queued.call.message? (.item item)).toList.map PeerMessage.toText =
      answers queued.call item := by
    cases chats with
    | answer => rfl
    | report event => rfl
  have takes : (queued.call.move (.item item)).toParts.accepts id = true := by
    rw [← conversing.accepts]
    exact congrFun (Call.accepts_route ready.running chats) id
  have sent := Call.sends_move ready.sound (.item item) id
  rw [takes, if_pos rfl, told] at sent
  intro after
  have stepped : after = ⟨queued.call.move (.item item), rest⟩ := by
    rw [← List.append_nil rest, ← silent]
    exact step_of_proceeds (next_handle waiting) proceeds
  rw [stepped]
  refine ⟨⟨⟨connection, proceeds.ready⟩, takes, fun other member => ?_⟩, rfl, sent⟩
  exact conversing.chats other (waiting ▸ List.mem_cons_of_mem _ member)

end Conversing

/-! ## Runs -/

/-- Some texts came in, and some states that ask for nothing were sent: one for each request,
but for those that are yet to be answered. -/
structure Answered (before after : QueuedCall) (id : ChannelId) (texts : List String)
    (replies : List StateReport) : Prop where
  conversing : after.Conversing id
  sent : after.call.toParts.sentOn id =
    before.call.toParts.sentOn id ++ replies.map StateReport.toText
  final : ∀ reply ∈ replies, reply.requestState = false
  balance : replies.length + after.waiting.countP WorkItem.asksState =
    texts.countP PeerMessage.requests + before.waiting.countP WorkItem.asksState

namespace Answered

variable {before between after : QueuedCall} {id : ChannelId} {texts more : List String}
  {replies others : List StateReport}

private theorem refl (conversing : before.Conversing id) : before.Answered before id [] [] :=
  ⟨conversing, (List.append_nil _).symm, nofun, rfl⟩

private theorem trans (earlier : before.Answered between id texts replies)
    (later : between.Answered after id more others) :
    before.Answered after id (texts ++ more) (replies ++ others) where
  conversing := later.conversing
  sent := by rw [later.sent, earlier.sent, List.map_append, List.append_assoc]
  final reply member := (List.mem_append.mp member).elim (earlier.final reply) (later.final reply)
  balance := by
    have first := earlier.balance
    have second := later.balance
    rw [List.length_append, List.countP_append]
    omega

private theorem receive (conversing : before.Conversing id) (text : String) :
    before.Answered (before.step (.event (.channelMessage id text))) id [text] [] := by
  obtain ⟨still, waiting, sent⟩ := conversing.receive text
  refine ⟨still, ?_, nofun, ?_⟩
  · rw [sent, List.map_nil, List.append_nil]
  · rw [waiting, List.countP_append, PeerMessage.countP_asks, List.countP_singleton,
      List.length_nil]
    omega

/-- Handling an item sends one answer if the item asks for this side's state, and none otherwise. -/
theorem handle (conversing : before.Conversing id) {item : WorkItem} {rest : List WorkItem}
    (waiting : before.waiting = item :: rest) :
    before.Answered (before.step .handle) id []
      (if item.asksState then [before.call.toParts.stateReport false] else []) := by
  obtain ⟨still, left, sent⟩ := conversing.handle waiting
  have final : (before.call.toParts.stateReport false).requestState = false := by
    unfold stateReport
    split <;> rfl
  refine ⟨still, ?_, ?_, ?_⟩
  · rw [sent, Conversing.answers]
    split <;> rfl
  · intro reply member
    split at member
    · rw [List.mem_singleton.mp member]
      exact final
    · cases member
  · rw [left, waiting, List.countP_cons]
    split
    · exact (Nat.add_comm ..).trans (Nat.zero_add _).symm
    · rfl

end Answered

/-- What a call does that only takes in texts, and handles what they ask for. -/
inductive TalkMove where
  | receive (text : String)
  | handle
  deriving Repr, DecidableEq

/-- The move that is meant, with the texts as messages on a channel. -/
def TalkMove.move (id : ChannelId) : TalkMove → QueueMove
  | .receive text => .event (.channelMessage id text)
  | .handle => .handle

/-- The text that comes in. -/
def TalkMove.text? : TalkMove → Option String
  | .receive text => some text
  | .handle => none

variable {queued : QueuedCall} {id : ChannelId}

/-- However the texts come in between the items that are handled, each request is answered
once. -/
theorem Conversing.run (conversing : queued.Conversing id) (moves : List TalkMove) :
    ∃ replies, queued.Answered (queued.run (moves.map (TalkMove.move id))) id
      (moves.filterMap TalkMove.text?) replies := by
  induction moves generalizing queued with
  | nil => exact ⟨[], .refl conversing⟩
  | cons move rest ih =>
      cases move with
      | receive text =>
          have first := Answered.receive conversing text
          obtain ⟨replies, later⟩ := ih first.conversing
          exact ⟨_, first.trans later⟩
      | handle =>
          cases waiting : queued.waiting with
          | nil =>
              obtain ⟨replies, later⟩ := ih conversing
              refine ⟨replies, ?_⟩
              change queued.Answered ((queued.step .handle).run _) id _ replies
              rw [step_handle_of_nil waiting]
              exact later
          | cons item left =>
              have first := Answered.handle conversing waiting
              obtain ⟨replies, later⟩ := ih first.conversing
              exact ⟨_, first.trans later⟩

/-- Nothing waits any more when all that waited was handled. -/
theorem Conversing.drained (conversing : queued.Conversing id) :
    (queued.run (List.replicate queued.waiting.length .handle)).waiting = [] := by
  generalize waits : queued.waiting = waiting
  induction waiting generalizing queued with
  | nil => exact waits
  | cons item rest ih =>
      obtain ⟨still, left, _⟩ := conversing.handle waits
      exact ih still left

/-- A call that has nothing to handle takes in texts, with its items handled at any time in
between. When it has handled all of them, it has sent one state for each request and nothing
else, and none of these states is a request. -/
theorem Conversing.answers_requests (conversing : queued.Conversing id) (idle : queued.waiting = [])
    (moves : List TalkMove) :
    let reached := queued.run (moves.map (TalkMove.move id))
    let drained := reached.run (List.replicate reached.waiting.length .handle)
    drained.waiting = [] ∧ ∃ replies : List StateReport,
      drained.call.toParts.sentOn id =
        queued.call.toParts.sentOn id ++ replies.map StateReport.toText ∧
      replies.length = (moves.filterMap TalkMove.text?).countP PeerMessage.requests ∧
      ∀ reply ∈ replies, reply.requestState = false := by
  intro reached drained
  obtain ⟨earlier, first⟩ := conversing.run moves
  have rest := first.conversing.drained
  obtain ⟨later, second⟩ := first.conversing.run (List.replicate reached.waiting.length .handle)
  rw [List.map_replicate] at second
  have silent : (List.replicate reached.waiting.length TalkMove.handle).filterMap
      TalkMove.text? = [] := by
    rw [List.filterMap_replicate_of_none rfl]
  rw [silent] at second
  have both := first.trans second
  refine ⟨rest, earlier ++ later, both.sent, ?_, both.final⟩
  have balance := both.balance
  change _ + drained.waiting.countP _ = _ at balance
  rw [rest, idle, List.append_nil] at balance
  exact balance

end QueuedCall

end CallControl
