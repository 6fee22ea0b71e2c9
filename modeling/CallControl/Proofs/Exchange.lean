import Mathlib.Algebra.Order.BigOperators.Group.List
import Mathlib.Algebra.Order.Ring.Nat
import CallControl.Proofs.Replies

/-! # Two sides that only answer each other

Two calls that are joined by their channels take in what the other sends. Each step of
either does away with a part of a fixed amount of work (`Exchange.Advanced.run`), so that in
whichever order the texts in flight are taken in and the items are handled, both come to
rest, having sent one message for each request that was in flight
(`Exchange.requests_answered_once`).
-/

namespace CallControl

/-! ## One side -/

/-- A call with what waits for it, the channel that it uses and what is in flight to it
there, oldest first. -/
structure Party where
  queued : QueuedCall
  channel : ChannelId
  incoming : List String

/-- What a side does: it takes in the text that has been in flight longest, or handles the
item that has waited longest. -/
inductive PartyMove where
  | deliver
  | handle
  deriving Repr, DecidableEq

namespace Party

/-- What a side sent. -/
def sent (party : Party) : List String := party.queued.call.toParts.sentOn party.channel

/-- A side after a move, if there is something to take in or to handle. -/
def act? (party : Party) : PartyMove → Option Party
  | .deliver =>
      match party.incoming with
      | [] => none
      | text :: rest =>
          some { party with
            queued := party.queued.step (.event (.channelMessage party.channel text))
            incoming := rest }
  | .handle =>
      match party.queued.waiting with
      | [] => none
      | _ :: _ => some { party with queued := party.queued.step .handle }

/-- The requests that a side has yet to answer. -/
def owed (party : Party) : Nat :=
  party.incoming.countP PeerMessage.requests + party.queued.waiting.countP WorkItem.asksState

end Party

/-- The moves that an item still takes: a request is handled, and the state that answers it is
taken in and makes for two items. -/
def WorkItem.work (item : WorkItem) : Nat := if item.asksState then 4 else 1

/-- The moves that a text in flight still takes. -/
def PeerMessage.work (text : String) : Nat := 1 + ((asks text).map WorkItem.work).sum

/-- The moves that are still to be made for a side. -/
def Party.work (party : Party) : Nat :=
  (party.incoming.map PeerMessage.work).sum + (party.queued.waiting.map WorkItem.work).sum

private theorem PeerMessage.work_toText {report : StateReport}
    (final : report.requestState = false) :
    work report.toText = 3 := by
  have read : parse? report.toText = some (.state report) := parse?_toText (.state report)
  unfold work asks
  rw [read]
  simp only [items, final]
  rfl

private theorem PeerMessage.work_le (text : String) : work text ≤ 7 := by
  unfold work asks
  cases parse? text with
  | none => decide
  | some message =>
      cases message with
      | toggle event => exact Nat.le_add_left 2 5
      | state report =>
          obtain ⟨requestState, micOn, videoOn⟩ := report
          cases requestState
          · exact Nat.le_add_left 3 4
          · exact Nat.le_refl 7

namespace Party

variable {party acted : Party}

/-- What a move makes of a side. -/
structure Acts (before after : Party) (replies : List StateReport) : Prop where
  conversing : after.queued.Conversing after.channel
  sent : after.sent = before.sent ++ replies.map StateReport.toText
  final : ∀ reply ∈ replies, reply.requestState = false
  owed : replies.length + after.owed = before.owed
  work : after.work + 3 * replies.length + 1 = before.work

/-- A side that moves answers a request, or sends nothing. -/
theorem acts (conversing : party.queued.Conversing party.channel) {move : PartyMove}
    (moved : party.act? move = some acted) : ∃ replies, party.Acts acted replies := by
  cases move with
  | deliver =>
      simp only [act?] at moved
      split at moved
      · cases moved
      · rename_i text rest incoming
        cases moved
        obtain ⟨still, waiting, sent⟩ := conversing.receive text
        refine ⟨[], still, ?_, nofun, ?_, ?_⟩
        · exact (congrFun sent party.channel).trans (List.append_nil _).symm
        · simp only [owed, incoming, waiting, List.countP_append, List.countP_cons,
            PeerMessage.countP_asks, List.length_nil]
          omega
        · simp only [work, incoming, waiting, List.map_append, List.sum_append, List.map_cons,
            List.sum_cons, PeerMessage.work, List.length_nil]
          omega
  | handle =>
      simp only [act?] at moved
      split at moved
      · cases moved
      · rename_i item rest waiting
        cases moved
        have answered := QueuedCall.Answered.handle conversing waiting
        have left := (conversing.handle waiting).2.1
        refine ⟨_, answered.conversing, answered.sent, answered.final, ?_, ?_⟩
        · have balance := answered.balance
          rw [List.countP_nil] at balance
          simp only [owed]
          omega
        · simp only [work, left, waiting, List.map_cons, List.sum_cons, WorkItem.work]
          split
          · simp only [List.length_singleton]
            omega
          · simp only [List.length_nil]
            omega

/-- A side has something to do as long as there is work. -/
theorem rests (deliver : party.act? .deliver = none) (handle : party.act? .handle = none) :
    party.incoming = [] ∧ party.queued.waiting = [] := by
  simp only [act?] at deliver handle
  constructor
  · split at deliver
    · rename_i none
      exact none
    · cases deliver
  · split at handle
    · rename_i none
      exact none
    · cases handle

/-- A side with more texts in flight to it. -/
def await (party : Party) (texts : List String) : Party :=
  { party with incoming := party.incoming ++ texts }

/-- States that ask for nothing leave what is owed. -/
theorem owed_await {replies : List StateReport}
    (final : ∀ reply ∈ replies, reply.requestState = false) :
    (party.await (replies.map StateReport.toText)).owed = party.owed := by
  have none : (replies.map StateReport.toText).countP PeerMessage.requests = 0 := by
    rw [List.countP_eq_zero]
    intro text member
    obtain ⟨reply, there, rfl⟩ := List.mem_map.mp member
    rw [PeerMessage.requests_toText, final reply there]
    exact Bool.false_ne_true
  simp only [owed, await, List.countP_append, none, Nat.add_zero]

/-- States that ask for nothing are taken in and make for two items each. -/
theorem work_await {replies : List StateReport}
    (final : ∀ reply ∈ replies, reply.requestState = false) :
    (party.await (replies.map StateReport.toText)).work = party.work + 3 * replies.length := by
  have each : ∀ work ∈ (replies.map StateReport.toText).map PeerMessage.work, work = 3 := by
    rw [List.map_map]
    exact List.forall_mem_map.mpr fun reply member => PeerMessage.work_toText (final reply member)
  have three := List.sum_eq_card_nsmul _ 3 each
  rw [List.length_map, List.length_map, Nat.nsmul_eq_mul] at three
  simp only [work, await, List.map_append, List.sum_append, three]
  omega

end Party

/-! ## Two sides -/

/-- One of two sides. -/
inductive Side where
  | left
  | right
  deriving Repr, DecidableEq

/-- The side at the other end. -/
def Side.other : Side → Side
  | .left => .right
  | .right => .left

/-- Two sides, whose channels are joined. -/
abbrev Exchange := Side → Party

namespace Exchange

/-- Two sides after a move of one of them, if it has something to do. What it sends is in
flight to the other from then on, behind what was in flight already. -/
def step? (exchange : Exchange) (move : Side × PartyMove) : Option Exchange :=
  ((exchange move.1).act? move.2).map fun acted side =>
    if side = move.1 then acted
    else (exchange side).await (acted.sent.drop (exchange move.1).sent.length)

/-- Two sides after some moves, if there is something to do for each of them. -/
def run? (exchange : Exchange) (moves : List (Side × PartyMove)) : Option Exchange :=
  moves.foldlM step? exchange

/-- What a number comes to for both sides together. -/
def total (exchange : Exchange) (count : Party → Nat) : Nat :=
  count (exchange .left) + count (exchange .right)

private theorem total_eq (exchange : Exchange) (count : Party → Nat) (side : Side) :
    exchange.total count = count (exchange side) + count (exchange side.other) := by
  cases side
  · rfl
  · exact Nat.add_comm ..

/-- Both sides converse. -/
def Joined (exchange : Exchange) : Prop :=
  ∀ side, (exchange side).queued.Conversing (exchange side).channel

/-- In a step one side moves, and what it sends comes in at the other end. -/
theorem exists_acts {before after : Exchange} (joined : before.Joined) {move : Side × PartyMove}
    (moved : before.step? move = some after) :
    ∃ replies, (before move.1).Acts (after move.1) replies ∧
      after move.1.other = (before move.1.other).await (replies.map StateReport.toText) := by
  obtain ⟨acted, done, rfl⟩ := Option.map_eq_some_iff.mp moved
  obtain ⟨replies, acts⟩ := Party.acts (joined move.1) done
  have apart : move.1.other ≠ move.1 := by cases move.1 <;> exact nofun
  have news : acted.sent.drop (before move.1).sent.length = replies.map StateReport.toText := by
    rw [acts.sent, List.drop_left]
  refine ⟨replies, ?_, ?_⟩
  · simp only [↓reduceIte]
    exact acts
  · simp only [if_neg apart, news]

/-- Two sides made some steps: so much work is done, each message that was sent answers what
was owed, and none of them asks for anything. -/
structure Advanced (before after : Exchange) (steps : Nat) : Prop where
  joined : after.Joined
  work : after.total Party.work + steps = before.total Party.work
  balance : (after.total fun party => party.sent.length) + after.total Party.owed =
    (before.total fun party => party.sent.length) + before.total Party.owed
  sent : ∀ side, ∃ replies : List StateReport,
    (after side).sent = (before side).sent ++ replies.map StateReport.toText ∧
      ∀ reply ∈ replies, reply.requestState = false

namespace Advanced

variable {before between after : Exchange} {steps more : Nat}

private theorem refl (joined : before.Joined) : before.Advanced before 0 :=
  ⟨joined, rfl, rfl, fun _ => ⟨[], (List.append_nil _).symm, nofun⟩⟩

private theorem trans (earlier : before.Advanced between steps)
    (later : between.Advanced after more) :
    before.Advanced after (steps + more) where
  joined := later.joined
  work := by
    have first := earlier.work
    have second := later.work
    omega
  balance := later.balance.trans earlier.balance
  sent side := by
    obtain ⟨replies, sent, final⟩ := earlier.sent side
    obtain ⟨others, sentLater, finalLater⟩ := later.sent side
    refine ⟨replies ++ others, ?_, fun reply member => ?_⟩
    · rw [sentLater, sent, List.map_append, List.append_assoc]
    · exact (List.mem_append.mp member).elim (final reply) (finalLater reply)

/-- A step of one side does away with one move, whatever it sends. -/
theorem step (joined : before.Joined) {move : Side × PartyMove}
    (moved : before.step? move = some after) : before.Advanced after 1 := by
  obtain ⟨side, move⟩ := move
  obtain ⟨replies, acts, awaits⟩ := exists_acts joined moved
  dsimp only at acts awaits
  have either {motive : Side → Prop} (here : motive side) (there : motive side.other)
      (current : Side) : motive current := by
    cases side <;> cases current <;> assumption
  have sent : (after side.other).sent = (before side.other).sent := by rw [awaits]; rfl
  have owed : (after side.other).owed = (before side.other).owed := by
    rw [awaits, Party.owed_await acts.final]
  have work : (after side.other).work = (before side.other).work + 3 * replies.length := by
    rw [awaits, Party.work_await acts.final]
  have length : (after side).sent.length = (before side).sent.length + replies.length := by
    rw [acts.sent, List.length_append, List.length_map]
  have actsOwed := acts.owed
  have actsWork := acts.work
  refine ⟨either acts.conversing ?_, ?_, ?_, either ⟨replies, acts.sent, acts.final⟩ ?_⟩
  · rw [awaits]
    exact joined side.other
  · rw [total_eq _ _ side, total_eq _ _ side]
    omega
  · simp only [total_eq _ _ side, sent]
    omega
  · exact ⟨[], sent.trans (List.append_nil _).symm, nofun⟩

/-- The work that is left after some steps. -/
theorem run (joined : before.Joined) {moves : List (Side × PartyMove)}
    (ran : before.run? moves = some after) : before.Advanced after moves.length := by
  induction moves generalizing before with
  | nil =>
      cases ran
      exact .refl joined
  | cons move rest ih =>
      obtain ⟨between, moved, later⟩ := Option.bind_eq_some_iff.mp ran
      have first := step joined moved
      rw [List.length_cons, Nat.add_comm]
      exact first.trans (ih first.joined later)

end Advanced

/-- When neither side has anything to do, nothing is in flight and nothing waits. -/
theorem rests {exchange : Exchange} (stuck : ∀ move, exchange.step? move = none) (side : Side) :
    (exchange side).incoming = [] ∧ (exchange side).queued.waiting = [] :=
  Party.rests (Option.map_eq_none_iff.mp (stuck (side, .deliver)))
    (Option.map_eq_none_iff.mp (stuck (side, .handle)))

/-- The texts that are in flight to either side. -/
def inFlight (exchange : Exchange) : Nat := exchange.total fun party => party.incoming.length

/-- The requests among them. -/
def requests (exchange : Exchange) : Nat :=
  exchange.total fun party => party.incoming.countP PeerMessage.requests

/-- The texts that either side sent. -/
def sends (exchange : Exchange) : Nat := exchange.total fun party => party.sent.length

/-- Two calls that converse on joined channels and have nothing to handle. Anything may be in
flight between them. -/
structure Quiet (exchange : Exchange) : Prop where
  converses : ∀ side, (exchange side).queued.call.Converses (exchange side).channel
  idle : ∀ side, (exchange side).queued.waiting = []

namespace Quiet

variable {exchange : Exchange}

private theorem joined (quiet : exchange.Quiet) : exchange.Joined := fun side =>
  ⟨(quiet.converses side).ready, (quiet.converses side).accepts, by simp [quiet.idle side]⟩

/-- What is owed at first is what is asked for in flight. -/
theorem owed (quiet : exchange.Quiet) : exchange.total Party.owed = exchange.requests := by
  simp only [total, requests, Party.owed, quiet.idle, List.countP_nil, Nat.add_zero]

/-- The work at first is that of the texts in flight. -/
theorem work_le (quiet : exchange.Quiet) :
    exchange.total Party.work ≤ 7 * exchange.inFlight := by
  have bound (texts : List String) : (texts.map PeerMessage.work).sum ≤ texts.length * 7 := by
    have each : ∀ work ∈ texts.map PeerMessage.work, work ≤ 7 :=
      List.forall_mem_map.mpr fun text _ => PeerMessage.work_le text
    have bound := List.sum_le_card_nsmul _ 7 each
    rwa [List.length_map] at bound
  have left := bound (exchange .left).incoming
  have right := bound (exchange .right).incoming
  simp only [total, inFlight, Party.work, quiet.idle, List.map_nil, List.sum_nil, Nat.add_zero]
  omega

end Quiet

/-- A call that converses answers each request for its state once, with a state that is not a
request, and sends nothing else, whatever comes in and whenever its items are handled. So two
such calls that do nothing but take in what the other sends come to rest, in whichever order
that happens: they make so many moves at most, send one message at most for each request that
was in flight at first, and exactly one for each when neither can go on, which is when nothing
is in flight and nothing waits. -/
theorem requests_answered_once :
    (∀ (call : Call) (id : ChannelId), call.Converses id → ∀ moves : List QueuedCall.TalkMove,
      let reached := (QueuedCall.idle call).run (moves.map (QueuedCall.TalkMove.move id))
      let drained := reached.run (List.replicate reached.waiting.length .handle)
      drained.waiting = [] ∧ ∃ replies : List StateReport,
        drained.call.toParts.sentOn id =
          call.toParts.sentOn id ++ replies.map StateReport.toText ∧
        replies.length =
          (moves.filterMap QueuedCall.TalkMove.text?).countP PeerMessage.requests ∧
        ∀ reply ∈ replies, reply.requestState = false) ∧
    ∀ exchange : Exchange, exchange.Quiet → ∀ moves after, exchange.run? moves = some after →
      moves.length ≤ 7 * exchange.inFlight ∧
      after.sends ≤ exchange.sends + exchange.requests ∧
      (∀ side, ∃ replies : List StateReport,
        (after side).sent = (exchange side).sent ++ replies.map StateReport.toText ∧
          ∀ reply ∈ replies, reply.requestState = false) ∧
      ((∀ move, after.step? move = none) →
        (∀ side, (after side).incoming = [] ∧ (after side).queued.waiting = []) ∧
          after.sends = exchange.sends + exchange.requests) := by
  constructor
  · intro call id converses moves
    exact (QueuedCall.conversing_idle converses).answers_requests rfl moves
  · intro exchange quiet moves after ran
    have advanced := Advanced.run quiet.joined ran
    have work := advanced.work
    have bound := quiet.work_le
    have balance : after.sends + after.total Party.owed = exchange.sends + exchange.requests :=
      quiet.owed ▸ advanced.balance
    refine ⟨by omega, by omega, advanced.sent, fun stuck => ?_⟩
    have settled : after.total Party.owed = 0 := by
      simp only [total, Party.owed, rests stuck, List.countP_nil, Nat.add_zero]
    exact ⟨rests stuck, by omega⟩

/-- A call that opened a channel when its peer joined. -/
def greeted : Call := Call.equipped.run [.item (.peer .userJoined)]

private theorem converses_greeted : greeted.Converses 0 where
  reached := ⟨Call.equipped, [.item (.peer .userJoined)], Call.begins_equipped, by simp, rfl⟩
  running := nofun
  accepts := rfl

/-- A request for state. -/
def request : String := (⟨true, false, false⟩ : StateReport).toText

/-- Two such calls, one of which is asked for its state. -/
def asked : Exchange
  | .left => ⟨.idle greeted, 0, [request]⟩
  | .right => ⟨.idle greeted, 0, []⟩

/-- The request is taken in, the items that it makes for are handled, and so is the answer. -/
def answered : List (Side × PartyMove) :=
  [(.left, .deliver), (.left, .handle), (.right, .deliver), (.left, .handle), (.right, .handle),
    (.right, .handle), (.left, .handle)]

/-- A call answers a request that comes in with one state. Between two calls a request makes
for one message and seven moves. -/
theorem requests_answered_once_asked :
    let reached := (QueuedCall.idle greeted).run [.event (.channelMessage 0 request)]
    let drained := reached.run (List.replicate reached.waiting.length .handle)
    greeted.Converses 0 ∧ asked.Quiet ∧
      (∃ reply : StateReport, reply.requestState = false ∧
        drained.call.toParts.sentOn 0 = greeted.toParts.sentOn 0 ++ [reply.toText]) ∧
      ∃ after, asked.run? answered = some after ∧
        7 ≤ 7 * asked.inFlight ∧ after.sends ≤ asked.sends + asked.requests := by
  intro reached drained
  have quiet : asked.Quiet := by
    constructor
    · intro side
      cases side <;> exact converses_greeted
    · intro side
      cases side <;> rfl
  obtain ⟨single, pair⟩ := requests_answered_once
  refine ⟨converses_greeted, quiet, ?_, ?_⟩
  · obtain ⟨_, replies, sent, count, final⟩ := single greeted 0 converses_greeted [.receive request]
    have once : [request].countP PeerMessage.requests = 1 := by
      rw [List.countP_singleton, request, PeerMessage.requests_toText]
      rfl
    obtain ⟨reply, rfl⟩ := List.length_eq_one_iff.mp (count.trans once)
    exact ⟨reply, final reply (List.mem_singleton_self _), sent⟩
  · have possible : (asked.run? answered).isSome = true := by decide +kernel
    obtain ⟨after, ran⟩ := Option.isSome_iff_exists.mp possible
    obtain ⟨bound, sends, _⟩ := pair asked quiet answered after ran
    exact ⟨after, ran, bound, sends⟩

end Exchange

end CallControl
