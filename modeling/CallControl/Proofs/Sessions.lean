import CallControl.Proofs.LoopAtWork
import CallControl.Proofs.QueuedCall

/-! # A session until it is hung up

A session keeps its call on a work queue, among whose letters the items wait that the
links of the call raised. To the call, what happens to the session is what can happen to a
call whose items wait: the loop of the queue hands it the item that has waited longest or
runs a task, or does something that the call does not notice (`Session.queued_step`). So
what holds of a call however long its items wait holds of the call of a session
(`Session.queued_run`).
-/

namespace CallControl

/-! ## Breaking off -/

/-- Without a break there is nothing to recover from. -/
theorem Parts.recover_of_uncrashed {parts : Parts} (uncrashed : parts.platform.crashed = false) :
    parts.recover = parts := by
  unfold recover
  rw [← uncrashed]

namespace Call

variable {call : Call} {id : ConnectionId}

/-- Ending a call shuts the gate at most: it raises nothing, and so nothing breaks off. -/
theorem voice_endCall (call : Call) :
    ∃ gate, call.endCall.toParts.voice = { call.toParts.voice with gate } := by
  have released : call.releaseRelay.toParts.voice = call.toParts.voice := by
    unfold releaseRelay
    split
    · exact Parts.voice_cleanUpRelay call.toParts
    · rfl
  unfold endCall
  split
  · exact ⟨call.peer.gate, rfl⟩
  · refine ⟨call.releaseRelay.peer.gate.close, ?_⟩
    rw [voice_setLifecycle, Parts.voice_cleanUpPeer, ← released]
    rfl

private theorem crashed_endCall (call : Call) :
    call.endCall.platform.crashed = call.platform.crashed := by
  obtain ⟨_, same⟩ := call.voice_endCall
  exact congrArg Parts.Voice.crashed same

/-- Ending a call raises nothing. -/
theorem dispatched_endCall (call : Call) :
    call.endCall.platform.dispatched = call.platform.dispatched := by
  obtain ⟨_, same⟩ := call.voice_endCall
  exact congrArg Parts.Voice.dispatched same

/-- Nothing breaks off when the call handles something: it is over, or loses nothing that
is raised. -/
def Steady (call : Call) (id : ConnectionId) : Prop :=
  call.Ready id ∨ call.lifecycle = .ended ∧ call.platform.crashed = false

namespace Steady

private theorem uncrashed (steady : call.Steady id) : call.platform.crashed = false :=
  steady.elim (fun ready => ready.calm.uncrashed) And.right

private theorem uncrashed_route (steady : call.Steady id) (item : WorkItem) :
    (call.route item).platform.crashed = false := by
  rcases steady with ready | ⟨finished, uncrashed⟩
  · cases ends : call.ends (.item item) with
    | true =>
        rw [ready.route_of_ends ends, crashed_endCall]
        exact ready.calm.uncrashed
    | false => exact (ready.keeps_route ends).raises.calm.uncrashed
  · rw [route_of_ended finished]
    exact uncrashed

private theorem uncrashed_runTask (steady : call.Steady id) (task : CallTask) :
    (call.runTask task).platform.crashed = false := by
  rcases steady with ready | ⟨finished, uncrashed⟩
  · cases ends : call.ends (.task task) with
    | true =>
        rw [ready.runTask_of_ends ends, crashed_endCall]
        exact ready.calm.uncrashed
    | false => exact (ready.keeps_runTask ends).raises.calm.uncrashed
  · rw [runTask_of_ended finished]
    exact uncrashed

/-- An item breaks nothing off in a steady call. -/
theorem move_item (steady : call.Steady id) (item : WorkItem) :
    call.move (.item item) = call.route item := by
  simp only [move, withParts, Parts.recover_of_uncrashed (steady.uncrashed_route item)]

/-- A task breaks nothing off in a steady call. -/
theorem move_task (steady : call.Steady id) (task : CallTask) :
    call.move (.task task) = call.runTask task := by
  simp only [move, withParts, Parts.recover_of_uncrashed (steady.uncrashed_runTask task)]

private theorem move (steady : call.Steady id) (move : CallMove)
    (unarmed : ∀ traps, move ≠ .adjust (.trap traps)) : (call.move move).Steady id := by
  have uncrashed : (call.move move).platform.crashed = false := by
    cases move with
    | item item => rfl
    | task task => rfl
    | event occurrence =>
        simp only [Call.move, withParts]
        rcases Parts.undergo_cases call.toParts occurrence with same | same
        · rw [same]
          exact steady.uncrashed
        · rw [same]
          rfl
    | adjust adjustment =>
        cases adjustment <;> exact steady.uncrashed
  rcases steady with ready | ⟨finished, _⟩
  · cases ends : call.ends move with
    | true => exact Or.inr ⟨ready.ended_of_ends ends, uncrashed⟩
    | false => exact Or.inl (ready.proceeds ends unarmed).ready
  · exact Or.inr ⟨lifecycle_move_of_ended finished move, uncrashed⟩

end Steady

end Call

/-! ## Letters and tasks of the queue -/

/-- The letter that brings an item. -/
def WorkItem.letter (item : WorkItem) : Letter (QueueTask CallTask) := .run (.item item)

/-- The item that a letter brings. -/
def Letter.item? : Letter (QueueTask CallTask) → Option WorkItem
  | .run (.item item) => some item
  | _ => none

/-- A letter does not end the queue, and it holds back no item. -/
def Letter.Ordinary : Letter (QueueTask CallTask) → Prop
  | .run _ => True
  | .hold _ task => ∀ item, task ≠ .item item
  | .stop => False

/-- The call that a task of the queue leaves. -/
def QueueTask.leaves (call : Call) : QueueTask CallTask → Call
  | .item raised => call.move (.item raised)
  | .task asked => call.move (.task asked)
  | .marker _ => call

/-- What a task of the queue is to a call whose items wait. -/
def QueueTask.queueMove? : QueueTask CallTask → Option QueueMove
  | .item _ => some .handle
  | .task asked => some (.task asked)
  | .marker _ => none

private theorem ordinary_letters (items : List WorkItem) :
    ∀ letter ∈ items.map WorkItem.letter, letter.Ordinary := by
  intro letter member
  obtain ⟨_, _, rfl⟩ := List.mem_map.mp member
  trivial

private theorem filterMap_letter (items : List WorkItem) :
    (items.map WorkItem.letter).filterMap Letter.item? = items := by
  rw [List.filterMap_map]
  exact List.filterMap_some

/-- Items are put into a queue one behind the other. -/
theorem WorkQueue.dispatchAll_eq (queue : WorkQueue CallTask Call) (items : List WorkItem) :
    queue.dispatchAll items =
      { queue with loop := queue.loop.postAll (items.map fun item => .run (.item item)) } := by
  unfold dispatchAll
  induction items generalizing queue with
  | nil => rfl
  | cons item rest ih => exact ih (queue.dispatch item)

/-- A queue takes each item that is dispatched to it behind the letters that it has. -/
theorem WorkQueue.dispatchAll_of_running (queue : WorkQueue CallTask Call)
    (running : queue.loop.running = true) (items : List WorkItem) :
    queue.dispatchAll items =
      { queue with loop :=
        { queue.loop with mailbox := queue.loop.mailbox ++ items.map WorkItem.letter } } := by
  rw [dispatchAll_eq, TaskLoop.postAll_of_running running, List.map_map]
  rfl

/-- Whoever runs a task of the queue on a steady call does not break off. -/
theorem perform_of_steady {id : ConnectionId} {state : QueueState Call}
    (steady : state.owner.Steady id) (task : QueueTask CallTask) :
    ∃ reached, Call.handler.perform task state =
      ⟨⟨task.leaves state.owner, reached⟩,
        (state.owner.raisedSince (task.leaves state.owner)).map fun item => .run (.item item),
        false⟩ := by
  cases task with
  | item item =>
      have moved : state.owner.move (.item item) = state.owner.route item := steady.move_item item
      have whole := steady.uncrashed_route item
      refine ⟨state.reached, ?_⟩
      simp only [QueueHandler.perform, QueueHandler.turnOf, Call.handler, Call.handled,
        QueueTask.leaves, moved, whole]
  | task task =>
      have moved : state.owner.move (.task task) = state.owner.runTask task := steady.move_task task
      have whole := steady.uncrashed_runTask task
      refine ⟨state.reached, ?_⟩
      simp only [QueueHandler.perform, QueueHandler.turnOf, Call.handler, Call.handled,
        QueueTask.leaves, moved, whole]
  | marker number =>
      refine ⟨number :: state.reached, ?_⟩
      simp only [QueueHandler.perform, QueueTask.leaves, Call.raisedSince, List.drop_length,
        List.map_nil]

private theorem Call.Steady.leaves {call : Call} {id : ConnectionId} (steady : call.Steady id)
    (task : QueueTask CallTask) : (task.leaves call).Steady id := by
  cases task with
  | item item => exact steady.move (.item item) fun traps same => nomatch same
  | task task => exact steady.move (.task task) fun traps same => nomatch same
  | marker number => exact steady

/-! ## What can happen to a session -/

/-- What can happen to a session that is not hung up. -/
inductive SessionMove where
  | event (occurrence : Occurrence)
  | adjust (adjustment : Adjustment)
  /-- The owner asks something of the call. -/
  | ask (task : CallTask)
  /-- Somebody begins to wait until everything in the queue is handled. -/
  | mark
  /-- The loop of the queue takes a step, if it can. -/
  | turn
  | wait (milliseconds : Nat)
  deriving Repr

namespace Session

/-- A session with the loop of its queue changed. -/
def withLoop (session : Session)
    (loop : TaskLoop (QueueTask CallTask) (QueueState Call)) : Session :=
  ⟨{ session.queue with loop }⟩

/-- A session with the state of its queue changed and some letters put into it. -/
def extend (session : Session) (state : QueueState Call)
    (letters : List (Letter (QueueTask CallTask))) : Session :=
  session.withLoop
    { session.queue.loop with state, mailbox := session.queue.loop.mailbox ++ letters }

/-- A session after a move. -/
def step (session : Session) : SessionMove → Session
  | .event occurrence => session.occur (·.undergo occurrence)
  | .adjust adjustment => session.occur (·.adjust adjustment)
  | .ask task => session.enqueue task
  | .mark => ⟨session.queue.mark⟩
  | .turn => ((session.queue.loop.step? Call.handler.perform).map session.withLoop).getD session
  | .wait milliseconds =>
      session.withLoop
        { session.queue.loop with clock := session.queue.loop.clock + milliseconds }

/-- A session after some moves. -/
def run (session : Session) (moves : List SessionMove) : Session :=
  moves.foldl step session

/-- What a move of a session is to its call, whose items wait. -/
def queueMove? (session : Session) : SessionMove → Option QueueMove
  | .event occurrence => some (.event occurrence)
  | .adjust adjustment => some (.adjust adjustment)
  | .turn => (session.queue.loop.take? 0).bind fun taken => taken.1.task?.bind QueueTask.queueMove?
  | .ask _ | .mark | .wait _ => none

/-- What some moves of a session are to its call. -/
def queueMoves : Session → List SessionMove → List QueueMove
  | _, [] => []
  | session, move :: rest =>
      (session.queueMove? move).toList ++ queueMoves (session.step move) rest

/-- The call of a session with the items among the letters of its queue. -/
def queued (session : Session) : QueuedCall :=
  ⟨session.call, session.queue.loop.mailbox.filterMap Letter.item?⟩

/-- What a step of its queue makes of a session, and what that is to the call: a task that waited
longest or is due runs, and what it raises is put into the queue, or a task is held back. -/
inductive Turns (session : Session) : Option QueueMove → Session → Prop where
  | run (task : QueueTask CallTask) (rest : List (Letter (QueueTask CallTask)))
      (reached : List Nat) (mailbox : session.queue.loop.mailbox = .run task :: rest) :
      Turns session task.queueMove?
        ((session.withLoop { session.queue.loop with mailbox := rest }).extend
          ⟨task.leaves session.call, reached⟩
          ((session.call.raisedSince (task.leaves session.call)).map WorkItem.letter))
  | aside (deadline : Nat) (task : QueueTask CallTask) (rest : List (Letter (QueueTask CallTask)))
      (mailbox : session.queue.loop.mailbox = .hold deadline task :: rest) :
      Turns session none
        (session.withLoop { session.queue.loop with
          mailbox := rest
          delayed := session.queue.loop.delayed ++ [(deadline, task)] })
  | due (deadline : Nat) (task : QueueTask CallTask) (later : List (Nat × QueueTask CallTask))
      (reached : List Nat) (delayed : session.queue.loop.delayed.Perm ((deadline, task) :: later))
      (due : deadline ≤ session.queue.loop.clock) :
      Turns session task.queueMove?
        ((session.withLoop { session.queue.loop with delayed := later }).extend
          ⟨task.leaves session.call, reached⟩
          ((session.call.raisedSince (task.leaves session.call)).map WorkItem.letter))

/-- A session that is not hung up: its queue runs and is not about to end, and no item is
held back. -/
structure AtWork (session : Session) (id : ConnectionId) : Prop where
  running : session.queue.loop.running = true
  letters : ∀ letter ∈ session.queue.loop.mailbox, letter.Ordinary
  delayed : ∀ held ∈ session.queue.loop.delayed, (Letter.hold held.1 held.2).Ordinary
  steady : session.call.Steady id

section Steps

variable {session : Session} {id : ConnectionId}

private theorem AtWork.extend (work : session.AtWork id) {state : QueueState Call}
    (steady : state.owner.Steady id) (letters : List (Letter (QueueTask CallTask)))
    (ordinary : ∀ letter ∈ letters, letter.Ordinary) :
    (session.extend state letters).AtWork id ∧
      (session.extend state letters).queued =
        ⟨state.owner, session.queued.waiting ++ letters.filterMap Letter.item?⟩ := by
  refine ⟨⟨work.running, ?_, work.delayed, steady⟩, ?_⟩
  · intro letter member
    exact (List.mem_append.mp member).elim (work.letters letter) (ordinary letter)
  · exact congrArg (QueuedCall.mk state.owner) List.filterMap_append

/-- The call became another one, and what was raised was put into the queue. -/
theorem AtWork.raise (work : session.AtWork id) (state : QueueState Call)
    (steady : state.owner.Steady id) (items : List WorkItem) :
    (session.extend state (items.map WorkItem.letter)).AtWork id ∧
      (session.extend state (items.map WorkItem.letter)).queued =
        ⟨state.owner, session.queued.waiting ++ items⟩ := by
  have extended := work.extend steady _ (ordinary_letters items)
  rwa [filterMap_letter] at extended

/-- The links of the call were changed, and what they raised was put into the queue. -/
theorem AtWork.occur_eq (work : session.AtWork id) (change : Parts → Parts) :
    session.occur change =
      session.extend { session.queue.loop.state with owner := session.call.withParts change }
        ((session.call.raisedSince (session.call.withParts change)).map WorkItem.letter) :=
  congrArg Session.mk (WorkQueue.dispatchAll_of_running
    (session.queue.setOwner (session.call.withParts change)) work.running _)

private theorem AtWork.occur (work : session.AtWork id) (move : CallMove) (change : Parts → Parts)
    (moves : session.call.move move = session.call.withParts change)
    (unarmed : ∀ traps, move ≠ .adjust (.trap traps)) :
    (session.occur change).AtWork id ∧
      (session.occur change).queued = ⟨session.call.move move,
        session.queued.waiting ++ session.call.raisedSince (session.call.move move)⟩ := by
  have steady := work.steady.move move unarmed
  rw [work.occur_eq, ← moves]
  exact work.raise _ steady _

/-- A task was put into the queue that is no item. -/
theorem AtWork.post (work : session.AtWork id) (task : QueueTask CallTask)
    (itemless : (Letter.run task).item? = none) :
    (session.withLoop (session.queue.loop.post (.run task))).AtWork id ∧
      (session.withLoop (session.queue.loop.post (.run task))).queued = session.queued := by
  have posted : session.withLoop (session.queue.loop.post (.run task)) =
      session.extend session.queue.loop.state [.run task] :=
    congrArg session.withLoop (if_pos work.running)
  have ordinary : ∀ letter ∈ [Letter.run task], letter.Ordinary := by
    intro letter member
    rw [List.mem_singleton.mp member]
    trivial
  have extended := work.extend work.steady [.run task] ordinary
  rw [List.filterMap_cons_none itemless, List.filterMap_nil, List.append_nil] at extended
  rw [posted]
  exact extended

/-- A letter was taken out of the queue. -/
theorem AtWork.drop (work : session.AtWork id) {letter : Letter (QueueTask CallTask)}
    {rest : List (Letter (QueueTask CallTask))}
    (mailbox : session.queue.loop.mailbox = letter :: rest) :
    (session.withLoop { session.queue.loop with mailbox := rest }).AtWork id := by
  refine ⟨work.running, fun other member => ?_, work.delayed, work.steady⟩
  exact work.letters other (mailbox ▸ List.mem_cons_of_mem _ member)

/-- A task is no longer held back. -/
theorem AtWork.dropDelayed (work : session.AtWork id) {entry : Nat × QueueTask CallTask}
    {later : List (Nat × QueueTask CallTask)}
    (delayed : session.queue.loop.delayed.Perm (entry :: later)) :
    (session.withLoop { session.queue.loop with delayed := later }).AtWork id := by
  refine ⟨work.running, work.letters, fun held member => ?_, work.steady⟩
  exact work.delayed held (delayed.mem_iff.mpr (List.mem_cons_of_mem _ member))

/-- A task of the queue ran, and what it raised was put into the queue. -/
theorem AtWork.finish_eq (work : session.AtWork id) (task : QueueTask CallTask) :
    ∃ reached, session.withLoop (session.queue.loop.finish
        (Call.handler.perform task session.queue.loop.state)) =
      session.extend ⟨task.leaves session.call, reached⟩
        ((session.call.raisedSince (task.leaves session.call)).map WorkItem.letter) := by
  obtain ⟨reached, performs⟩ := perform_of_steady work.steady task
  refine ⟨reached, ?_⟩
  rw [performs]
  refine congrArg session.withLoop ((TaskLoop.postAll_of_running ?_ _).trans ?_)
  · exact work.running
  · rw [List.map_map]
    rfl

/-- The queue of a session at work has nothing to do now, or it takes a step. -/
theorem AtWork.turn_cases (work : session.AtWork id) :
    (session.queue.loop.step? Call.handler.perform = none ∧
      session.queueMove? .turn = none ∧ session.queue.loop.mailbox = [] ∧
      ∀ deadline ∈ session.queue.loop.nextDeadline?, session.queue.loop.clock < deadline) ∨
    ∃ next, session.queue.loop.step? Call.handler.perform = some next ∧
      session.Turns (session.queueMove? .turn) (session.withLoop next) := by
  have letters := work.letters
  rw [LoopAtWork.step?_eq_take?]
  simp only [queueMove?]
  unfold TaskLoop.take? TaskLoop.nextDeadline?
  rw [if_pos work.running, if_pos work.running]
  split
  · rename_i task rest mailbox
    obtain ⟨reached, finished⟩ := (work.drop mailbox).finish_eq task
    refine Or.inr ⟨_, rfl, ?_⟩
    exact finished ▸ Turns.run task rest reached mailbox
  · rename_i deadline task rest mailbox
    exact Or.inr ⟨_, rfl, .aside deadline task rest mailbox⟩
  · rename_i rest mailbox
    rw [mailbox] at letters
    exact (letters .stop List.mem_cons_self).elim
  · rename_i mailbox
    split
    · rename_i deadline task later popped
      have delayed := (popGreatest?_spec popped).1
      split
      · rename_i due
        obtain ⟨reached, finished⟩ := (work.dropDelayed delayed).finish_eq task
        refine Or.inr ⟨_, rfl, ?_⟩
        exact finished ▸ Turns.due deadline task later reached delayed due
      · rename_i early
        refine Or.inl ⟨rfl, rfl, mailbox, ?_⟩
        rw [popped]
        rintro _ ⟨⟩
        exact Nat.lt_of_not_le early
    · rename_i empty
      refine Or.inl ⟨rfl, rfl, mailbox, ?_⟩
      rw [empty]
      exact nofun

/-- The item that waited longest is handled, or a task runs, or nothing is noticed. -/
theorem queued_leaves (session : Session) (task : QueueTask CallTask) {rest : List WorkItem}
    (waits : session.queued.waiting = (Letter.run task).item?.toList ++ rest) :
    session.queued.run task.queueMove?.toList =
      ⟨task.leaves session.call,
        rest ++ session.call.raisedSince (task.leaves session.call)⟩ := by
  cases task with
  | item item =>
      exact QueuedCall.step_of_next (QueuedCall.next_handle waits)
  | task task =>
      have next : session.queued.next? (.task task) = some (.task task, rest) :=
        congrArg (fun waiting => some (CallMove.task task, waiting)) waits
      exact QueuedCall.step_of_next next
  | marker number =>
      simp only [QueueTask.queueMove?, QueueTask.leaves, Option.toList_none, QueuedCall.run_nil,
        Call.raisedSince, List.drop_length, List.append_nil]
      exact congrArg (QueuedCall.mk session.call) waits

/-- A queue with nothing to do stays as it is when it gets its turn. -/
theorem step_turn_of_none (idle : session.queue.loop.step? Call.handler.perform = none) :
    session.step .turn = session := by
  simp only [step, idle, Option.map_none, Option.getD_none]

/-- A queue with something to do takes its step when it gets its turn. -/
theorem step_turn_of_some {next : TaskLoop (QueueTask CallTask) (QueueState Call)}
    (stepped : session.queue.loop.step? Call.handler.perform = some next) :
    session.step .turn = session.withLoop next := by
  simp only [step, stepped, Option.map_some, Option.getD_some]

/-- What a step of the queue makes of a session is a move of the call. -/
theorem Turns.queued (work : session.AtWork id) {move : Option QueueMove} {after : Session}
    (turns : session.Turns move after) :
    after.AtWork id ∧ after.queued = session.queued.run move.toList := by
  have letters := work.letters
  have delayed := work.delayed
  cases turns with
  | run task rest reached mailbox =>
      obtain ⟨goesOn, same⟩ := (work.drop mailbox).raise ⟨task.leaves session.call, reached⟩
        (work.steady.leaves task) (session.call.raisedSince (task.leaves session.call))
      refine ⟨goesOn, same.trans (session.queued_leaves task ?_).symm⟩
      simp only [Session.queued, mailbox]
      cases task <;> rfl
  | aside deadline task rest mailbox =>
      have left := work.drop mailbox
      rw [mailbox] at letters
      refine ⟨⟨work.running, left.letters, ?_, work.steady⟩, ?_⟩
      · intro entry member
        rcases List.mem_append.mp member with earlier | last
        · exact delayed entry earlier
        · exact List.mem_singleton.mp last ▸ letters _ List.mem_cons_self
      · refine congrArg (QueuedCall.mk session.call) ?_
        rw [mailbox]
        rfl
  | due deadline task later reached held due =>
      obtain ⟨goesOn, same⟩ := (work.dropDelayed held).raise ⟨task.leaves session.call, reached⟩
        (work.steady.leaves task) (session.call.raisedSince (task.leaves session.call))
      refine ⟨goesOn, same.trans (session.queued_leaves task ?_).symm⟩
      have itemless := delayed _ (held.mem_iff.mpr List.mem_cons_self)
      cases task with
      | item item => exact (itemless item rfl).elim
      | task task => rfl
      | marker number => rfl

private theorem AtWork.turn (work : session.AtWork id) :
    (session.step .turn).AtWork id ∧
      (session.step .turn).queued = session.queued.run (session.queueMove? .turn).toList := by
  rcases work.turn_cases with ⟨idle, nothing, _⟩ | ⟨next, stepped, turns⟩
  · rw [step_turn_of_none idle, nothing]
    exact ⟨work, rfl⟩
  · rw [step_turn_of_some stepped]
    exact turns.queued work

/-- What happens to a session that is not hung up happens to a call whose items wait. -/
theorem queued_step (work : session.AtWork id) {move : SessionMove}
    (unarmed : ∀ traps, move ≠ .adjust (.trap traps)) :
    (session.step move).AtWork id ∧
      (session.step move).queued = session.queued.run (session.queueMove? move).toList := by
  cases move with
  | event occurrence =>
      exact work.occur (.event occurrence) (·.undergo occurrence) rfl fun traps same => nomatch same
  | adjust adjustment =>
      refine work.occur (.adjust adjustment) (·.adjust adjustment) rfl ?_
      rintro traps ⟨⟩
      exact unarmed traps rfl
  | ask task => exact work.post (.task task) rfl
  | mark =>
      obtain ⟨goesOn, same⟩ := work.post (.marker session.queue.nextMarker) rfl
      exact ⟨⟨goesOn.running, goesOn.letters, goesOn.delayed, goesOn.steady⟩, same⟩
  | turn => exact work.turn
  | wait milliseconds =>
      exact ⟨⟨work.running, work.letters, work.delayed, work.steady⟩, rfl⟩

/-- A session that is not hung up is a call whose items wait: whatever happens to the one
is a run of the other. -/
theorem queued_run (work : session.AtWork id) {moves : List SessionMove}
    (unarmed : ∀ traps, .adjust (.trap traps) ∉ moves) :
    (session.run moves).AtWork id ∧
      (session.run moves).queued = session.queued.run (session.queueMoves moves) := by
  unfold run
  induction moves generalizing session with
  | nil => exact ⟨work, rfl⟩
  | cons move rest ih =>
      obtain ⟨goesOn, stepped⟩ := queued_step work fun traps same =>
        unarmed traps (same ▸ List.mem_cons_self)
      obtain ⟨reached, ran⟩ := ih goesOn fun traps member =>
        unarmed traps (List.mem_cons_of_mem _ member)
      refine ⟨reached, ran.trans ?_⟩
      rw [stepped, ← QueuedCall.run_append]
      rfl

end Steps

/-- What the queue of a session does by itself is a run of steps and of waiting. -/
theorem exists_run_drive (session : Session) (horizon : Option Nat) (fuel : Nat) :
    ∃ moves, (∀ move ∈ moves, move = .turn ∨ ∃ milliseconds, move = .wait milliseconds) ∧
      session.run moves =
        session.withLoop (session.queue.loop.drive Call.handler.perform horizon fuel) := by
  induction fuel generalizing session with
  | zero => exact ⟨[], nofun, rfl⟩
  | succ fuel ih =>
      unfold TaskLoop.drive
      cases stepped : session.queue.loop.step? Call.handler.perform with
      | some next =>
          obtain ⟨moves, alone, reached⟩ := ih (session.withLoop next)
          refine ⟨.turn :: moves, ?_, ?_⟩
          · exact List.forall_mem_cons.mpr ⟨Or.inl rfl, alone⟩
          · have turned : session.step .turn = session.withLoop next := by
              simp only [step, stepped, Option.map_some, Option.getD_some]
            exact (congrArg (·.run moves) turned).trans reached
      | none =>
          dsimp only
          split
          · rename_i deadline _
            split
            · obtain ⟨moves, alone, reached⟩ := ih (session.withLoop
                { session.queue.loop with clock := max session.queue.loop.clock deadline })
              refine ⟨.wait (deadline - session.queue.loop.clock) :: moves, ?_, ?_⟩
              · exact List.forall_mem_cons.mpr ⟨Or.inr ⟨_, rfl⟩, alone⟩
              · have clock : session.queue.loop.clock + (deadline - session.queue.loop.clock) =
                    max session.queue.loop.clock deadline := by omega
                refine Eq.trans ?_ reached
                unfold run
                rw [List.foldl_cons]
                simp only [step, clock]
            · exact ⟨[], nofun, rfl⟩
          · exact ⟨[], nofun, rfl⟩

end Session

/-! ## The beginning -/

/-- A link that was set up has a peer connection. -/
theorem Parts.connection_of_initPeer {parts ready : Parts}
    (initialised : parts.initPeer = (.ok (), ready)) : ∃ id, ready.peer.connection = some id := by
  rcases parts.initPeer_cases with ⟨_, same, present⟩ | ⟨_, _, same⟩
  · cases same.symm.trans initialised
    exact present rfl
  · cases same.symm.trans initialised
    exact ⟨_, rfl⟩

private theorem Parts.connection_of_setUp {platform : Platform} {config : Config} {line : String}
    {parts : Parts} (ready : (setUp platform config line false true).1 = .ok parts) :
    ∃ id, parts.peer.connection = some id := by
  simp only [setUp, Bool.false_eq_true, ↓reduceIte] at ready
  split at ready
  · cases ready
  · split at ready
    · cases ready
    · rename_i initialised
      cases ready
      exact connection_of_initPeer initialised

namespace Session

/-- A session that was started is not hung up, and nothing waits for its call, which was
just set up. -/
theorem atWork_start {localStream : MediaStream} {tokens : TokenScript}
    {iceConfiguration : Except Failure IceConfiguration} {config : Config} {line : String}
    {session : Session}
    (started : start (.make localStream tokens iceConfiguration) config line = .running session) :
    ∃ id, session.call.Begins ∧ session.call.peer.connection = some id ∧ session.AtWork id ∧
      session.queued = .idle session.call := by
  unfold start at started
  split at started
  · cases started
  · rename_i parts _ setUp
    have ready := congrArg Prod.fst setUp
    have begins : (Call.ofParts parts line false).Begins := .setUp false ready
    obtain ⟨id, initialised⟩ := Parts.connection_of_setUp ready
    cases started
    refine ⟨id, begins, initialised, ⟨rfl, ?_, nofun, Or.inl (begins.ready initialised)⟩, rfl⟩
    intro letter member
    cases List.mem_singleton.mp member
    exact nofun

/-- What happens to a session from its start until it is hung up is a run of its call with
what waits for it, and so is what its queue then does by itself. -/
theorem queued_settle {localStream : MediaStream} {tokens : TokenScript}
    {iceConfiguration : Except Failure IceConfiguration} {config : Config} {line : String}
    {session : Session}
    (started : start (.make localStream tokens iceConfiguration) config line = .running session)
    {moves : List SessionMove} (unarmed : ∀ traps, .adjust (.trap traps) ∉ moves) :
    ∃ more, (session.run moves).settle.queued =
      (QueuedCall.idle session.call).run (session.queueMoves moves ++ more) := by
  obtain ⟨id, _, _, work, fresh⟩ := atWork_start started
  obtain ⟨goesOn, reached⟩ := queued_run work unarmed
  obtain ⟨alone, steps, settled⟩ :=
    (session.run moves).exists_run_drive (some (session.run moves).queue.loop.clock)
      (session.run moves).workload
  have harmless (traps : Bool) : SessionMove.adjust (.trap traps) ∉ alone := by
    intro member
    rcases steps _ member with same | ⟨_, same⟩
    · cases same
    · cases same
  refine ⟨(session.run moves).queueMoves alone, ?_⟩
  rw [QueuedCall.run_append, ← fresh, ← reached, ← (queued_run goesOn harmless).2, settled]
  rfl

end Session

end CallControl
