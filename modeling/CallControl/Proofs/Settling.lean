import Mathlib.Algebra.Order.BigOperators.Group.List
import Mathlib.Algebra.Order.Ring.Nat
import CallControl.Proofs.Sessions

/-! # A session left to its queue

Each step of a session's queue does away with a part of what there is to do
(`Session.Turns.load_lt`): a task raises at most one item, and only an item for the link to the
peer raises any. So the steps that a session is given to settle are enough to empty its queue
(`Session.AtWork.settle`).
-/

namespace CallControl

/-! ## What there is to do -/

/-- The steps that an item can take: one for the link to the peer may raise a signal. -/
def WorkItem.steps : WorkItem → Nat
  | .peer _ => 2
  | _ => 1

/-- The steps that a task of the queue can take. -/
def QueueTask.steps : QueueTask CallTask → Nat
  | .item raised => raised.steps
  | _ => 1

/-- The steps that a letter can take: a task is held back in one and runs in another. -/
def Letter.steps : Letter (QueueTask CallTask) → Nat
  | .run task => task.steps
  | .hold _ _ => 2
  | .stop => 1

/-- The steps that the letters and tasks that wait can take. -/
def Session.load (session : Session) : Nat :=
  (session.queue.loop.mailbox.map Letter.steps).sum + session.queue.loop.delayed.length

private theorem WorkItem.steps_bounds (item : WorkItem) : 1 ≤ item.steps ∧ item.steps ≤ 2 := by
  unfold steps
  split <;> decide

private theorem QueueTask.steps_bounds (task : QueueTask CallTask) :
    1 ≤ task.steps ∧ task.steps ≤ 2 := by
  unfold steps
  split
  · exact WorkItem.steps_bounds _
  · decide

private theorem Letter.steps_bounds (letter : Letter (QueueTask CallTask)) :
    1 ≤ letter.steps ∧ letter.steps ≤ 2 := by
  unfold steps
  split
  · exact QueueTask.steps_bounds _
  · decide
  · decide

/-- A session is given more steps to settle than it can take. -/
theorem Session.load_le (session : Session) : session.load ≤ session.workload := by
  have each : ∀ steps ∈ session.queue.loop.mailbox.map Letter.steps, steps ≤ 2 :=
    List.forall_mem_map.mpr fun letter _ => letter.steps_bounds.2
  have bound := List.sum_le_card_nsmul _ 2 each
  rw [List.length_map, Nat.nsmul_eq_mul] at bound
  unfold load workload
  omega

/-! ## What a task raises -/

private theorem PeerConnection.length_tells (connection : PeerConnection) (item : PeerItem) :
    (connection.tells item).length ≤ 1 := by
  unfold tells
  split
  · split <;> simp
  · split <;> simp
  · simp

private theorem Parts.length_tells (parts : Parts) (item : PeerItem) :
    (parts.tells item).length ≤ 1 := by
  unfold tells
  cases parts.peerConnection? with
  | none => exact Nat.zero_le 1
  | some current => exact current.2.length_tells item

namespace Call

variable {call : Call} {id : ConnectionId}

/-- The steps that some items can take when they wait in the queue. -/
def stepsOf (items : List WorkItem) : Nat := ((items.map WorkItem.letter).map Letter.steps).sum

private theorem stepsOf_signals (signals : List Signal) :
    stepsOf (signals.map WorkItem.signal) = signals.length := by
  induction signals with
  | nil => rfl
  | cons signal rest ih => exact (congrArg (1 + ·) ih).trans (Nat.add_comm ..)

/-- What an item raises takes fewer steps than the item: only one for the link to the peer raises
anything, and that is one signal at most. -/
theorem Steady.stepsOf_item (steady : call.Steady id) (item : WorkItem) :
    stepsOf (call.raisedSince (call.move (.item item))) < item.steps := by
  have nothing {after : Call} (silent : call.raisedSince after = []) :
      stepsOf (call.raisedSince after) < item.steps := by
    rw [silent]
    exact item.steps_bounds.1
  rw [steady.move_item item]
  rcases steady with ready | ⟨finished, _⟩
  · cases ends : call.ends (.item item) with
    | true =>
        rw [ready.route_of_ends ends]
        exact nothing (raisedSince_of_dispatched call.dispatched_endCall)
    | false =>
        have raised := QueuedCall.raisedSince_of_raises (ready.keeps_route ends).raises
        cases item with
        | signal signal => exact nothing raised
        | coordinator item => exact nothing raised
        | peer item =>
            rw [raised]
            refine Nat.lt_succ_of_le (Nat.le_trans (Nat.le_of_eq (stepsOf_signals _)) ?_)
            exact call.toParts.length_tells item
  · rw [route_of_ended finished]
    exact nothing (raisedSince_of_dispatched rfl)

/-- A task that the owner asked for raises nothing. -/
theorem Steady.raisedSince_task (steady : call.Steady id) (task : CallTask) :
    call.raisedSince (call.move (.task task)) = [] := by
  rw [steady.move_task task]
  rcases steady with ready | ⟨finished, _⟩
  · cases ends : call.ends (.task task) with
    | true =>
        rw [ready.runTask_of_ends ends]
        exact raisedSince_of_dispatched call.dispatched_endCall
    | false => exact QueuedCall.raisedSince_of_raises (ready.keeps_runTask ends).raises
  · rw [runTask_of_ended finished]
    exact raisedSince_of_dispatched rfl

private theorem Steady.stepsOf_task (steady : call.Steady id) (task : QueueTask CallTask) :
    stepsOf (call.raisedSince (task.leaves call)) < task.steps := by
  cases task with
  | item item => exact steady.stepsOf_item item
  | task task =>
      have nothing : call.raisedSince (QueueTask.leaves call (.task task)) = [] :=
        steady.raisedSince_task task
      rw [nothing]
      exact Nat.zero_lt_one
  | marker number =>
      have nothing : call.raisedSince (QueueTask.leaves call (.marker number)) = [] :=
        raisedSince_of_dispatched rfl
      rw [nothing]
      exact Nat.zero_lt_one

end Call

/-! ## Steps of the queue -/

namespace Session

variable {session : Session} {id : ConnectionId}

/-- The time that a session has been running for, in milliseconds. -/
def clock (session : Session) : Nat := session.queue.loop.clock

private theorem load_extend (session : Session) (state : QueueState Call) (items : List WorkItem) :
    (session.extend state (items.map WorkItem.letter)).load =
      session.load + Call.stepsOf items := by
  simp only [load, extend, withLoop, List.map_append, List.sum_append]
  exact Nat.add_right_comm ..

/-- A step of the queue leaves less to do, at the same time. -/
theorem Turns.load_lt (work : session.AtWork id) {move : Option QueueMove} {after : Session}
    (turns : session.Turns move after) :
    after.load < session.load ∧ after.clock = session.clock := by
  cases turns with
  | run task rest reached mailbox =>
      have lighter := work.steady.stepsOf_task task
      refine ⟨?_, rfl⟩
      rw [load_extend]
      simp only [load, withLoop, mailbox, List.map_cons, List.sum_cons, Letter.steps]
      omega
  | aside deadline task rest mailbox =>
      refine ⟨?_, rfl⟩
      simp only [load, withLoop, mailbox, List.map_cons, List.sum_cons, List.length_append,
        List.length_singleton, Letter.steps]
      omega
  | due deadline task later reached delayed due =>
      have lighter := work.steady.stepsOf_task task
      have single : task.steps = 1 := by
        have itemless := work.delayed (deadline, task) (delayed.mem_iff.mpr List.mem_cons_self)
        cases task with
        | item item => exact (itemless item rfl).elim
        | _ => rfl
      refine ⟨?_, rfl⟩
      rw [load_extend]
      simp only [load, withLoop, delayed.length_eq, List.length_cons]
      omega

/-- A session that has no more to do than so many steps empties its queue in them, while its
clock stands still. -/
theorem AtWork.drive_now (work : session.AtWork id) {fuel : Nat} (enough : session.load ≤ fuel) :
    ∃ count, session.withLoop (session.queue.loop.drive Call.handler.perform (some session.clock)
        fuel) = session.run (List.replicate count .turn) ∧
      (session.run (List.replicate count .turn)).queue.loop.mailbox = [] := by
  induction fuel generalizing session with
  | zero =>
      refine ⟨0, rfl, ?_⟩
      cases mailbox : session.queue.loop.mailbox with
      | nil => exact mailbox
      | cons letter rest =>
          have some := letter.steps_bounds.1
          simp only [load, mailbox, List.map_cons, List.sum_cons] at enough
          omega
  | succ fuel ih =>
      unfold TaskLoop.drive
      rcases work.turn_cases with ⟨idle, _, empty, early⟩ | ⟨next, stepped, turns⟩
      · -- The clock would move on to a deadline only if it had come already.
        refine ⟨0, ?_, empty⟩
        rw [idle]
        dsimp only
        split
        · rename_i deadline found
          have late : ¬ TaskLoop.within (some session.clock) deadline = true := fun inside =>
            Nat.not_le_of_lt (early deadline found) (of_decide_eq_true inside)
          rw [if_neg late]
          rfl
        · rfl
      · obtain ⟨less, same⟩ := turns.load_lt work
        obtain ⟨count, reached, empty⟩ := ih (turns.queued work).1 (by omega)
        rw [same] at reached
        refine ⟨count + 1, ?_, ?_⟩
        · rw [stepped, List.replicate_succ, run, List.foldl_cons, step_turn_of_some stepped]
          exact reached
        · rw [List.replicate_succ, run, List.foldl_cons, step_turn_of_some stepped]
          exact empty

/-- Settling is a run of steps of the queue, and it empties the queue. -/
theorem AtWork.settle (work : session.AtWork id) :
    ∃ count, session.settle = session.run (List.replicate count .turn) ∧
      session.settle.queue.loop.mailbox = [] := by
  obtain ⟨count, reached, empty⟩ := work.drive_now session.load_le
  rw [← reached] at empty
  exact ⟨count, reached, empty⟩

end Session

end CallControl
