import CallControl.TaskLoop

/-! # A task loop at work

Seen closely a task takes a while: it gives its loop one order after the other and only
then is done or breaks off, and meanwhile others send orders as well and time passes
(`LoopAtWork.step`). A step of a loop is a task that is not interrupted
(`LoopAtWork.exists_run_step`), so whatever a loop does by itself is such a run
(`LoopAtWork.exists_run_drive`).
-/

namespace CallControl

variable {Task State : Type}

/-- What a loop takes up. -/
inductive Taken (Task : Type) where
  /-- The oldest letter, a task to run at once. -/
  | atOnce (task : Task)
  /-- The oldest letter, a task that it holds back. -/
  | aside
  /-- A task held back whose deadline has come. -/
  | due (task : Task)
  | stop
  deriving Repr, DecidableEq

/-- The task that runs when a loop takes something up. -/
def Taken.task? : Taken Task → Option Task
  | .atOnce task => some task
  | .due task => some task
  | .aside => none
  | .stop => none

/-- What a loop takes up next, together with the loop that is left; a number says which of
the tasks held back that compare alike its heap gives out. -/
def TaskLoop.take? (choice : Nat) (loop : TaskLoop Task State) :
    Option (Taken Task × TaskLoop Task State) :=
  if loop.running then
    match loop.mailbox with
    | .run task :: rest => some (.atOnce task, { loop with mailbox := rest })
    | .hold deadline task :: rest =>
        some (.aside, { loop with
          mailbox := rest, delayed := loop.delayed ++ [(deadline, task)] })
    | .stop :: _ => some (.stop, loop.halt)
    | [] =>
        match popGreatest? choice loop.delayed with
        | some ((deadline, task), later) =>
            if deadline ≤ loop.clock then some (.due task, { loop with delayed := later }) else none
        | none => none
  else none

/-- A loop that has ended takes nothing up. -/
theorem TaskLoop.take?_of_not_running {loop : TaskLoop Task State}
    (ended : loop.running = false) (choice : Nat) : loop.take? choice = none := by
  unfold TaskLoop.take?
  rw [if_neg]
  exact Bool.eq_false_iff.mp ended

/-- What is sent to a running loop goes to the back of its mailbox. -/
theorem TaskLoop.post_of_running {loop : TaskLoop Task State} (running : loop.running = true)
    (order : Order Task) :
    loop.post order = { loop with mailbox := loop.mailbox ++ [letterAt loop.clock order] } :=
  if_pos running

/-- What is sent to a running loop at once goes to the back of its mailbox in order. -/
theorem TaskLoop.postAll_of_running {loop : TaskLoop Task State}
    (running : loop.running = true) (orders : List (Order Task)) :
    loop.postAll orders =
      { loop with mailbox := loop.mailbox ++ orders.map (letterAt loop.clock) } := by
  unfold postAll
  induction orders generalizing loop with
  | nil => rw [List.map_nil, List.append_nil, List.foldl_nil]
  | cons order rest ih =>
      rw [List.foldl_cons, post_of_running running]
      refine Eq.trans (ih ?_) ?_
      · exact running
      · rw [List.append_assoc]
        rfl

/-- What is sent to a loop goes behind what lies in its mailbox, as long as the loop runs. -/
theorem TaskLoop.postAll_eq (loop : TaskLoop Task State) (orders : List (Order Task)) :
    loop.postAll orders = { loop with
      mailbox := loop.mailbox ++
        if loop.running then orders.map (letterAt loop.clock) else [] } := by
  cases running : loop.running with
  | true =>
      rw [postAll_of_running running, running, if_pos rfl]
  | false =>
      have dropped : loop.postAll orders = loop := by
        unfold postAll
        induction orders with
        | nil => rfl
        | cons order rest ih => rw [List.foldl_cons, post_of_not_running running, ih]
      rw [dropped, if_neg Bool.false_ne_true, List.append_nil, ← running]

/-- Sending several orders leaves the state of a loop alone. -/
theorem TaskLoop.state_postAll (loop : TaskLoop Task State) (orders : List (Order Task)) :
    (loop.postAll orders).state = loop.state := by
  rw [postAll_eq]

/-- Sending several orders neither starts nor ends a loop. -/
theorem TaskLoop.running_postAll (loop : TaskLoop Task State) (orders : List (Order Task)) :
    (loop.postAll orders).running = loop.running := by
  rw [postAll_eq]

/-- Sending an order leaves the state of a loop alone. -/
theorem TaskLoop.state_post (loop : TaskLoop Task State) (order : Order Task) :
    (loop.post order).state = loop.state :=
  loop.state_postAll [order]

/-- Sending an order neither starts nor ends a loop. -/
theorem TaskLoop.running_post (loop : TaskLoop Task State) (order : Order Task) :
    (loop.post order).running = loop.running :=
  loop.running_postAll [order]

/-- A loop with the task that it runs, if it runs one: what the task leaves, and the
orders that it has still to give. -/
structure LoopAtWork (Task State : Type) where
  loop : TaskLoop Task State
  busy : Option (Turn Task State)

/-- What can happen to a loop at work. -/
inductive LoopMove (Task : Type) where
  /-- An order is sent from outside. -/
  | order (order : Order Task)
  | wait (milliseconds : Nat)
  /-- The loop takes something up, or the task that it runs goes on. The number says which of
  several tasks held back the heap gives out. -/
  | turn (choice : Nat)
  /-- Nobody is left who could send anything, and nothing is on its way. -/
  | abandon
  deriving Repr

namespace LoopAtWork

/-- A loop that runs no task. -/
def idle (loop : TaskLoop Task State) : LoopAtWork Task State := ⟨loop, none⟩

/-- A task going on: it gives its next order, or is done. -/
def carryOn (loop : TaskLoop Task State) (turn : Turn Task State) : LoopAtWork Task State :=
  match turn.orders with
  | order :: rest => ⟨loop.post order, some { turn with orders := rest }⟩
  | [] =>
      let loop := { loop with state := turn.state }
      idle (if turn.crashed then loop.halt else loop)

/-- A loop taking something up. -/
def takeUp (perform : Task → State → Turn Task State) (choice : Nat)
    (loop : TaskLoop Task State) : LoopAtWork Task State :=
  match loop.take? choice with
  | some (taken, rest) => ⟨rest, taken.task?.map fun task => perform task rest.state⟩
  | none => idle loop

/-- A loop at work after a move. -/
def step (perform : Task → State → Turn Task State) (work : LoopAtWork Task State) :
    LoopMove Task → LoopAtWork Task State
  | .order order => { work with loop := work.loop.post order }
  | .wait milliseconds =>
      { work with loop := { work.loop with clock := work.loop.clock + milliseconds } }
  | .turn choice =>
      match work.busy with
      | some turn => carryOn work.loop turn
      | none => takeUp perform choice work.loop
  | .abandon =>
      if work.busy.isNone && work.loop.mailbox.isEmpty then idle work.loop.halt else work

/-- A loop at work after some moves. -/
def run (perform : Task → State → Turn Task State) (work : LoopAtWork Task State)
    (moves : List (LoopMove Task)) : LoopAtWork Task State :=
  moves.foldl (step perform) work

variable {perform : Task → State → Turn Task State}

@[simp] theorem run_nil (work : LoopAtWork Task State) : work.run perform [] = work := rfl

@[simp] theorem run_cons (work : LoopAtWork Task State) (move : LoopMove Task)
    (moves : List (LoopMove Task)) :
    work.run perform (move :: moves) = (work.step perform move).run perform moves := rfl

/-- A run can be made in two goes. -/
theorem run_append (work : LoopAtWork Task State) (earlier later : List (LoopMove Task)) :
    work.run perform (earlier ++ later) = (work.run perform earlier).run perform later :=
  List.foldl_append ..

/-! ## A loop left to itself -/

/-- A step takes something up and lets its task finish. -/
theorem step?_eq_take? (loop : TaskLoop Task State) :
    loop.step? perform = (loop.take? 0).map fun taken =>
      taken.1.task?.elim taken.2 fun task => taken.2.finish (perform task taken.2.state) := by
  obtain ⟨state, running, clock, mailbox, delayed⟩ := loop
  cases running with
  | false => rfl
  | true =>
      cases mailbox with
      | cons letter rest => cases letter <;> rfl
      | nil =>
          simp only [TaskLoop.step?, TaskLoop.take?, ↓reduceIte]
          cases popGreatest? 0 delayed with
          | none => rfl
          | some popped =>
              obtain ⟨⟨deadline, task⟩, later⟩ := popped
              by_cases due : deadline ≤ clock
              · simp only [due, ↓reduceIte]
                rfl
              · simp only [due, ↓reduceIte]
                rfl

private theorem halt_post (loop : TaskLoop Task State) (order : Order Task) (state : State) :
    ({ loop.post order with state } : TaskLoop Task State).halt =
      ({ loop with state } : TaskLoop Task State).halt := by
  unfold TaskLoop.post
  split <;> rfl

private theorem post_state (loop : TaskLoop Task State) (order : Order Task) (state : State) :
    ({ loop.post order with state } : TaskLoop Task State) =
      ({ loop with state } : TaskLoop Task State).post order := by
  unfold TaskLoop.post
  split <;> rfl

private theorem finish_cons (loop : TaskLoop Task State) (state : State) (order : Order Task)
    (rest : List (Order Task)) (crashed : Bool) :
    loop.finish ⟨state, order :: rest, crashed⟩ =
      (loop.post order).finish ⟨state, rest, crashed⟩ := by
  unfold TaskLoop.finish
  cases crashed with
  | true => exact (halt_post loop order state).symm
  | false =>
      simp only [Bool.false_eq_true, ↓reduceIte]
      rw [post_state]
      rfl

/-- A task that is not interrupted finishes. -/
theorem run_busy (loop : TaskLoop Task State) (turn : Turn Task State) :
    LoopAtWork.run perform ⟨loop, some turn⟩ (List.replicate (turn.orders.length + 1) (.turn 0)) =
      idle (loop.finish turn) := by
  obtain ⟨state, orders, crashed⟩ := turn
  induction orders generalizing loop with
  | nil => rfl
  | cons order rest ih =>
      rw [finish_cons, ← ih]
      rfl

/-- What a loop does in one step it also does in some moves. -/
theorem exists_run_step {loop next : TaskLoop Task State}
    (stepped : loop.step? perform = some next) :
    ∃ count, (idle loop).run perform (List.replicate count (.turn 0)) = idle next := by
  rw [step?_eq_take?] at stepped
  obtain ⟨⟨taken, rest⟩, took, same⟩ := Option.map_eq_some_iff.mp stepped
  have first : (idle loop).step perform (.turn 0) =
      ⟨rest, taken.task?.map fun task => perform task rest.state⟩ := by
    change takeUp perform 0 loop = _
    unfold takeUp
    rw [took]
  cases starting : taken.task? with
  | none =>
      simp only [starting, Option.elim_none] at same
      refine ⟨1, ?_⟩
      rw [List.replicate_one, run_cons, first, starting, ← same]
      rfl
  | some task =>
      simp only [starting, Option.elim_some] at same
      refine ⟨(perform task rest.state).orders.length + 1 + 1, ?_⟩
      rw [List.replicate_succ, run_cons, first, starting, ← same]
      exact run_busy rest (perform task rest.state)

/-- What a loop does when it is driven it also does in some moves. -/
theorem exists_run_drive (horizon : Option Nat) (fuel : Nat) (loop : TaskLoop Task State) :
    ∃ moves, (idle loop).run perform moves = idle (loop.drive perform horizon fuel) := by
  induction fuel generalizing loop with
  | zero => exact ⟨[], rfl⟩
  | succ fuel ih =>
      unfold TaskLoop.drive
      cases stepped : loop.step? perform with
      | some next =>
          obtain ⟨count, reached⟩ := exists_run_step stepped
          obtain ⟨moves, rest⟩ := ih next
          refine ⟨List.replicate count (.turn 0) ++ moves, ?_⟩
          rw [run_append, reached]
          exact rest
      | none =>
          dsimp only
          split
          · rename_i deadline _
            split
            · obtain ⟨moves, rest⟩ := ih { loop with clock := max loop.clock deadline }
              refine ⟨.wait (deadline - loop.clock) :: moves, ?_⟩
              have clock : loop.clock + (deadline - loop.clock) = max loop.clock deadline := by
                omega
              rw [run_cons, ← rest]
              simp only [step, idle, clock]
            · exact ⟨[], rfl⟩
          · exact ⟨[], rfl⟩

end LoopAtWork

end CallControl
