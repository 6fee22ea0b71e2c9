import CallControl.TaskHeap

/-! # Task loops

A task loop owns a state and runs tasks against it one at a time. Tasks arrive in a
mailbox and run in the order of their arrival; a delayed task waits beside the
mailbox until its deadline and runs only when the mailbox is empty; of those that are
due one with the earliest deadline runs first. A request to stop
ends the loop when its turn comes, and so does a task that breaks off: whatever is
still waiting is dropped, and so is everything sent later.

A loop moves by single steps (`TaskLoop.step?`, `TaskLoop.advance`). The clock counts
milliseconds and moves only when the loop has nothing to do (`TaskLoop.drive`), so
that a run is determined by what is sent and when.
-/

namespace CallControl

/-- What is asked of a loop through a handle to it. -/
inductive Order (Task : Type) where
  | run (task : Task)
  /-- Run a task once so many milliseconds have passed. -/
  | runAfter (delay : Nat) (task : Task)
  | stop
  deriving Repr, DecidableEq

/-- What a loop finds in its mailbox; a delayed task carries its deadline. -/
inductive Letter (Task : Type) where
  | run (task : Task)
  | hold (deadline : Nat) (task : Task)
  | stop
  deriving Repr, DecidableEq

/-- What running a task leaves: the new state, what the task asked of its own loop,
and whether it broke off. -/
structure Turn (Task State : Type) where
  state : State
  orders : List (Order Task)
  crashed : Bool
  deriving Repr

/-- A loop with its state. -/
structure TaskLoop (Task State : Type) where
  state : State
  running : Bool
  clock : Nat
  /-- What has arrived, oldest first. -/
  mailbox : List (Letter Task)
  /-- The heap of the tasks held back with their deadlines, in the order in which they were
  put in. -/
  delayed : List (Nat × Task)
  deriving Repr

namespace TaskLoop

variable {Task State : Type}

/-- A loop that has just started, with a state and nothing to do. -/
def start (state : State) : TaskLoop Task State := ⟨state, true, 0, [], []⟩

/-- The letter that an order becomes at a time. -/
def letterAt (clock : Nat) : Order Task → Letter Task
  | .run task => .run task
  | .runAfter delay task => .hold (clock + delay) task
  | .stop => .stop

/-- A loop with an order sent to it; a loop that has ended drops it. -/
def post (loop : TaskLoop Task State) (order : Order Task) : TaskLoop Task State :=
  if loop.running then { loop with mailbox := loop.mailbox ++ [letterAt loop.clock order] }
  else loop

/-- A loop with orders sent to it one after the other. -/
def postAll (loop : TaskLoop Task State) (orders : List (Order Task)) : TaskLoop Task State :=
  orders.foldl post loop

/-- A loop that has ended: whatever was waiting is gone. -/
def halt (loop : TaskLoop Task State) : TaskLoop Task State :=
  { loop with running := false, mailbox := [], delayed := [] }

/-- A loop after a task it ran. -/
def finish (loop : TaskLoop Task State) (turn : Turn Task State) : TaskLoop Task State :=
  let loop := { loop with state := turn.state }
  if turn.crashed then loop.halt else loop.postAll turn.orders

/-- The next step of a loop: the oldest letter, or with an empty mailbox a greatest
task held back if it is due, of several the one that was put in first. There is none when
the loop has ended or has nothing to do yet. -/
def step? (perform : Task → State → Turn Task State) (loop : TaskLoop Task State) :
    Option (TaskLoop Task State) :=
  if loop.running then
    match loop.mailbox with
    | .run task :: rest => some ({ loop with mailbox := rest }.finish (perform task loop.state))
    | .hold deadline task :: rest =>
        some { loop with mailbox := rest, delayed := loop.delayed ++ [(deadline, task)] }
    | .stop :: _ => some loop.halt
    | [] =>
        match popGreatest? 0 loop.delayed with
        | some ((deadline, task), later) =>
            if deadline ≤ loop.clock then
              some ({ loop with delayed := later }.finish (perform task loop.state))
            else none
        | none => none
  else none

/-- A loop after so many steps, or after as many as there are. -/
def advance (perform : Task → State → Turn Task State) :
    Nat → TaskLoop Task State → TaskLoop Task State
  | 0, loop => loop
  | count + 1, loop =>
      match loop.step? perform with
      | some next => advance perform count next
      | none => loop

/-- A loop after every letter that lies in its mailbox now. -/
def clearMailbox (perform : Task → State → Turn Task State) (loop : TaskLoop Task State) :
    TaskLoop Task State :=
  loop.advance perform loop.mailbox.length

/-- The earliest deadline of a task held back, if the loop still runs. -/
def nextDeadline? (loop : TaskLoop Task State) : Option Nat :=
  if loop.running then (popGreatest? 0 loop.delayed).map fun popped => popped.1.1 else none

/-- A time lies within a horizon; without a horizon every time does. -/
def within (horizon : Option Nat) (time : Nat) : Bool :=
  match horizon with
  | none => true
  | some last => time ≤ last

/-- A loop after at most so many steps, where the clock moves on to the next deadline
within the horizon whenever there is nothing else to do. -/
def drive (perform : Task → State → Turn Task State) (horizon : Option Nat) :
    Nat → TaskLoop Task State → TaskLoop Task State
  | 0, loop => loop
  | fuel + 1, loop =>
      match loop.step? perform with
      | some next => drive perform horizon fuel next
      | none =>
          match loop.nextDeadline? with
          | some deadline =>
              if within horizon deadline then
                drive perform horizon fuel { loop with clock := max loop.clock deadline }
              else loop
          | none => loop

/-- A loop after at most so many steps at its present time. -/
def settle (perform : Task → State → Turn Task State) (fuel : Nat)
    (loop : TaskLoop Task State) : TaskLoop Task State :=
  drive perform (some loop.clock) fuel loop

/-- A loop after at most so many steps, with every task held back waited for. -/
def runUntilIdle (perform : Task → State → Turn Task State) (fuel : Nat)
    (loop : TaskLoop Task State) : TaskLoop Task State :=
  drive perform none fuel loop

/-- A loop after some milliseconds, with at most so many steps in between. -/
def elapse (perform : Task → State → Turn Task State) (fuel milliseconds : Nat)
    (loop : TaskLoop Task State) : TaskLoop Task State :=
  let later := loop.clock + milliseconds
  { drive perform (some later) fuel loop with clock := later }

/-- A loop that has ended drops what is sent to it. -/
theorem post_of_not_running {loop : TaskLoop Task State} (ended : loop.running = false)
    (order : Order Task) : loop.post order = loop := by
  simp [post, ended]

/-- A loop that has ended takes no step. -/
theorem advance_of_not_running (perform : Task → State → Turn Task State)
    {loop : TaskLoop Task State} (ended : loop.running = false) (count : Nat) :
    loop.advance perform count = loop := by
  cases count with
  | zero => rfl
  | succ count => simp [advance, step?, ended]

end TaskLoop

end CallControl
