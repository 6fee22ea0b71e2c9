import CallControl.Failure
import CallControl.TaskLoop
import CallControl.WorkItem

/-! # Work queues

A work queue is a named task loop whose tasks are work items, tasks of its owner, and
markers. Handling an item may raise further items, which go to the back of the queue.
A marker does nothing but record that its turn has come: whoever put it in knows then
that everything before it is handled (`WorkQueue.synchronize`).
-/

namespace CallControl

/-- A task of a work queue. -/
inductive QueueTask (Task : Type) where
  | item (item : WorkItem)
  | task (task : Task)
  | marker (number : Nat)
  deriving Repr

/-- What handling an item or running a task leaves: the new state, the items raised
meanwhile, in order, and whether the handling broke off. -/
structure Handled (State : Type) where
  state : State
  raised : List WorkItem
  crashed : Bool := false

/-- How the owner of a queue handles items and runs its own tasks. -/
structure QueueHandler (Task State : Type) where
  handle : WorkItem → State → Handled State
  run : Task → State → Handled State

/-- The state of a queue: its owner's and the markers reached, latest first. -/
structure QueueState (State : Type) where
  owner : State
  reached : List Nat
  deriving Repr

/-- A named queue with the number of its next marker. -/
structure WorkQueue (Task State : Type) where
  name : String
  loop : TaskLoop (QueueTask Task) (QueueState State)
  nextMarker : Nat
  /-- Nobody has taken the handle with which the end of the queue's thread is waited for. -/
  joinable : Bool
  deriving Repr

namespace QueueHandler

variable {Task State : Type}

/-- What the owner's part of a task leaves, with the raised items sent to the queue
itself. -/
def turnOf (state : QueueState State) (handled : Handled State) :
    Turn (QueueTask Task) (QueueState State) :=
  ⟨{ state with owner := handled.state }, handled.raised.map fun item => .run (.item item),
    handled.crashed⟩

/-- Running a task of the queue. -/
def perform (handler : QueueHandler Task State) (task : QueueTask Task)
    (state : QueueState State) : Turn (QueueTask Task) (QueueState State) :=
  match task with
  | .item item => turnOf state (handler.handle item state.owner)
  | .task own => turnOf state (handler.run own state.owner)
  | .marker number => ⟨{ state with reached := number :: state.reached }, [], false⟩

end QueueHandler

namespace WorkQueue

variable {Task State : Type}

/-- A queue that has just started. Its thread is assumed to start: that the system refuses the
thread is not modelled, nor is a name with a NUL in it, which no thread can have. -/
def start (name : String) (owner : State) : WorkQueue Task State :=
  ⟨name, .start ⟨owner, []⟩, 0, true⟩

/-- The owner of a queue. -/
def owner (queue : WorkQueue Task State) : State := queue.loop.state.owner

/-- A queue whose owner was changed from outside between two tasks. -/
def setOwner (queue : WorkQueue Task State) (owner : State) : WorkQueue Task State :=
  { queue with loop := { queue.loop with state := { queue.loop.state with owner } } }

/-- The queue takes tasks. -/
def running (queue : WorkQueue Task State) : Bool := queue.loop.running

/-- A queue with an order sent to it. -/
def post (queue : WorkQueue Task State) (order : Order (QueueTask Task)) : WorkQueue Task State :=
  { queue with loop := queue.loop.post order }

/-- A queue with an item dispatched to it. -/
def dispatch (queue : WorkQueue Task State) (item : WorkItem) : WorkQueue Task State :=
  queue.post (.run (.item item))

/-- A queue with items dispatched to it one after the other. -/
def dispatchAll (queue : WorkQueue Task State) (items : List WorkItem) : WorkQueue Task State :=
  items.foldl dispatch queue

/-- A queue with a task of its owner put in. -/
def enqueue (queue : WorkQueue Task State) (task : Task) : WorkQueue Task State :=
  queue.post (.run (.task task))

/-- A queue with a task of its owner put in for later. -/
def enqueueAfter (queue : WorkQueue Task State) (delay : Nat) (task : Task) :
    WorkQueue Task State :=
  queue.post (.runAfter delay (.task task))

/-- A queue after at most so many steps at its present time. -/
def settle (handler : QueueHandler Task State) (fuel : Nat) (queue : WorkQueue Task State) :
    WorkQueue Task State :=
  { queue with loop := queue.loop.settle handler.perform fuel }

/-- A queue after at most so many steps, with every delayed task waited for. -/
def runUntilIdle (handler : QueueHandler Task State) (fuel : Nat) (queue : WorkQueue Task State) :
    WorkQueue Task State :=
  { queue with loop := queue.loop.runUntilIdle handler.perform fuel }

/-- A queue after some milliseconds. -/
def elapse (handler : QueueHandler Task State) (fuel milliseconds : Nat)
    (queue : WorkQueue Task State) : WorkQueue Task State :=
  { queue with loop := queue.loop.elapse handler.perform fuel milliseconds }

/-- A queue with a marker put in. -/
def mark (queue : WorkQueue Task State) : WorkQueue Task State :=
  { queue.post (.run (.marker queue.nextMarker)) with nextMarker := queue.nextMarker + 1 }

/-- A queue after everything that waits in it now. -/
def clear (handler : QueueHandler Task State) (queue : WorkQueue Task State) :
    WorkQueue Task State :=
  { queue with loop := queue.loop.clearMailbox handler.perform }

/-- Waiting for a marker put in now: it succeeds when the marker's turn comes, and
fails when the queue ends before. -/
def synchronize (handler : QueueHandler Task State) (queue : WorkQueue Task State) :
    Except Failure Unit × WorkQueue Task State :=
  let cleared := queue.mark.clear handler
  if cleared.loop.state.reached.contains queue.nextMarker then (.ok (), cleared)
  else (.error (.call (.queueStopped queue.name)), cleared)

/-- A queue that was asked to stop, after everything that waited before. Only the first who
asks so waits for that: it takes the handle of the thread, and whoever finds none returns at
once. -/
def stopAndJoin (handler : QueueHandler Task State) (queue : WorkQueue Task State) :
    WorkQueue Task State :=
  let asked := queue.post .stop
  if queue.joinable then { asked with joinable := false }.clear handler else asked

end WorkQueue

end CallControl
