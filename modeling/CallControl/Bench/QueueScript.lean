import CallControl.Bench.Item
import CallControl.Bench.LoopScript
import CallControl.WorkQueue

/-! # Scripts for work queues

A script dispatches items to a queue whose owner reacts to items by dispatching
others and logs every item it handles. A marker or a stop waits for everything sent
before it; the rest of a batch is sent before any of it runs.
-/

namespace CallControl.Bench

/-- An order of a script, with its items built. -/
inductive QueueOrder where
  | dispatch (item : WorkItem)
  | log (delay : Option Nat) (text : String)
  | synchronize
  | stop
  deriving Repr

/-- The names of the items dispatched in reaction to an item, by its text. -/
abbrev Reactions := List (String × List String)

/-- The items dispatched in reaction to an item; unknown names are left out. -/
def reactionTo (reactions : Reactions) (item : WorkItem) : List WorkItem :=
  ((reactions.lookup item.display).getD []).filterMap fun name =>
    (buildItem name "\x7b\x7d").toOption

/-- The owner of a scripted queue: it logs items and texts. -/
def logHandler (reactions : Reactions) : QueueHandler String (List String) where
  handle item log := { state := log ++ [item.display], raised := reactionTo reactions item }
  run text log := { state := log ++ [text], raised := [] }

/-- A scripted queue. -/
abbrev LogQueue := WorkQueue String (List String)

/-- The number of steps that a script is given for what it sends. -/
def stepLimit : Nat := 1000000

/-- A queue after an order, with the result of waiting for a marker. -/
def runQueueOrder (handler : QueueHandler String (List String)) (queue : LogQueue) :
    QueueOrder → List (Except Failure Unit) × LogQueue
  | .dispatch item => ([], queue.dispatch item)
  | .log delay text => ([], queue.post (orderAfter delay (.task text)))
  | .synchronize =>
      let (result, synchronized) := queue.synchronize handler
      ([result], synchronized)
  | .stop => ([], (queue.settle handler stepLimit).stopAndJoin handler)

/-- A queue after the orders of a batch, with the results of its markers. -/
def runQueueOrders (handler : QueueHandler String (List String)) (queue : LogQueue) :
    List QueueOrder → List (Except Failure Unit) × LogQueue
  | [] => ([], queue)
  | order :: rest =>
      let (first, next) := runQueueOrder handler queue order
      let (others, last) := runQueueOrders handler next rest
      (first ++ others, last)

/-- What a batch logged, the results of its markers, and whether the queue runs. -/
structure QueueReport where
  log : List String
  results : List (Except Failure Unit)
  alive : Bool

/-- The reports of some batches, where the log had so many entries before. -/
def runQueueBatches (handler : QueueHandler String (List String)) (reported : Nat)
    (queue : LogQueue) : List (List QueueOrder) → List QueueReport
  | [] => []
  | batch :: rest =>
      let (results, sent) := runQueueOrders handler queue batch
      let idle := sent.runUntilIdle handler stepLimit
      ⟨idle.owner.drop reported, results, idle.running⟩ ::
        runQueueBatches handler idle.owner.length idle rest

/-- An order before its item is built. -/
inductive QueueOrderSpec where
  | dispatch (name json : String)
  | log (delay : Option Nat) (text : String)
  | synchronize
  | stop
  deriving Repr, DecidableEq

/-- The order of a description. -/
def QueueOrderSpec.build : QueueOrderSpec → Except Failure QueueOrder
  | .dispatch name json => (buildItem name json).map .dispatch
  | .log delay text => .ok (.log delay text)
  | .synchronize => .ok .synchronize
  | .stop => .ok .stop

/-- The reports of a script, or why it is rejected: a start that does not succeed
counts before an item that cannot be built. -/
def runQueueScript (name : String) (outcome : StartOutcome) (reactions : Reactions)
    (batches : List (List QueueOrderSpec)) : Except Failure (List QueueReport) :=
  match outcome.failure? name with
  | some failure => .error failure
  | none =>
      match batches.mapM fun batch => batch.mapM QueueOrderSpec.build with
      | .error failure => .error failure
      | .ok built => .ok (runQueueBatches (logHandler reactions) 0 (.start name []) built)

end CallControl.Bench
