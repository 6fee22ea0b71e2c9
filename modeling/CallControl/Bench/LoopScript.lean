import CallControl.Failure
import CallControl.TaskLoop

/-! # Scripts for task loops

A script sends a loop tasks that append to a log and then send what they carry. Its
batches are sent as a whole before the first task of a batch runs, and after a batch
everything that waits is waited for.
-/

namespace CallControl.Bench

/-- An order of a script. -/
inductive LoopOrder where
  /-- Appends a text to the log, then sends further orders; perhaps with a delay. -/
  | append (delay : Option Nat) (text : String) (followUps : List LoopOrder)
  /-- Breaks off; perhaps with a delay. -/
  | crash (delay : Option Nat)
  | stop
  deriving Repr

/-- A task of a script. -/
inductive LogTask where
  | append (text : String) (followUps : List LoopOrder)
  | crash
  deriving Repr

/-- How the state of a loop comes about. -/
inductive StartOutcome where
  | succeeds
  | fails
  | crashes
  deriving Repr, DecidableEq

/-- Why a start does not succeed. -/
def StartOutcome.failure? (name : String) : StartOutcome → Option Failure
  | .succeeds => none
  | .fails => some (.call (.invalidConfig "test: nope"))
  | .crashes => some (.call (.actorStart name))

/-- A task sent with a delay or without. -/
def orderAfter {Task : Type} (delay : Option Nat) (task : Task) : Order Task :=
  match delay with
  | none => .run task
  | some milliseconds => .runAfter milliseconds task

/-- What a loop is sent for an order of a script. -/
def LoopOrder.order : LoopOrder → Order LogTask
  | .append delay text followUps => orderAfter delay (.append text followUps)
  | .crash delay => orderAfter delay .crash
  | .stop => .stop

/-- Running a task of a script against its log. -/
def performLog (task : LogTask) (log : List String) : Turn LogTask (List String) :=
  match task with
  | .append text followUps => ⟨log ++ [text], followUps.map LoopOrder.order, false⟩
  | .crash => ⟨log, [], true⟩

mutual

/-- How many orders an order amounts to with all that follows from it. -/
def LoopOrder.size : LoopOrder → Nat
  | .append _ _ followUps => LoopOrder.sizeAll followUps + 1
  | .crash _ => 1
  | .stop => 1

/-- How many orders some orders amount to. -/
def LoopOrder.sizeAll : List LoopOrder → Nat
  | [] => 0
  | order :: rest => order.size + LoopOrder.sizeAll rest

end

/-- How many orders a task amounts to with all that follows from it. -/
def LogTask.size : LogTask → Nat
  | .append _ followUps => LoopOrder.sizeAll followUps + 1
  | .crash => 1

/-- How many orders a letter amounts to with all that follows from it. -/
def letterSize : Letter LogTask → Nat
  | .run task => task.size
  | .hold _ task => task.size
  | .stop => 1

/-- How many steps a loop can still take with what waits in its mailbox and beside it:
each order arrives, may be held back and waited for, and runs. -/
def remainingSteps (loop : TaskLoop LogTask (List String)) : Nat :=
  3 * ((loop.mailbox.map letterSize).foldl Nat.add 0 +
    (loop.delayed.map fun entry => entry.2.size).foldl Nat.add 0)

/-- What a batch added to the log, and whether the loop still runs. -/
structure BatchReport where
  log : List String
  alive : Bool
  deriving Repr, DecidableEq

/-- The reports of some batches, where the log had so many entries before. -/
def runBatches (reported : Nat) (loop : TaskLoop LogTask (List String)) :
    List (List LoopOrder) → List BatchReport
  | [] => []
  | batch :: rest =>
      let sent := loop.postAll (batch.map LoopOrder.order)
      let idle := sent.runUntilIdle performLog (remainingSteps sent)
      ⟨idle.state.drop reported, idle.running⟩ :: runBatches idle.state.length idle rest

/-- The reports of a script: what is sent while the state comes about counts to the
first batch. -/
def runLoopScript (name : String) (outcome : StartOutcome) (atStart : List LoopOrder)
    (batches : List (List LoopOrder)) : Except Failure (List BatchReport) :=
  match outcome.failure? name with
  | some failure => .error failure
  | none =>
      let sent := (TaskLoop.start []).postAll (atStart.map LoopOrder.order)
      .ok (runBatches 0 (sent.settle performLog (remainingSteps sent)) batches)

end CallControl.Bench
