import CallControl.Call
import CallControl.WorkQueue

/-! # Sessions

A session runs a call on its own work queue. Starting it connects the relay and
creates the peer connection, or undoes whatever was done and fails with the first
reason (`Session.start`). From then on the items raised by the call's links and the
switches asked for from outside wait in the queue, and so does the connect timeout
until it is due. Hanging up ends the call behind everything that waits already and
then the queue.
-/

namespace CallControl

/-- What a session's owner asks of its call. -/
inductive CallTask where
  | setMic (enabled : Bool)
  | setVideo (enabled : Bool)
  | connectTimeout
  | endCall
  deriving Repr, DecidableEq

namespace Call

/-- The call after a task. -/
def runTask (call : Call) : CallTask → Call
  | .setMic enabled => call.setMic enabled
  | .setVideo enabled => call.setVideo enabled
  | .connectTimeout => call.connectTimeout
  | .endCall => call.endCall

/-- The items that were raised between two states of a call. -/
def raisedSince (before after : Call) : List WorkItem :=
  after.platform.dispatched.drop before.platform.dispatched.length

/-- What a change of a call leaves to its queue. -/
def handled (before after : Call) : Handled Call :=
  ⟨after, raisedSince before after, after.platform.crashed⟩

/-- How a queue handles the items and tasks of a call. -/
def handler : QueueHandler CallTask Call where
  handle item call := call.handled (call.route item)
  run task call := call.handled (call.runTask task)

end Call

/-- A call on its work queue. -/
structure Session where
  queue : WorkQueue CallTask Call

/-- What came of starting a session. -/
inductive SessionStart where
  | running (session : Session)
  /-- The start failed and left these parts. -/
  | failed (failure : Failure) (parts : Parts)

namespace Parts

/-- The links of a call set up: the relay is connected, and the peer connection is
created if that is asked for. Without the latter the former is given up again. -/
def setUp (platform : Platform) (config : Config) (line : String) (unheeding negotiates : Bool) :
    Except Failure Parts × Parts :=
  let bare : Parts := ⟨platform, .unconnected, .make config.dataChannelLabel⟩
  let connected := if unheeding then .ok bare.connectUnheeding else bare.connectRelay config line
  match connected with
  | .error failure => (.error failure, bare)
  | .ok connected =>
      if negotiates then
        match connected.initPeer with
        | (.error failure, tried) => (.error failure, tried.cleanUpRelay.cleanUpPeer)
        | (.ok (), ready) => (.ok ready, ready)
      else (.ok connected, connected)

end Parts

namespace Session

/-- The name of the queue of a line's call. -/
def queueName (line : String) : String := "call-" ++ line

/-- A session for a line on a platform, with the timeout put in for later. Its call
is observed. The thread of its queue is assumed to start (`WorkQueue.start`), so the id of the
line holds no NUL. -/
def start (platform : Platform) (config : Config) (line : String) : SessionStart :=
  match Parts.setUp platform config line false true with
  | (.error failure, parts) => .failed failure parts
  | (.ok parts, _) =>
      .running ⟨(WorkQueue.start (queueName line) (.ofParts parts line false)).enqueueAfter
        config.connectTimeoutMs.toNat .connectTimeout⟩

/-- The call of a session. -/
def call (session : Session) : Call := session.queue.owner

/-- The session has not been hung up. -/
def running (session : Session) : Bool := session.queue.running

/-- How many steps the letters and tasks that wait can take: an item for the link to
the peer may raise one signal, and nothing else raises anything. -/
def workload (session : Session) : Nat :=
  4 * (session.queue.loop.mailbox.length + session.queue.loop.delayed.length) + 4

/-- A session whose queue has done all that it can do at the present time. -/
def settle (session : Session) : Session :=
  ⟨session.queue.settle Call.handler session.workload⟩

/-- A session after something happened on its platform; the items raised are put
into the queue. -/
def occur (session : Session) (change : Parts → Parts) : Session :=
  let before := session.call
  let after : Call := { before with toParts := change before.toParts }
  ⟨(session.queue.setOwner after).dispatchAll (before.raisedSince after)⟩

/-- A session with a task for its call put into the queue. -/
def enqueue (session : Session) (task : CallTask) : Session :=
  ⟨session.queue.enqueue task⟩

/-- A session after some milliseconds. -/
def elapse (session : Session) (milliseconds : Nat) : Session :=
  ⟨session.queue.elapse Call.handler session.workload milliseconds⟩

/-- Waiting until everything that is in the queue now is handled. -/
def synchronize (session : Session) : Except Failure Unit × Session :=
  let (result, queue) := session.queue.synchronize Call.handler
  (result, ⟨queue⟩)

/-- The call as it is when everything that is in the queue now is handled. -/
def inspect (session : Session) : Except Failure Call :=
  match session.synchronize with
  | (.ok (), synchronized) => .ok synchronized.call
  | (.error _, _) => .error (.call (.queueStopped session.call.line))

/-- A session that was hung up: the call is ended behind everything in the queue,
the queue ends, and the call is let go of. If somebody else waits for that already, both are
only asked for. -/
def hangUp (session : Session) : Session :=
  let stopped := (session.enqueue .endCall).queue.stopAndJoin Call.handler
  if stopped.running then ⟨stopped⟩
  else ⟨stopped.setOwner { stopped.owner with toParts := stopped.owner.release }⟩

end Session

end CallControl
