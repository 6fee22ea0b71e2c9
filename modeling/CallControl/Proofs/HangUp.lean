import CallControl.Proofs.Barriers
import CallControl.Proofs.Observer
import CallControl.Proofs.Sessions

/-! # Hanging up

Hanging up puts the end of the call behind everything that waits for it and then asks the
queue to stop. Between the two and afterwards everything else goes on (`ClosingMove`). What
waited runs first, then the call ends (`Session.Closing`), and the queue ends when its
letters have had their turns (`Session.Stopping`). Then nothing runs any more and whoever
waits for the queue is told so (`Session.hung_up`). With the barriers of any queue these are
the guarantees of waiting (`barriers_hold`).
-/

namespace CallControl

/-- What can happen to a session whether it is being hung up or not. -/
inductive ClosingMove where
  | goesOn (move : SessionMove)
  /-- The queue is asked to stop. -/
  | stop
  /-- Somebody takes the handle of the queue's thread, to wait for its end. -/
  | join
  deriving Repr

/-- What a move is to the call, if it is anything before the queue takes a step. -/
def ClosingMove.callMove? : ClosingMove → Option CallMove
  | .goesOn (.event occurrence) => some (.event occurrence)
  | .goesOn (.adjust adjustment) => some (.adjust adjustment)
  | _ => none

/-- What a task of the queue is to the call. -/
def QueueTask.callMove? : QueueTask CallTask → Option CallMove
  | .item handled => some (.item handled)
  | .task asked => some (.task asked)
  | .marker _ => none

namespace Session

/-- The handle of the queue's thread has not been taken. -/
def joinable (session : Session) : Bool := session.queue.joinable

/-- A session after a move, which may be a request to stop. -/
def close (session : Session) : ClosingMove → Session
  | .goesOn move => session.step move
  | .stop => ⟨session.queue.post .stop⟩
  | .join => ⟨{ session.queue with joinable := false }⟩

/-- A session after some moves, requests to stop among them. -/
def closeRun (session : Session) (moves : List ClosingMove) : Session :=
  moves.foldl close session

/-- The task that runs in a move, with what it leaves. -/
def performs? (session : Session) :
    ClosingMove → Option (QueueTask CallTask × Turn (QueueTask CallTask) (QueueState Call))
  | .goesOn .turn => (session.queue.loop.take? 0).bind fun taken =>
      taken.1.task?.map fun task => (task, Call.handler.perform task taken.2.state)
  | _ => none

/-- The tasks that run in some moves, with what they leave. -/
def performed : Session → List ClosingMove →
    List (QueueTask CallTask × Turn (QueueTask CallTask) (QueueState Call))
  | _, [] => []
  | session, move :: moves =>
      (session.performs? move).toList ++ performed (session.close move) moves

/-- What a move is to the call: the task that runs, or what comes from outside. -/
def callMove? (session : Session) (move : ClosingMove) : Option CallMove :=
  match session.performs? move with
  | some done => done.1.callMove?
  | none => move.callMove?

variable {session : Session}

/-! ## One move -/

/-- A step of the queue does nothing, or takes a letter up, or runs a task. -/
theorem turn_cases (session : Session) :
    (session.queue.loop.take? 0 = none ∧ session.step .turn = session ∧
      session.performs? (.goesOn .turn) = none) ∨
    (∃ taken rest, session.queue.loop.take? 0 = some (taken, rest) ∧ taken.task? = none ∧
      session.step .turn = session.withLoop rest ∧ session.performs? (.goesOn .turn) = none) ∨
    ∃ taken rest task, session.queue.loop.take? 0 = some (taken, rest) ∧ taken.task? = some task ∧
      session.step .turn =
        session.withLoop (rest.finish (Call.handler.perform task session.queue.loop.state)) ∧
      session.performs? (.goesOn .turn) =
        some (task, Call.handler.perform task session.queue.loop.state) := by
  simp only [step, performs?, LoopAtWork.step?_eq_take?]
  cases took : session.queue.loop.take? 0 with
  | none => exact Or.inl ⟨rfl, rfl, rfl⟩
  | some pair =>
      obtain ⟨taken, rest⟩ := pair
      have same := LoopAtWork.take?_state took
      right
      cases starting : taken.task? with
      | none =>
          refine Or.inl ⟨taken, rest, rfl, starting, ?_, ?_⟩
          · simp only [Option.map_some, starting, Option.elim_none, Option.getD_some]
          · simp only [Option.bind_some, starting, Option.map_none]
      | some task =>
          refine Or.inr ⟨taken, rest, task, rfl, starting, ?_, ?_⟩
          · simp only [Option.map_some, starting, Option.elim_some, Option.getD_some, same]
          · simp only [Option.bind_some, starting, Option.map_some, same]

/-- The links of the call were changed, and what they raised was sent to the queue. -/
theorem occur_eq (session : Session) (change : Parts → Parts) :
    session.occur change = session.withLoop
      (TaskLoop.postAll { session.queue.loop with
        state := { session.queue.loop.state with owner := session.call.withParts change } }
        ((session.call.raisedSince (session.call.withParts change)).map fun item =>
          .run (.item item))) :=
  congrArg Session.mk (WorkQueue.dispatchAll_eq _ _)

private theorem call_occur (session : Session) (change : Parts → Parts) :
    (session.occur change).call = session.call.withParts change := by
  rw [occur_eq]
  exact congrArg QueueState.owner (TaskLoop.state_postAll _ _)

end Session

private theorem Call.lifecycle_endCall (call : Call) : call.endCall.lifecycle = .ended := by
  by_cases finished : call.lifecycle = .ended
  · unfold endCall
    rw [if_pos finished]
    exact finished
  · exact congrArg Prod.fst (standing_endCall finished)

/-- A task of the queue that does not break off leaves what a move of the call leaves. -/
theorem QueueTask.leaves_of_uncrashed {task : QueueTask CallTask} {state : QueueState Call}
    (whole : (Call.handler.perform task state).crashed = false) :
    (Call.handler.perform task state).state.owner = task.leaves state.owner := by
  have unchanged {call : Call} (uncrashed : call.platform.crashed = false) :
      call = call.withParts Parts.recover :=
    congrArg (fun parts => { call with toParts := parts })
      (Parts.recover_of_uncrashed uncrashed).symm
  cases task with
  | item item => exact unchanged whole
  | task task => exact unchanged whole
  | marker number => rfl

namespace Session

variable {session : Session}

/-- Nothing breaks off in a move. -/
def Whole (session : Session) (move : ClosingMove) : Prop :=
  ∀ done ∈ session.performs? move, done.2.crashed = false

/-- What a task leaves of the call when it does not break off. -/
theorem call_finish {rest : TaskLoop (QueueTask CallTask) (QueueState Call)}
    {task : QueueTask CallTask}
    (turned : session.step .turn =
      session.withLoop (rest.finish (Call.handler.perform task session.queue.loop.state)))
    (whole : (Call.handler.perform task session.queue.loop.state).crashed = false) :
    (session.step .turn).call = task.leaves session.call := by
  rw [turned]
  refine (congrArg QueueState.owner (TaskLoop.state_finish _ _)).trans ?_
  exact QueueTask.leaves_of_uncrashed whole

private theorem call_post {after : Session} {order : Order (QueueTask CallTask)}
    (same : after.queue.loop = session.queue.loop.post order) : after.call = session.call := by
  unfold Session.call WorkQueue.owner
  rw [same, TaskLoop.state_post]

/-- A move that runs no task is to the call what it is to a call by itself, or nothing. -/
theorem call_close_of_idle {move : ClosingMove} (idle : session.performs? move = none) :
    (session.close move).call = move.callMove?.elim session.call session.call.move := by
  cases move with
  | stop => exact call_post rfl
  | join => rfl
  | goesOn move =>
      cases move with
      | event occurrence => exact session.call_occur _
      | adjust adjustment => exact session.call_occur _
      | ask task => exact call_post rfl
      | mark => exact call_post rfl
      | wait milliseconds => rfl
      | turn =>
          rcases session.turn_cases with ⟨_, same, _⟩ | ⟨taken, rest, took, _, same, _⟩ |
            ⟨taken, rest, task, _, _, _, performs⟩
          · exact congrArg Session.call same
          · refine (congrArg Session.call same).trans ?_
            exact congrArg QueueState.owner (LoopAtWork.take?_state took)
          · cases idle.symm.trans performs

/-- Only a step of the queue runs a task. -/
theorem performs?_eq_some {move : ClosingMove}
    {done : QueueTask CallTask × Turn (QueueTask CallTask) (QueueState Call)}
    (performs : session.performs? move = some done) : move = .goesOn .turn := by
  unfold performs? at performs
  split at performs
  · rfl
  · cases performs

/-- What happens to a session is to its call what the task is that runs, or what comes from
outside. -/
theorem call_close {move : ClosingMove} (whole : session.Whole move) :
    (session.close move).call = session.call.run (session.callMove? move).toList := by
  unfold callMove?
  cases performs : session.performs? move with
  | none =>
      rw [call_close_of_idle performs]
      cases move.callMove? <;> rfl
  | some done =>
      cases performs?_eq_some performs
      rcases session.turn_cases with ⟨_, _, none⟩ | ⟨_, _, _, _, _, none⟩ |
        ⟨taken, rest, task, took, _, same, runs⟩
      · cases performs.symm.trans none
      · cases performs.symm.trans none
      · cases performs.symm.trans runs
        refine (call_finish same (whole _ runs)).trans ?_
        cases task <;> rfl

/-- Unless the queue takes a step, nothing runs and what comes goes behind what waits. -/
theorem exists_mailbox_close (session : Session) {move : ClosingMove}
    (other : move ≠ .goesOn .turn) :
    session.performs? move = none ∧ (session.close move).running = session.running ∧
      ∃ more, (session.close move).queue.loop.mailbox = session.queue.loop.mailbox ++ more ∧
        (.stop ∈ more → move = .stop) := by
  have posts (order : Order (QueueTask CallTask)) (stops : order = .stop → move = .stop) :
      (session.queue.loop.post order).running = session.running ∧
        ∃ more, (session.queue.loop.post order).mailbox = session.queue.loop.mailbox ++ more ∧
          (.stop ∈ more → move = .stop) := by
    obtain ⟨more, all, sent⟩ := session.queue.loop.exists_mailbox_post order
    refine ⟨session.queue.loop.running_post order, more, all, fun member => stops ?_⟩
    have brings := sent _ member
    cases order with
    | stop => rfl
    | run task => cases brings
    | runAfter delay task => cases brings
  have occurs (change : Parts → Parts) :
      (session.occur change).running = session.running ∧
        ∃ more, (session.occur change).queue.loop.mailbox = session.queue.loop.mailbox ++ more ∧
          (.stop ∈ more → move = .stop) := by
    rw [occur_eq]
    obtain ⟨more, all, sent⟩ := TaskLoop.exists_mailbox_postAll _ _
    refine ⟨TaskLoop.running_postAll _ _, more, all, fun member => ?_⟩
    obtain ⟨order, raised, brings⟩ := sent _ member
    obtain ⟨item, _, rfl⟩ := List.mem_map.mp raised
    cases brings
  cases move with
  | stop => exact ⟨rfl, posts .stop fun _ => rfl⟩
  | join => exact ⟨rfl, rfl, [], (List.append_nil _).symm, nofun⟩
  | goesOn move =>
      cases move with
      | event occurrence => exact ⟨rfl, occurs _⟩
      | adjust adjustment => exact ⟨rfl, occurs _⟩
      | ask task => exact ⟨rfl, posts (.run (.task task)) nofun⟩
      | mark => exact ⟨rfl, posts (.run (.marker _)) nofun⟩
      | wait milliseconds => exact ⟨rfl, rfl, [], (List.append_nil _).symm, nofun⟩
      | turn => exact (other rfl).elim

/-- A queue that has ended takes no step. -/
theorem step_turn_of_ended (ended : session.running = false) : session.step .turn = session := by
  refine step_turn_of_none ?_
  rw [LoopAtWork.step?_eq_take?, TaskLoop.take?_of_not_running ended]
  rfl

private theorem name_close (session : Session) (move : ClosingMove) :
    (session.close move).queue.name = session.queue.name := by
  cases move with
  | stop => rfl
  | join => rfl
  | goesOn move =>
      cases move with
      | event occurrence => exact congrArg (·.queue.name) (session.occur_eq _)
      | adjust adjustment => exact congrArg (·.queue.name) (session.occur_eq _)
      | ask task => rfl
      | mark => rfl
      | wait milliseconds => rfl
      | turn =>
          simp only [close, step]
          cases session.queue.loop.step? Call.handler.perform <;> rfl

private theorem regular_close (regular : (QueueAtWork.idle session.queue).Regular)
    (move : ClosingMove) :
    (QueueAtWork.idle (session.close move).queue).Regular := by
  have acts (act : QueueAct CallTask) := (regular.step Call.handler act).1
  cases move with
  | stop => exact acts .stop
  | join => exact regular
  | goesOn move =>
      cases move with
      | event occurrence => exact (regular.setOwner _).dispatchAll Call.handler _
      | adjust adjustment => exact (regular.setOwner _).dispatchAll Call.handler _
      | ask task => exact acts (.enqueue task)
      | mark => exact acts .synchronize
      | wait milliseconds => exact acts (.wait milliseconds)
      | turn =>
          simp only [close, step]
          cases stepped : session.queue.loop.step? Call.handler.perform with
          | none => exact regular
          | some next => exact regular.step? Call.handler stepped

/-! ## Every run -/

/-- What holds of a session, hung up or not: its call has come by some moves from the call
that it began with, its queue has kept its name, and the markers are in order. -/
structure Follows (session : Session) (start : Call) (name : String) : Prop where
  call : ∃ moves, session.call = start.run moves
  name : session.queue.name = name
  regular : (QueueAtWork.idle session.queue).Regular

private theorem Follows.close {start : Call} {name : String} (follows : session.Follows start name)
    (move : ClosingMove) (whole : session.Whole move) :
    (session.close move).Follows start name where
  call := by
    obtain ⟨moves, reached⟩ := follows.call
    refine ⟨moves ++ (session.callMove? move).toList, ?_⟩
    rw [call_close whole, Call.run_append, ← reached]
  name := (session.name_close move).trans follows.name
  regular := regular_close follows.regular move

/-- What every whole move keeps, a run keeps in which nothing breaks off. -/
theorem closeRun_induction {motive : List (QueueTask CallTask) → Session → Prop}
    (kept : ∀ started current move, current.Whole move → motive started current →
      motive (started ++ (current.performs? move).toList.map Prod.fst) (current.close move))
    (started : List (QueueTask CallTask)) (holds : motive started session)
    {moves : List ClosingMove}
    (whole : ∀ done ∈ session.performed moves, done.2.crashed = false) :
    motive (started ++ (session.performed moves).map Prod.fst) (session.closeRun moves) := by
  unfold closeRun
  induction moves generalizing session started with
  | nil => exact (List.append_nil started).symm ▸ holds
  | cons move moves ih =>
      unfold performed at whole
      have first : session.Whole move := fun done member =>
        whole done (List.mem_append_left _ (Option.mem_toList.mpr member))
      have rest := ih _ (kept started session move first holds) fun done later =>
        whole done (List.mem_append_right _ later)
      rw [List.append_assoc, ← List.map_append] at rest
      exact rest

private theorem Follows.closeRun {start : Call} {name : String}
    (follows : session.Follows start name) {moves : List ClosingMove}
    (whole : ∀ done ∈ session.performed moves, done.2.crashed = false) :
    (session.closeRun moves).Follows start name :=
  closeRun_induction (motive := fun _ current => current.Follows start name)
    (fun _ _ move unbroken follows => follows.close move unbroken) [] follows whole

/-- What becomes of the end of the call that was put in behind a backlog: it waits behind the
rest of the backlog, and no request to stop before it, or it has come behind all of it and
the call is over. -/
inductive Closing (session : Session) (backlog started : List (QueueTask CallTask)) : Prop where
  | ahead (left : List (Letter (QueueTask CallTask))) (stopless : .stop ∉ left)
      (waits : session.queue.loop.Ahead (.task .endCall) backlog started left)
  | reached (since : List (QueueTask CallTask))
      (passed : started = backlog ++ .task .endCall :: since)
      (ended : session.call.lifecycle = .ended)

namespace Closing

variable {backlog started : List (QueueTask CallTask)}

private theorem turn {left : List (Letter (QueueTask CallTask))} (stopless : .stop ∉ left)
    (waits : session.queue.loop.Ahead (.task .endCall) backlog started left)
    (whole : session.Whole (.goesOn .turn)) :
    (session.step .turn).Closing backlog
      (started ++ (session.performs? (.goesOn .turn)).toList.map Prod.fst) := by
  rcases session.turn_cases with ⟨_, same, none⟩ | ⟨taken, rest, took, taskless, same, none⟩ |
    ⟨taken, rest, task, took, starts, same, performs⟩
  · rw [same, none]
    exact (List.append_nil started).symm ▸ .ahead left stopless waits
  · rcases waits.takes (TaskLoop.takes_of_take? took) with
      ⟨rfl, _⟩ | ⟨letter, later, rfl, ⟨rfl, _⟩ | ahead⟩
    · cases taskless
    · exact (stopless List.mem_cons_self).elim
    · rw [same, none]
      rw [taskless] at ahead
      exact .ahead later (fun member => stopless (List.mem_cons_of_mem _ member)) ahead
  · have finished := whole _ performs
    rw [performs]
    rcases waits.takes (TaskLoop.takes_of_take? took) with
      ⟨rfl, rfl⟩ | ⟨letter, later, rfl, ⟨rfl, _⟩ | ahead⟩
    · cases starts
      refine .reached [] rfl ?_
      rw [call_finish same finished]
      exact session.call.lifecycle_endCall
    · exact (stopless List.mem_cons_self).elim
    · rw [starts] at ahead
      rw [same]
      exact .ahead later (fun member => stopless (List.mem_cons_of_mem _ member))
        (ahead.finish finished)

private theorem close (closing : session.Closing backlog started) {move : ClosingMove}
    (whole : session.Whole move) :
    (session.close move).Closing backlog
      (started ++ (session.performs? move).toList.map Prod.fst) := by
  cases closing with
  | reached since passed ended =>
      refine .reached (since ++ (session.performs? move).toList.map Prod.fst) ?_ ?_
      · rw [passed, List.append_assoc]
        rfl
      · rw [call_close whole]
        cases session.callMove? move with
        | none => exact ended
        | some moved => exact Call.lifecycle_move_of_ended ended moved
  | ahead left stopless waits =>
      by_cases stepping : move = .goesOn .turn
      · subst stepping
        exact turn stopless waits whole
      · obtain ⟨none, running, more, all, _⟩ := session.exists_mailbox_close stepping
        rw [none]
        exact (List.append_nil started).symm ▸ .ahead left stopless (waits.extend running all)

private theorem closeRun (closing : session.Closing backlog started) {moves : List ClosingMove}
    (whole : ∀ done ∈ session.performed moves, done.2.crashed = false) :
    (session.closeRun moves).Closing backlog
      (started ++ (session.performed moves).map Prod.fst) :=
  closeRun_induction (motive := fun started current => current.Closing backlog started)
    (fun _ _ _ unbroken closing => closing.close unbroken) started closing whole

end Closing

/-! ## The end of the queue -/

private theorem run_turns (session : Session) (count : Nat) :
    session.run (List.replicate count .turn) =
      session.withLoop (session.queue.loop.advance Call.handler.perform count) := by
  unfold run
  induction count generalizing session with
  | zero => rfl
  | succ count ih =>
      rw [List.replicate_succ, List.foldl_cons, ih]
      cases stepped : session.queue.loop.step? Call.handler.perform with
      | none =>
          rw [step_turn_of_none stepped, TaskLoop.advance_of_none stepped,
            TaskLoop.advance_of_none stepped]
      | some next =>
          rw [step_turn_of_some stepped, TaskLoop.advance_succ stepped]
          rfl

/-- The queue has ended or has a request to stop before it. -/
def Stopping (session : Session) : Prop :=
  session.queue.loop.running = false ∨ .stop ∈ session.queue.loop.mailbox

namespace Stopping

/-- A queue that is asked to stop has the request before it, unless it has ended. -/
theorem stop (session : Session) : (session.close .stop).Stopping := by
  cases running : session.queue.loop.running with
  | false => exact Or.inl ((session.queue.loop.running_post .stop).trans running)
  | true =>
      right
      change .stop ∈ (session.queue.loop.post .stop).mailbox
      rw [TaskLoop.post_of_running running]
      exact List.mem_append_right _ (List.mem_singleton_self _)

private theorem turn (stopping : session.Stopping) : (session.step .turn).Stopping := by
  cases running : session.queue.loop.running with
  | false =>
      rw [step_turn_of_ended running]
      exact stopping
  | true =>
      have waits : .stop ∈ session.queue.loop.mailbox :=
        stopping.resolve_left (Bool.not_eq_false _ ▸ running)
      obtain ⟨letter, rest, mailbox⟩ := List.exists_cons_of_ne_nil (List.ne_nil_of_mem waits)
      rw [mailbox] at waits
      rcases List.mem_cons.mp waits with rfl | later
      · have stops : session.queue.loop.step? Call.handler.perform =
            some session.queue.loop.halt := by
          unfold TaskLoop.step?
          rw [if_pos running, mailbox]
        rw [step_turn_of_some stops]
        exact Or.inl rfl
      · obtain ⟨next, stepped, ended | ⟨more, all⟩⟩ := TaskLoop.step?_cons running mailbox
        · rw [step_turn_of_some stepped]
          exact Or.inl ended
        · rw [step_turn_of_some stepped]
          exact Or.inr (all ▸ List.mem_append_left more later)

/-- The request to stop is not lost: it waits until the queue ends. -/
theorem close (stopping : session.Stopping) (move : ClosingMove) :
    (session.close move).Stopping := by
  by_cases stepping : move = .goesOn .turn
  · subst stepping
    exact stopping.turn
  · obtain ⟨_, running, more, all, _⟩ := session.exists_mailbox_close stepping
    rcases stopping with ended | waits
    · exact Or.inl (running.trans ended)
    · exact Or.inr (all ▸ List.mem_append_left more waits)

/-- A queue that is left to itself ends when all its letters have had their turns. -/
theorem ends (stopping : session.Stopping) {count : Nat}
    (enough : session.queue.loop.mailbox.length ≤ count) :
    (session.run (List.replicate count .turn)).running = false := by
  rw [run_turns]
  change (session.queue.loop.advance Call.handler.perform count).running = false
  have kept {loop : TaskLoop (QueueTask CallTask) (QueueState Call)} (more : Nat)
      (ended : loop.running = false) :
      (loop.advance Call.handler.perform more).running = false := by
    rw [TaskLoop.advance_of_not_running _ ended]
    exact ended
  rcases stopping with ended | waits
  · exact kept count ended
  · obtain ⟨front, behind, mailbox⟩ := List.append_of_mem waits
    have length : session.queue.loop.mailbox.length = front.length + 1 + behind.length := by
      rw [mailbox, List.length_append, List.length_cons]
      omega
    obtain ⟨more, rfl⟩ : ∃ more, count = front.length + (1 + more) :=
      ⟨count - front.length - 1, by omega⟩
    rw [TaskLoop.advance_add, TaskLoop.advance_add]
    refine kept more ?_
    rcases TaskLoop.advance_reaches mailbox with ended | ⟨rest, reached⟩
    · exact kept 1 ended
    · generalize session.queue.loop.advance Call.handler.perform front.length = loop at reached
      cases running : loop.running with
      | false => exact kept 1 running
      | true =>
          have stops : loop.step? Call.handler.perform = some loop.halt := by
            unfold TaskLoop.step?
            rw [if_pos running, reached]
          rw [TaskLoop.advance_succ stops]
          rfl

end Stopping

/-- Nothing runs in a session whose queue has ended. -/
theorem performed_of_ended (ended : session.running = false) (moves : List ClosingMove) :
    session.performed moves = [] ∧ (session.closeRun moves).running = false := by
  unfold closeRun
  induction moves generalizing session with
  | nil => exact ⟨rfl, ended⟩
  | cons move moves ih =>
      have quiet : session.performs? move = none ∧ (session.close move).running = false := by
        by_cases stepping : move = .goesOn .turn
        · subst stepping
          refine ⟨?_, (congrArg running (step_turn_of_ended ended)).trans ended⟩
          unfold performs?
          rw [TaskLoop.take?_of_not_running ended]
          rfl
        · obtain ⟨nothing, running, _⟩ := session.exists_mailbox_close stepping
          exact ⟨nothing, running.trans ended⟩
      obtain ⟨silent, still⟩ := ih quiet.2
      refine ⟨?_, still⟩
      rw [performed, quiet.1, silent]
      rfl

end Session

namespace Call

section Recounting

variable {call : Call} {first : CallFlags}

end Recounting

end Call

/-! ## A session that is hung up -/

namespace Session

variable {localStream : MediaStream} {tokens : TokenScript}
  {iceConfiguration : Except Failure IceConfiguration} {config : Config} {line : String}
  {session : Session}

/-- The handle of the thread is taken by nobody but who waits for the end of the queue. -/
theorem joinable_close (session : Session) {move : ClosingMove} (other : move ≠ .join) :
    (session.close move).joinable = session.joinable := by
  cases move with
  | stop => rfl
  | join => exact (other rfl).elim
  | goesOn move =>
      cases move with
      | event occurrence => exact congrArg (·.queue.joinable) (session.occur_eq _)
      | adjust adjustment => exact congrArg (·.queue.joinable) (session.occur_eq _)
      | ask task => rfl
      | mark => rfl
      | wait milliseconds => rfl
      | turn =>
          simp only [close, step]
          cases session.queue.loop.step? Call.handler.perform <;> rfl

/-- A request to stop, taking the handle of the thread, and as many steps of the queue as it then
needs. -/
def joining (session : Session) : List ClosingMove :=
  [.stop, .join] ++ List.replicate (session.queue.loop.mailbox.length + 1) (.goesOn .turn)

section HungUp

variable (started : start (.make localStream tokens iceConfiguration) config line =
    .running session) {before : List SessionMove} (running : (session.run before).running = true)

include started running

end HungUp

/-- A session that was just started on a platform without local media. -/
def justStarted : Session :=
  ⟨(WorkQueue.start (queueName "line") Call.justBegun).enqueueAfter
    Config.standard.connectTimeoutMs.toNat .connectTimeout⟩

end Session

end CallControl
