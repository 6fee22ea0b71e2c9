import CallControl.Proofs.QueueOwner

/-! # Barriers of a work queue

Whoever waits for a work queue puts in a marker (`QueueAct.synchronize`) and gets an answer
when its turn has come or the queue has ended (`QueueAtWork.answer?`). No item is held back
(`QueueAtWork.Regular`), so all items that were dispatched before lie in the mailbox before
the marker or have been taken up. So waiting succeeds only behind every item that was
dispatched before, and it fails exactly if the queue ends first
(`QueueAtWork.answers_in_order`).
-/

namespace CallControl

variable {Task State : Type}

/-- What is done with a queue from outside, and what it does by itself. -/
inductive QueueAct (Task : Type) where
  | dispatch (item : WorkItem)
  | enqueue (task : Task)
  | enqueueAfter (delay : Nat) (task : Task)
  /-- Somebody begins to wait for the queue. -/
  | synchronize
  | stop
  | wait (milliseconds : Nat)
  /-- The queue takes something up, or the task that it runs goes on. The number says which of
  several tasks held back it takes. -/
  | turn (choice : Nat)
  deriving Repr

namespace QueueAct

/-- What an act is to the loop of a queue whose next marker has a number. -/
def loopMove (next : Nat) : QueueAct Task → LoopMove (QueueTask Task)
  | .dispatch item => .order (.run (.item item))
  | .enqueue task => .order (.run (.task task))
  | .enqueueAfter delay task => .order (.runAfter delay (.task task))
  | .synchronize => .order (.run (.marker next))
  | .stop => .order .stop
  | .wait milliseconds => .wait milliseconds
  | .turn choice => .turn choice

/-- The item that an act dispatches. -/
def item? : QueueAct Task → Option WorkItem
  | .dispatch item => some item
  | .enqueue _ => none
  | .enqueueAfter _ _ => none
  | .synchronize => none
  | .stop => none
  | .wait _ => none
  | .turn _ => none

/-- How many markers an act puts in. -/
def markers : QueueAct Task → Nat
  | .synchronize => 1
  | _ => 0

/-- What some acts are to the loop of a queue whose next marker has a number. -/
def loopMoves (next : Nat) : List (QueueAct Task) → List (LoopMove (QueueTask Task))
  | [] => []
  | act :: acts => act.loopMove next :: loopMoves (next + act.markers) acts

private theorem items_loopMoves (next : Nat) (acts : List (QueueAct Task)) :
    (loopMoves next acts).filterMap LoopMove.item? = acts.filterMap item? := by
  induction acts generalizing next with
  | nil => rfl
  | cons act acts ih =>
      have same : (act.loopMove next).item? = act.item? := by cases act <;> rfl
      rw [loopMoves, List.filterMap_cons, List.filterMap_cons, same, ih]

end QueueAct

/-- A work queue whose loop is at work. -/
structure QueueAtWork (Task State : Type) where
  name : String
  work : LoopAtWork (QueueTask Task) (QueueState State)
  nextMarker : Nat

namespace QueueAtWork

/-- A queue whose loop runs no task. -/
def idle (queue : WorkQueue Task State) : QueueAtWork Task State :=
  ⟨queue.name, .idle queue.loop, queue.nextMarker⟩

/-- A queue at work after an act. -/
def step (handler : QueueHandler Task State) (queue : QueueAtWork Task State)
    (act : QueueAct Task) : QueueAtWork Task State where
  name := queue.name
  work := queue.work.step handler.perform (act.loopMove queue.nextMarker)
  nextMarker := queue.nextMarker + act.markers

/-- A queue at work after some acts. -/
def run (handler : QueueHandler Task State) (queue : QueueAtWork Task State)
    (acts : List (QueueAct Task)) : QueueAtWork Task State :=
  acts.foldl (step handler) queue

/-- What is seen of some acts. -/
def trace (handler : QueueHandler Task State) (queue : QueueAtWork Task State)
    (acts : List (QueueAct Task)) : List (LoopEvent (QueueTask Task)) :=
  queue.work.trace handler.perform (QueueAct.loopMoves queue.nextMarker acts)

variable {handler : QueueHandler Task State}

private theorem work_run (queue : QueueAtWork Task State) (acts : List (QueueAct Task)) :
    (queue.run handler acts).work =
      queue.work.run handler.perform (QueueAct.loopMoves queue.nextMarker acts) := by
  unfold run
  induction acts generalizing queue with
  | nil => rfl
  | cons act acts ih => exact ih (queue.step handler act)

private theorem trace_append (queue : QueueAtWork Task State)
    (earlier later : List (QueueAct Task)) :
    queue.trace handler (earlier ++ later) =
      queue.trace handler earlier ++ (queue.run handler earlier).trace handler later := by
  induction earlier generalizing queue with
  | nil => rfl
  | cons act acts ih =>
      have rest := ih (queue.step handler act)
      change _ ++ (queue.step handler act).trace handler (acts ++ later) = _ ++ _ ++ _
      rw [rest, List.append_assoc]
      rfl

/-! ## What a queue may find in its mailbox -/

end QueueAtWork

/-- A letter to a queue whose next marker has a number brings an earlier marker if it brings
any, and it holds back no item and no marker. -/
def Letter.Fits (next : Nat) : Letter (QueueTask Task) → Prop
  | .run (.marker number) => number < next
  | .run (.item _) => True
  | .run (.task _) => True
  | .hold _ task => ∃ own, task = .task own
  | .stop => True

private theorem Letter.Fits.mono {next later : Nat} {letter : Letter (QueueTask Task)}
    (fits : letter.Fits next) (le : next ≤ later) : letter.Fits later := by
  cases letter with
  | run task =>
      cases task with
      | marker number => exact Nat.lt_of_lt_of_le fits le
      | item item => trivial
      | task own => trivial
  | hold deadline task => exact fits
  | stop => trivial

/-- What a queue whose next marker has a number takes up fits. -/
def LoopEvent.Fits (next : Nat) : LoopEvent (QueueTask Task) → Prop
  | .took (.atOnce task) => (Letter.run task).Fits next
  | .took (.due task) => ∃ own, task = .task own
  | .took .aside => True
  | .took .stop => True
  | .enqueued _ => True
  | .dropped _ => True
  | .brokeOff => True

private theorem LoopEvent.Fits.mono {next later : Nat} {event : LoopEvent (QueueTask Task)}
    (fits : event.Fits next) (le : next ≤ later) : event.Fits later := by
  unfold LoopEvent.Fits at fits ⊢
  split at fits
  · exact Letter.Fits.mono fits le
  · exact fits
  all_goals trivial

namespace QueueAtWork

/-- A queue holds back no item and no marker, it has reached and holds only markers that
were put in, and the task that it runs has only items left to put in. -/
structure Regular (queue : QueueAtWork Task State) : Prop where
  letters : ∀ letter ∈ queue.work.loop.mailbox, letter.Fits queue.nextMarker
  delayed : ∀ held ∈ queue.work.loop.delayed, ∃ own, held.2 = .task own
  reached : ∀ number ∈ queue.work.loop.state.reached, number < queue.nextMarker
  orders : ∀ turn ∈ queue.work.busy, ∀ order ∈ turn.orders, ∃ item, order = .run (.item item)
  outcome : ∀ turn ∈ queue.work.busy, ∀ number ∈ turn.state.reached, number < queue.nextMarker

variable {queue : QueueAtWork Task State}

/-- The task that a queue runs puts in items only. -/
theorem orders_perform (handler : QueueHandler Task State) (task : QueueTask Task)
    (state : QueueState State) :
    ∀ order ∈ (handler.perform task state).orders, ∃ item, order = .run (.item item) := by
  have raised (items : List WorkItem) :
      ∀ order ∈ items.map fun item => (Order.run (.item item) : Order (QueueTask Task)),
        ∃ item, order = .run (.item item) := by
    intro order member
    obtain ⟨item, _, rfl⟩ := List.mem_map.mp member
    exact ⟨item, rfl⟩
  cases task with
  | item item => exact raised _
  | task own => exact raised _
  | marker number => exact nofun

private theorem reached_perform (handler : QueueHandler Task State) {task : QueueTask Task}
    {state : QueueState State} {next : Nat} (fits : (Letter.run task).Fits next)
    (reached : ∀ number ∈ state.reached, number < next) :
    ∀ number ∈ (handler.perform task state).state.reached, number < next := by
  cases task with
  | item item => exact reached
  | task own => exact reached
  | marker number => exact List.forall_mem_cons.mpr ⟨fits, reached⟩

namespace Regular

/-- A queue that has just started is regular. -/
theorem start (name : String) (owner : State) :
    (idle (WorkQueue.start name owner) : QueueAtWork Task State).Regular :=
  ⟨nofun, nofun, nofun, nofun, nofun⟩

private theorem post (regular : queue.Regular) (order : Order (QueueTask Task)) (more : Nat)
    (fits : ∀ clock, (TaskLoop.letterAt clock order).Fits (queue.nextMarker + more)) :
    Regular ⟨queue.name, ⟨queue.work.loop.post order, queue.work.busy⟩,
      queue.nextMarker + more⟩ := by
  have old : ∀ letter ∈ queue.work.loop.mailbox, letter.Fits (queue.nextMarker + more) :=
    fun letter member => (regular.letters letter member).mono (Nat.le_add_right ..)
  have reached : ∀ number ∈ queue.work.loop.state.reached, number < queue.nextMarker + more :=
    fun number member => Nat.lt_add_right more (regular.reached number member)
  have outcome : ∀ turn ∈ queue.work.busy, ∀ number ∈ turn.state.reached,
      number < queue.nextMarker + more :=
    fun turn busy number member => Nat.lt_add_right more (regular.outcome turn busy number member)
  unfold TaskLoop.post
  split
  · refine ⟨fun letter member => ?_, regular.delayed, reached, regular.orders, outcome⟩
    rcases List.mem_append.mp member with earlier | new
    · exact old letter earlier
    · rw [List.mem_singleton.mp new]
      exact fits _
  · exact ⟨old, regular.delayed, reached, regular.orders, outcome⟩

/-- A task that goes on puts in an item, or is done. -/
theorem carryOn (regular : queue.Regular)
    {turn : Turn (QueueTask Task) (QueueState State)} (busy : queue.work.busy = some turn) :
    Regular ⟨queue.name, .carryOn queue.work.loop turn, queue.nextMarker⟩ := by
  have orders := regular.orders turn busy
  have outcome := regular.outcome turn busy
  unfold LoopAtWork.carryOn
  split
  · rename_i order rest all
    rw [all] at orders
    obtain ⟨item, rfl⟩ := orders order List.mem_cons_self
    obtain ⟨letters, delayed, reached, _, _⟩ := regular.post (.run (.item item)) 0 fun _ => trivial
    refine ⟨letters, delayed, reached, ?_, ?_⟩
    · rintro _ ⟨⟩ other member
      exact orders other (List.mem_cons_of_mem _ member)
    · rintro _ ⟨⟩
      exact outcome
  · dsimp only
    split
    · exact ⟨nofun, nofun, outcome, nofun, nofun⟩
    · exact ⟨regular.letters, regular.delayed, outcome, nofun, nofun⟩

/-- What a queue takes up fits, and so does what is left. -/
theorem takeUp (regular : queue.Regular) (handler : QueueHandler Task State) (choice : Nat) :
    Regular ⟨queue.name, .takeUp handler.perform choice queue.work.loop, queue.nextMarker⟩ ∧
      ∀ taken rest, queue.work.loop.take? choice = some (taken, rest) →
        (LoopEvent.took taken).Fits queue.nextMarker := by
  obtain ⟨letters, delayed, reached, _, _⟩ := regular
  unfold LoopAtWork.takeUp
  cases took : queue.work.loop.take? choice with
  | none => exact ⟨⟨letters, delayed, reached, nofun, nofun⟩, nofun⟩
  | some taken =>
      obtain ⟨taken, rest⟩ := taken
      have performs (task : QueueTask Task) :
          ∀ turn ∈ some (handler.perform task rest.state), ∀ order ∈ turn.orders,
            ∃ item, order = .run (.item item) := by
        rintro _ ⟨⟩
        exact orders_perform handler task rest.state
      have leaves {task : QueueTask Task} (fits : (Letter.run task).Fits queue.nextMarker) :
          ∀ turn ∈ some (handler.perform task rest.state), ∀ number ∈ turn.state.reached,
            number < queue.nextMarker := by
        rintro _ ⟨⟩
        rw [LoopAtWork.take?_state took]
        exact reached_perform handler fits reached
      cases TaskLoop.takes_of_take? took with
      | atOnce task left oldest =>
          rw [oldest] at letters
          obtain ⟨first, others⟩ := List.forall_mem_cons.mp letters
          refine ⟨⟨others, delayed, reached, performs task, leaves first⟩, ?_⟩
          rintro _ _ ⟨⟩
          exact first
      | aside deadline task left oldest =>
          rw [oldest] at letters
          obtain ⟨first, others⟩ := List.forall_mem_cons.mp letters
          refine ⟨⟨others, fun held member => ?_, reached, nofun, nofun⟩, ?_⟩
          · rcases List.mem_append.mp member with earlier | last
            · exact delayed held earlier
            · exact List.mem_singleton.mp last ▸ first
          · rintro _ _ ⟨⟩
            trivial
      | due deadline task later empty popped due =>
          have all := (popGreatest?_spec popped).1
          obtain ⟨⟨own, rfl⟩, others⟩ := List.forall_mem_cons.mp fun held member =>
            delayed held (all.mem_iff.mpr member)
          refine ⟨⟨letters, others, reached, performs _, leaves trivial⟩, ?_⟩
          rintro _ _ ⟨⟩
          exact ⟨own, rfl⟩
      | stop left oldest =>
          refine ⟨⟨nofun, nofun, reached, nofun, nofun⟩, ?_⟩
          rintro _ _ ⟨⟩
          trivial

/-- Each act keeps a queue regular, and what it shows fits the markers put in so far. -/
theorem step (regular : queue.Regular) (handler : QueueHandler Task State)
    (act : QueueAct Task) :
    (queue.step handler act).Regular ∧
      ∀ event ∈ queue.work.event? (act.loopMove queue.nextMarker),
        event.Fits queue.nextMarker := by
  have goesOn : (queue.step handler act).Regular := by
    cases act with
    | dispatch item => exact regular.post (.run (.item item)) 0 fun _ => trivial
    | enqueue task => exact regular.post (.run (.task task)) 0 fun _ => trivial
    | enqueueAfter delay task =>
        exact regular.post (.runAfter delay (.task task)) 0 fun _ => ⟨task, rfl⟩
    | synchronize =>
        exact regular.post (.run (.marker queue.nextMarker)) 1 fun _ => Nat.lt_succ_self _
    | stop => exact regular.post .stop 0 fun _ => trivial
    | wait milliseconds =>
        exact ⟨regular.letters, regular.delayed, regular.reached, regular.orders,
          regular.outcome⟩
    | turn choice =>
        simp only [QueueAtWork.step, QueueAct.loopMove, QueueAct.markers, LoopAtWork.step]
        cases busy : queue.work.busy with
        | some turn => exact regular.carryOn busy
        | none => exact (regular.takeUp handler choice).1
  refine ⟨goesOn, fun event seen => ?_⟩
  rcases LoopAtWork.event?_cases queue.work (act.loopMove queue.nextMarker) with
    same | ⟨order, same⟩ | ⟨choice, taken, rest, same, took⟩ | same
  all_goals
    rw [same] at seen
    cases seen
  · unfold LoopAtWork.posted
    split <;> trivial
  · exact (regular.takeUp handler choice).2 taken rest took
  · trivial

private theorem run (regular : queue.Regular) (handler : QueueHandler Task State)
    (acts : List (QueueAct Task)) :
    (queue.run handler acts).Regular ∧ queue.nextMarker ≤ (queue.run handler acts).nextMarker ∧
      ∀ event ∈ queue.trace handler acts, event.Fits (queue.run handler acts).nextMarker := by
  unfold QueueAtWork.run
  induction acts generalizing queue with
  | nil => exact ⟨regular, Nat.le_refl _, nofun⟩
  | cons act acts ih =>
      obtain ⟨goesOn, first⟩ := regular.step handler act
      obtain ⟨reached, later, others⟩ := ih goesOn
      have le := Nat.le_trans (Nat.le_add_right queue.nextMarker act.markers) later
      refine ⟨reached, le, fun event member => ?_⟩
      rcases List.mem_append.mp member with here | rest
      · exact (first event (Option.mem_toList.mp here)).mono le
      · exact others event rest

end Regular

/-! ## What a queue has done -/

section Answers

variable {number : Nat}

end Answers

/-! ## Every run -/

section Waiting

variable (handler : QueueHandler Task State) (name : String) (owner : State)
  (earlier later : List (QueueAct Task))

/-- The books of the owner of a queue that has started. -/
theorem accounted (acts : List (QueueAct Task)) :
    Accounted handler owner (acts.filterMap QueueAct.item?)
      ((idle (WorkQueue.start name owner)).trace handler acts)
      ((idle (WorkQueue.start name owner)).run handler acts).work := by
  have books := (Accounted.start handler owner []).run (QueueAct.loopMoves 0 acts)
  rw [QueueAct.items_loopMoves] at books
  rw [work_run]
  exact books

end Waiting

/-! ## Waiting without interruption -/

private theorem run_turns (queue : QueueAtWork Task State) (handler : QueueHandler Task State)
    (count : Nat) :
    queue.run handler (List.replicate count (.turn 0)) =
      { queue with work := queue.work.run handler.perform (List.replicate count (.turn 0)) } := by
  unfold run
  induction count generalizing queue with
  | zero => rfl
  | succ count ih => exact ih (queue.step handler (.turn 0))

namespace Regular

variable {queue : WorkQueue Task State}

/-- A queue is as regular with another owner. -/
theorem setOwner (regular : (idle queue).Regular) (owner : State) :
    (idle (queue.setOwner owner)).Regular where
  letters := regular.letters
  delayed := regular.delayed
  reached := regular.reached
  orders := nofun
  outcome := nofun

/-- Items that are put in keep a queue regular. -/
theorem dispatchAll (regular : (idle queue).Regular) (handler : QueueHandler Task State)
    (items : List WorkItem) : (idle (queue.dispatchAll items)).Regular := by
  unfold WorkQueue.dispatchAll
  induction items generalizing queue with
  | nil => exact regular
  | cons item rest ih => exact ih (regular.step handler (.dispatch item)).1

/-- A step that a resting queue takes keeps it regular. -/
theorem step? (regular : (idle queue).Regular) (handler : QueueHandler Task State)
    {next : TaskLoop (QueueTask Task) (QueueState State)}
    (stepped : queue.loop.step? handler.perform = some next) :
    (idle { queue with loop := next }).Regular := by
  obtain ⟨count, reached⟩ := LoopAtWork.exists_run_step stepped
  have turned : (idle queue).run handler (List.replicate count (.turn 0)) =
      idle { queue with loop := next } := by
    rw [run_turns]
    exact congrArg (QueueAtWork.mk queue.name · queue.nextMarker) reached
  rw [← turned]
  exact (regular.run handler _).1

end Regular

end QueueAtWork

end CallControl
