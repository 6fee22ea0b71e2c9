import CallControl.Proofs.TaskOrder

/-! # When tasks that are held back start

A task that is to run later gets its deadline when it is sent, and is held back once its
letter is taken. The deadlines held back and those still in the mailbox lie behind that of
the task held back that started last (`TaskLoop.Timely`), and whatever starts so was sent
before (`LoopAtWork.dueStarts_subperm`). So tasks held back start at their deadlines or later,
in the order of their deadlines, and behind everything that has been sent by then
(`LoopAtWork.due_in_order`).
-/

namespace CallControl

variable {Task State : Type}

/-- The task of a letter that asks for it to be held back, with its deadline. -/
def Letter.held? : Letter Task → Option (Nat × Task)
  | .hold deadline task => some (deadline, task)
  | .run _ => none
  | .stop => none

/-- The task that starts after it was held back. -/
def LoopEvent.startDue? : LoopEvent Task → Option Task
  | .took (.due task) => some task
  | .took (.atOnce _) => none
  | .took .aside => none
  | .took .stop => none
  | .enqueued _ => none
  | .dropped _ => none
  | .brokeOff => none

/-- An order to run a task later, with the time at which it was sent. -/
structure DelayedOrder (Task : Type) where
  time : Nat
  delay : Nat
  task : Task

/-- The task of an order with its deadline. -/
def DelayedOrder.entry (order : DelayedOrder Task) : Nat × Task :=
  (order.time + order.delay, order.task)

/-- A task held back that starts: its deadline, the time, and what lies in the mailbox. -/
structure DueStart (Task : Type) where
  deadline : Nat
  task : Task
  time : Nat
  waiting : List (Letter Task)

/-- The task that starts with its deadline. -/
def DueStart.entry (start : DueStart Task) : Nat × Task := (start.deadline, start.task)

namespace TaskLoop

/-- The tasks that are held back or are to be, with their deadlines. -/
def stock (loop : TaskLoop Task State) : List (Nat × Task) :=
  loop.delayed ++ loop.mailbox.filterMap Letter.held?

/-- What a loop takes up and what it leaves. -/
inductive Takes (loop : TaskLoop Task State) (choice : Nat) :
    Taken Task → TaskLoop Task State → Prop where
  | atOnce (task : Task) (rest : List (Letter Task)) (oldest : loop.mailbox = .run task :: rest) :
      Takes loop choice (.atOnce task) { loop with mailbox := rest }
  | aside (deadline : Nat) (task : Task) (rest : List (Letter Task))
      (oldest : loop.mailbox = .hold deadline task :: rest) :
      Takes loop choice .aside
        { loop with mailbox := rest, delayed := loop.delayed ++ [(deadline, task)] }
  | due (deadline : Nat) (task : Task) (later : List (Nat × Task)) (empty : loop.mailbox = [])
      (popped : popGreatest? choice loop.delayed = some ((deadline, task), later))
      (due : deadline ≤ loop.clock) :
      Takes loop choice (.due task) { loop with delayed := later }
  | stop (rest : List (Letter Task)) (oldest : loop.mailbox = .stop :: rest) :
      Takes loop choice .stop loop.halt

/-- What a loop takes up is what the rules say, with what they leave. -/
theorem takes_of_take? {loop rest : TaskLoop Task State} {choice : Nat} {taken : Taken Task}
    (took : loop.take? choice = some (taken, rest)) : loop.Takes choice taken rest := by
  unfold take? at took
  split at took
  · split at took
    · rename_i task letters oldest
      cases took
      exact .atOnce task letters oldest
    · rename_i deadline task letters oldest
      cases took
      exact .aside deadline task letters oldest
    · rename_i letters oldest
      cases took
      exact .stop letters oldest
    · rename_i empty
      split at took
      · rename_i deadline task later popped
        split at took
        · rename_i due
          cases took
          exact .due deadline task later empty popped due
        · cases took
      · cases took
  · cases took

/-! ## Deadlines to come -/

/-- The deadlines that are still to come do not lie before that of the task held back that
started last. -/
structure Timely (loop : TaskLoop Task State) (latest : Nat) : Prop where
  ahead : ∀ entry ∈ loop.stock, latest ≤ entry.1
  past : latest ≤ loop.clock

/-- A letter that is taken and held back is still to come. -/
theorem stock_aside (loop : TaskLoop Task State) {deadline : Nat} {task : Task}
    {rest : List (Letter Task)} (oldest : loop.mailbox = .hold deadline task :: rest) :
    ({ loop with mailbox := rest, delayed := loop.delayed ++ [(deadline, task)] } :
      TaskLoop Task State).stock = loop.stock := by
  unfold stock
  rw [oldest, List.append_assoc]
  rfl

private theorem stock_atOnce (loop : TaskLoop Task State) {task : Task} {rest : List (Letter Task)}
    (oldest : loop.mailbox = .run task :: rest) :
    ({ loop with mailbox := rest } : TaskLoop Task State).stock = loop.stock := by
  unfold stock
  rw [oldest]
  rfl

/-- What the heap gives out was to come, and the others still are. -/
theorem perm_stock_due (loop : TaskLoop Task State) {choice deadline : Nat} {task : Task}
    {later : List (Nat × Task)}
    (popped : popGreatest? choice loop.delayed = some ((deadline, task), later)) :
    ((deadline, task) :: ({ loop with delayed := later } : TaskLoop Task State).stock).Perm
      loop.stock := by
  unfold stock
  rw [← List.cons_append]
  exact (popGreatest?_spec popped).1.symm.append_right _

/-- An order to run a task later that is sent to a running loop. -/
def delayedOrder? (loop : TaskLoop Task State) : Order Task → Option (DelayedOrder Task)
  | .runAfter delay task => if loop.running then some ⟨loop.clock, delay, task⟩ else none
  | .run _ => none
  | .stop => none

private theorem stock_post (loop : TaskLoop Task State) (order : Order Task) :
    (loop.post order).stock =
      loop.stock ++ (loop.delayedOrder? order).toList.map DelayedOrder.entry := by
  unfold stock post
  by_cases running : loop.running = true
  · rw [if_pos running, List.append_assoc]
    change loop.delayed ++ (loop.mailbox ++ [letterAt loop.clock order]).filterMap Letter.held? = _
    rw [List.filterMap_append]
    cases order with
    | runAfter delay task =>
        simp only [delayedOrder?, if_pos running]
        rfl
    | run task => rfl
    | stop => rfl
  · rw [if_neg running]
    cases order with
    | runAfter delay task =>
        simp only [delayedOrder?, if_neg running]
        exact (List.append_nil _).symm
    | run task => exact (List.append_nil _).symm
    | stop => exact (List.append_nil _).symm

namespace Timely

variable {loop : TaskLoop Task State} {latest : Nat}

private theorem post (timely : loop.Timely latest) (order : Order Task) :
    (loop.post order).Timely latest := by
  have kept : (loop.post order).clock = loop.clock := by
    unfold TaskLoop.post
    split <;> rfl
  refine ⟨fun entry member => ?_, kept ▸ timely.past⟩
  rw [stock_post] at member
  rcases List.mem_append.mp member with present | new
  · exact timely.ahead entry present
  · -- A deadline is computed from the time at which it is sent.
    obtain ⟨sent, given, rfl⟩ := List.mem_map.mp new
    have now : sent.time = loop.clock := by
      unfold delayedOrder? at given
      split at given
      · split at given
        · cases List.mem_singleton.mp given
          rfl
        · cases given
      · cases given
      · cases given
    exact Nat.le_trans timely.past (Nat.le_trans (Nat.le_of_eq now.symm) (Nat.le_add_right ..))

private theorem halt (timely : loop.Timely latest) : loop.halt.Timely latest :=
  ⟨nofun, timely.past⟩

private theorem pass (timely : loop.Timely latest) (state : State) {clock : Nat}
    (later : loop.clock ≤ clock) :
    ({ loop with state, clock } : TaskLoop Task State).Timely latest :=
  ⟨timely.ahead, Nat.le_trans timely.past later⟩

/-- Unless a task held back starts, what is taken up leaves the deadlines to come. -/
theorem takes (timely : loop.Timely latest) {choice : Nat} {taken : Taken Task}
    {rest : TaskLoop Task State} (takes : loop.Takes choice taken rest)
    (other : ∀ task, taken ≠ .due task) : rest.Timely latest := by
  cases takes with
  | atOnce task letters oldest =>
      exact ⟨by rw [loop.stock_atOnce oldest]; exact timely.ahead, timely.past⟩
  | aside deadline task letters oldest =>
      exact ⟨by rw [loop.stock_aside oldest]; exact timely.ahead, timely.past⟩
  | due deadline task later empty popped due => exact (other task rfl).elim
  | stop letters oldest => exact timely.halt

/-- A task held back that starts has the earliest deadline to come. -/
theorem due (timely : loop.Timely latest) {choice deadline : Nat} {task : Task}
    {later : List (Nat × Task)} (empty : loop.mailbox = [])
    (popped : popGreatest? choice loop.delayed = some ((deadline, task), later))
    (due : deadline ≤ loop.clock) :
    latest ≤ deadline ∧ ({ loop with delayed := later } : TaskLoop Task State).Timely deadline := by
  obtain ⟨_, earliest⟩ := popGreatest?_spec popped
  refine ⟨timely.ahead (deadline, task) ?_, fun entry member => ?_, due⟩
  · exact (loop.perm_stock_due popped).mem_iff.mp List.mem_cons_self
  · rcases List.mem_append.mp member with held | coming
    · exact earliest entry held
    · rw [empty] at coming
      cases coming

end Timely

end TaskLoop

namespace LoopAtWork

/-- The order that is given in a move. -/
def order? (work : LoopAtWork Task State) : LoopMove Task → Option (Order Task)
  | .order order => some order
  | .turn _ => work.busy.bind fun turn => turn.orders.head?
  | .wait _ => none
  | .abandon => none

/-- The order to run a task later that is given in a move and reaches a running loop. -/
def delayedOrder? (work : LoopAtWork Task State) (move : LoopMove Task) :
    Option (DelayedOrder Task) :=
  (work.order? move).bind work.loop.delayedOrder?

/-- The task held back that starts in a move. -/
def dueStart? (work : LoopAtWork Task State) : LoopMove Task → Option (DueStart Task)
  | .turn choice =>
      match work.event? (.turn choice), popGreatest? choice work.loop.delayed with
      | some (.took (.due task)), some ((deadline, _), _) =>
          some ⟨deadline, task, work.loop.clock, work.loop.mailbox⟩
      | _, _ => none
  | .order _ => none
  | .wait _ => none
  | .abandon => none

/-- The orders to run a task later that reach a running loop in some moves. -/
def delayedOrders (perform : Task → State → Turn Task State) (work : LoopAtWork Task State) :
    List (LoopMove Task) → List (DelayedOrder Task)
  | [] => []
  | move :: moves =>
      (work.delayedOrder? move).toList ++ delayedOrders perform (work.step perform move) moves

/-- The tasks held back that start in some moves. -/
def dueStarts (perform : Task → State → Turn Task State) (work : LoopAtWork Task State) :
    List (LoopMove Task) → List (DueStart Task)
  | [] => []
  | move :: moves =>
      (work.dueStart? move).toList ++ dueStarts perform (work.step perform move) moves

variable {perform : Task → State → Turn Task State}

/-- What a move does to a loop: an order reaches it, or a task held back starts, or it takes
up something else, or it halts, or nothing of the kind. -/
inductive Goes (loop : TaskLoop Task State) :
    Option (DelayedOrder Task) → Option (DueStart Task) → TaskLoop Task State → Prop where
  | posts (order : Order Task) : Goes loop (loop.delayedOrder? order) none (loop.post order)
  | starts (choice deadline : Nat) (task : Task) (later : List (Nat × Task))
      (empty : loop.mailbox = [])
      (popped : popGreatest? choice loop.delayed = some ((deadline, task), later))
      (due : deadline ≤ loop.clock) :
      Goes loop none (some ⟨deadline, task, loop.clock, []⟩) { loop with delayed := later }
  | takes (choice : Nat) (taken : Taken Task) (rest : TaskLoop Task State)
      (takes : loop.Takes choice taken rest) (other : ∀ task, taken ≠ .due task) :
      Goes loop none none rest
  | halts (state : State) : Goes loop none none ({ loop with state } : TaskLoop Task State).halt
  | passes (state : State) (clock : Nat) (later : loop.clock ≤ clock) :
      Goes loop none none { loop with state, clock }

private theorem dueStart?_of_other {work : LoopAtWork Task State} {move : LoopMove Task}
    (other : ∀ task, work.event? move ≠ some (.took (.due task))) :
    work.dueStart? move = none := by
  cases move with
  | turn choice =>
      simp only [dueStart?]
      split
      · rename_i task _ _ _ starts _
        exact (other task starts).elim
      · rfl
  | order order => rfl
  | wait milliseconds => rfl
  | abandon => rfl

private theorem posted_ne_took (loop : TaskLoop Task State) (order : Order Task)
    (taken : Taken Task) :
    posted loop order ≠ .took taken := by
  unfold posted
  split <;> exact nofun

private theorem goes_carryOn (loop : TaskLoop Task State) (turn : Turn Task State) (choice : Nat) :
    let work : LoopAtWork Task State := ⟨loop, some turn⟩
    Goes loop (work.delayedOrder? (.turn choice)) (work.dueStart? (.turn choice))
      (carryOn loop turn).loop := by
  intro work
  obtain ⟨state, orders, crashed⟩ := turn
  have quiet : work.dueStart? (.turn choice) = none := by
    refine dueStart?_of_other fun task => ?_
    change goesOn loop ⟨state, orders, crashed⟩ ≠ _
    unfold goesOn
    split
    · exact fun same => posted_ne_took loop _ _ (Option.some.inj same)
    · split <;> exact nofun
  rw [quiet]
  cases orders with
  | cons order rest => exact .posts order
  | nil =>
      cases crashed with
      | true => exact .halts state
      | false => exact .passes state loop.clock (Nat.le_refl _)

private theorem goes_takeUp (perform : Task → State → Turn Task State) (loop : TaskLoop Task State)
    (choice : Nat) :
    Goes loop none ((idle loop).dueStart? (.turn choice)) (takeUp perform choice loop).loop := by
  cases took : loop.take? choice with
  | none =>
      have quiet : (idle loop).dueStart? (.turn choice) = none := by
        refine dueStart?_of_other fun task starts => ?_
        have nothing : (idle loop).event? (.turn choice) = none := by
          simp only [event?, idle, took, Option.map_none]
        cases nothing.symm.trans starts
      rw [quiet]
      unfold takeUp
      rw [took]
      exact .passes loop.state loop.clock (Nat.le_refl _)
  | some pair =>
      obtain ⟨taken, rest⟩ := pair
      have event : (idle loop).event? (.turn choice) = some (.took taken) := by
        simp only [event?, idle, took, Option.map_some]
      have takes := TaskLoop.takes_of_take? took
      have left : (takeUp perform choice loop).loop = rest := by
        unfold takeUp
        rw [took]
      rw [left]
      by_cases starts : ∃ task, taken = .due task
      · obtain ⟨task, rfl⟩ := starts
        cases takes with
        | due deadline task later empty popped due =>
            have begins : (idle loop).dueStart? (.turn choice) =
                some ⟨deadline, task, loop.clock, []⟩ := by
              simp only [dueStart?, event]
              simp only [idle, popped, empty]
            rw [begins]
            exact .starts choice deadline task later empty popped due
      · have quiet : (idle loop).dueStart? (.turn choice) = none := by
          refine dueStart?_of_other fun task same => starts ⟨task, ?_⟩
          cases event.symm.trans same
          rfl
        rw [quiet]
        exact .takes choice taken rest takes fun task same => starts ⟨task, same⟩

private theorem goes_step (perform : Task → State → Turn Task State) (work : LoopAtWork Task State)
    (move : LoopMove Task) :
    Goes work.loop (work.delayedOrder? move) (work.dueStart? move)
      (work.step perform move).loop := by
  obtain ⟨loop, busy⟩ := work
  cases move with
  | order order =>
      have quiet : dueStart? ⟨loop, busy⟩ (.order order) = none :=
        dueStart?_of_other fun task same => posted_ne_took loop order _ (Option.some.inj same)
      rw [quiet]
      exact .posts order
  | wait milliseconds => exact .passes loop.state _ (Nat.le_add_right ..)
  | turn choice =>
      cases busy with
      | some turn => exact goes_carryOn loop turn choice
      | none => exact goes_takeUp perform loop choice
  | abandon =>
      change Goes loop none none
        (if busy.isNone && loop.mailbox.isEmpty then idle loop.halt else ⟨loop, busy⟩).loop
      split
      · exact .halts loop.state
      · exact .passes loop.state loop.clock (Nat.le_refl _)

namespace Goes

variable {loop next : TaskLoop Task State} {sent : Option (DelayedOrder Task)}
  {start : Option (DueStart Task)}

/-- A task held back starts when its deadline has come and nothing waits. -/
theorem ready (goes : Goes loop sent start next) :
    ∀ begun ∈ start, begun.deadline ≤ begun.time ∧ begun.waiting = [] := by
  intro begun member
  cases goes with
  | starts choice deadline task later empty popped due =>
      cases member
      exact ⟨due, rfl⟩
  | _ => cases member

/-- The deadlines to come stay ahead, and a task held back that starts does not lag behind. -/
theorem timely {latest : Nat} (goes : Goes loop sent start next) (timely : loop.Timely latest) :
    latest ≤ start.elim latest DueStart.deadline ∧
      next.Timely (start.elim latest DueStart.deadline) := by
  cases goes with
  | posts order => exact ⟨Nat.le_refl _, timely.post order⟩
  | starts choice deadline task later empty popped due => exact timely.due empty popped due
  | takes choice taken rest takes other => exact ⟨Nat.le_refl _, timely.takes takes other⟩
  | halts state => exact ⟨Nat.le_refl _, (timely.pass state (Nat.le_refl _)).halt⟩
  | passes state clock later => exact ⟨Nat.le_refl _, timely.pass state later⟩

/-- What starts and what is held back was held back or has been sent. -/
theorem stock (goes : Goes loop sent start next) :
    (start.toList.map DueStart.entry ++ next.stock).Subperm
      (loop.stock ++ sent.toList.map DelayedOrder.entry) := by
  cases goes with
  | posts order =>
      rw [TaskLoop.stock_post]
      exact .refl _
  | starts choice deadline task later empty popped due =>
      rw [Option.toList_none, List.map_nil, List.append_nil]
      exact (loop.perm_stock_due popped).subperm
  | takes choice taken rest takes other =>
      simp only [Option.toList_none, List.map_nil, List.append_nil, List.nil_append]
      cases takes with
      | atOnce task letters oldest =>
          rw [loop.stock_atOnce oldest]
      | aside deadline task letters oldest =>
          rw [loop.stock_aside oldest]
      | due deadline task later empty popped due => exact (other task rfl).elim
      | stop letters oldest => exact List.nil_subperm
  | halts state => exact List.nil_subperm
  | passes state clock later =>
      simp only [Option.toList_none, List.map_nil, List.append_nil, List.nil_append]
      exact .refl _

end Goes

/-! ## Every run -/

private theorem dueStarts_ready (work : LoopAtWork Task State) (moves : List (LoopMove Task)) :
    ∀ begun ∈ work.dueStarts perform moves,
      begun.deadline ≤ begun.time ∧ begun.waiting = [] := by
  induction moves generalizing work with
  | nil => exact nofun
  | cons move moves ih =>
      intro begun member
      rcases List.mem_append.mp member with now | later
      · exact (goes_step perform work move).ready begun (Option.mem_toList.mp now)
      · exact ih _ begun later

/-- Tasks held back start in the order of their deadlines. -/
theorem dueStarts_sorted {work : LoopAtWork Task State} {latest : Nat}
    (timely : work.loop.Timely latest) (moves : List (LoopMove Task)) :
    (∀ begun ∈ work.dueStarts perform moves, latest ≤ begun.deadline) ∧
      ((work.dueStarts perform moves).map DueStart.deadline).Pairwise (· ≤ ·) := by
  induction moves generalizing work latest with
  | nil => exact ⟨nofun, .nil⟩
  | cons move moves ih =>
      obtain ⟨behind, ahead⟩ := (goes_step perform work move).timely timely
      obtain ⟨later, sorted⟩ := ih ahead
      unfold dueStarts
      cases starts : work.dueStart? move with
      | none =>
          rw [starts] at later
          exact ⟨later, sorted⟩
      | some start =>
          rw [starts] at later behind
          refine ⟨List.forall_mem_cons.mpr ⟨behind, fun begun member => ?_⟩, ?_⟩
          · exact Nat.le_trans behind (later begun member)
          · exact List.pairwise_cons.mpr ⟨List.forall_mem_map.mpr later, sorted⟩

/-- Whatever starts after it was held back was to be held back at first or was sent since. -/
theorem dueStarts_subperm (work : LoopAtWork Task State) (moves : List (LoopMove Task)) :
    ((work.dueStarts perform moves).map DueStart.entry).Subperm
      (work.loop.stock ++ (work.delayedOrders perform moves).map DelayedOrder.entry) := by
  induction moves generalizing work with
  | nil => exact List.nil_subperm
  | cons move moves ih =>
      have now := (goes_step perform work move).stock
      unfold dueStarts delayedOrders
      rw [List.map_append, List.map_append, ← List.append_assoc]
      refine ((List.subperm_append_left _).mpr (ih (work.step perform move))).trans ?_
      rw [← List.append_assoc]
      exact (List.subperm_append_right _).mpr now

/-- A task held back starts with nothing in the mailbox. -/
theorem exists_dueStart {work : LoopAtWork Task State} {move : LoopMove Task} {task : Task}
    (starts : work.event? move = some (.took (.due task))) :
    work.loop.mailbox = [] ∧ ∃ start, work.dueStart? move = some start ∧ start.task = task := by
  obtain ⟨loop, busy⟩ := work
  have took : ∃ choice rest, move = .turn choice ∧ busy = none ∧
      loop.take? choice = some (.due task, rest) := by
    cases move with
    | order order => exact (posted_ne_took loop order _ (Option.some.inj starts)).elim
    | wait milliseconds => cases starts
    | abandon => cases starts
    | turn choice =>
        cases busy with
        | some turn =>
            change goesOn loop turn = _ at starts
            unfold goesOn at starts
            split at starts
            · exact (posted_ne_took loop _ _ (Option.some.inj starts)).elim
            · split at starts <;> cases starts
        | none =>
            obtain ⟨⟨taken, rest⟩, took, same⟩ := Option.map_eq_some_iff.mp starts
            cases same
            exact ⟨choice, rest, rfl, rfl, took⟩
  obtain ⟨choice, rest, rfl, rfl, took⟩ := took
  cases TaskLoop.takes_of_take? took with
  | due deadline task later empty popped due =>
      refine ⟨empty, ⟨deadline, task, loop.clock, loop.mailbox⟩, ?_, rfl⟩
      simp only [dueStart?, starts, popped]

/-- What is seen to start after it was held back starts so. -/
theorem map_task_dueStarts (work : LoopAtWork Task State) (moves : List (LoopMove Task)) :
    (work.dueStarts perform moves).map DueStart.task =
      (work.trace perform moves).filterMap LoopEvent.startDue? := by
  have now (work : LoopAtWork Task State) (move : LoopMove Task) :
      (work.dueStart? move).toList.map DueStart.task =
        (work.event? move).toList.filterMap LoopEvent.startDue? := by
    by_cases due : ∃ task, work.event? move = some (.took (.due task))
    · obtain ⟨task, starts⟩ := due
      obtain ⟨_, start, begins, same⟩ := exists_dueStart starts
      rw [begins, starts, ← same]
      rfl
    · have other (task : Task) : work.event? move ≠ some (.took (.due task)) :=
        fun starts => due ⟨task, starts⟩
      rw [dueStart?_of_other other]
      unfold LoopEvent.startDue?
      cases seen : work.event? move with
      | none => rfl
      | some event =>
          cases event with
          | took taken =>
              cases taken with
              | due task => exact (other task seen).elim
              | atOnce task => rfl
              | aside => rfl
              | stop => rfl
          | enqueued letter => rfl
          | dropped order => rfl
          | brokeOff => rfl
  induction moves generalizing work with
  | nil => rfl
  | cons move moves ih =>
      unfold dueStarts trace
      rw [List.map_append, List.filterMap_append, now, ih]

/-- In every run of a loop a task held back starts at its deadline or later, in the order of
the deadlines, and with nothing in the mailbox, so that every task that was to run at once and
was sent before has started before it. The tasks that start so were sent with these deadlines:
the time at which each was sent and its delay. -/
theorem due_in_order (perform : Task → State → Turn Task State) (state : State)
    (moves : List (LoopMove Task)) :
    let work : LoopAtWork Task State := idle (TaskLoop.start state)
    let seen := work.trace perform moves
    let begun := work.dueStarts perform moves
    begun.map DueStart.task = seen.filterMap LoopEvent.startDue? ∧
    (begun.map DueStart.entry).Subperm
      ((work.delayedOrders perform moves).map DelayedOrder.entry) ∧
    (∀ start ∈ begun, start.deadline ≤ start.time) ∧
    (begun.map DueStart.deadline).Pairwise (· ≤ ·) ∧
    (∀ start ∈ begun, start.waiting = []) ∧
    ∀ before task after, seen = before ++ .took (.due task) :: after →
      startsAtOnce before = (letters before).filterMap Letter.atOnce? ∧
        ∀ letter ∈ letters before, letter.isStop = false := by
  intro work seen begun
  have timely : work.loop.Timely 0 := ⟨nofun, Nat.le_refl _⟩
  refine ⟨map_task_dueStarts work moves, dueStarts_subperm work moves, ?_,
    (dueStarts_sorted timely moves).2, ?_, ?_⟩
  · exact fun start member => (dueStarts_ready work moves start member).1
  · exact fun start member => (dueStarts_ready work moves start member).2
  · intro before task after split
    obtain ⟨earlier, move, later, _, past, starts, _⟩ := exists_of_trace split
    obtain ⟨empty, _⟩ := exists_dueStart starts
    have books := books_run perform (books_start state) earlier
    rw [past] at books
    rcases books with ⟨taken, underway⟩ | ended
    · have sent := underway.sent
      rw [empty, List.append_nil] at sent
      change letters before = taken at sent
      rw [sent]
      exact ⟨underway.atOnce, underway.stopless⟩
    · rcases ended.stopped.event? move with quiet | ⟨order, quiet⟩
      · cases quiet.symm.trans starts
      · cases quiet.symm.trans starts

/-- A task held back for two milliseconds, then two for one, and a task to run at once that is
sent when all are due: it starts first, and then those held back by their deadlines, of the two
that compare alike the one that is chosen. -/
example :
    let perform (task : Nat) (past : List Nat) : Turn Nat (List Nat) := ⟨past ++ [task], [], false⟩
    let moves : List (LoopMove Nat) :=
      [.order (.runAfter 2 0), .order (.runAfter 1 1), .order (.runAfter 1 2), .turn 0, .turn 0,
        .turn 0, .wait 3, .order (.run 3), .turn 0, .turn 0, .turn 1, .turn 0, .turn 0, .turn 0,
        .turn 0]
    starts ((idle (TaskLoop.start [])).trace perform moves) = [3, 2, 1, 0] := rfl

end LoopAtWork

end CallControl
