import CallControl.Proofs.Deadlines

/-! # What lies ahead of a task

A task that is sent to a loop waits behind everything that lies in the mailbox. What lies
before it stays before it, whatever is sent meanwhile (`TaskLoop.Ahead`), so either all of
it has started when the task starts, or the loop ends before (`LoopAtWork.barrier_run`).
What a loop has done is to run the tasks that started, one after the other
(`LoopAtWork.Progress`), and it ends only by a request to stop or because a task breaks off
(`LoopAtWork.exists_ends`).
-/

namespace CallControl

variable {Task State : Type}

/-! ## What lies ahead of a task -/

namespace TaskLoop

/-- A task waits in the mailbox of a loop that runs, behind letters that bring the rest of
a backlog; the tasks of the backlog that are missing there have started. -/
structure Ahead (loop : TaskLoop Task State) (goal : Task) (backlog started : List Task)
    (left : List (Letter Task)) : Prop where
  running : loop.running = true
  waits : ∃ behind, loop.mailbox = left ++ .run goal :: behind
  rest : started ++ left.filterMap Letter.atOnce? = backlog

/-- What is sent to a loop goes behind what lies in its mailbox. -/
theorem exists_mailbox_postAll (loop : TaskLoop Task State) (orders : List (Order Task)) :
    ∃ more, (loop.postAll orders).mailbox = loop.mailbox ++ more ∧
      ∀ letter ∈ more, ∃ order ∈ orders, letter = letterAt loop.clock order := by
  rw [postAll_eq]
  refine ⟨_, rfl, fun letter member => ?_⟩
  split at member
  · obtain ⟨order, sent, brings⟩ := List.mem_map.mp member
    exact ⟨order, sent, brings.symm⟩
  · exact (List.not_mem_nil member).elim

/-- A mailbox only grows when something is sent, and by that letter alone. -/
theorem exists_mailbox_post (loop : TaskLoop Task State) (order : Order Task) :
    ∃ more, (loop.post order).mailbox = loop.mailbox ++ more ∧
      ∀ letter ∈ more, letter = letterAt loop.clock order := by
  obtain ⟨more, all, sent⟩ := loop.exists_mailbox_postAll [order]
  refine ⟨more, all, fun letter member => ?_⟩
  obtain ⟨other, inside, brings⟩ := sent letter member
  cases List.mem_singleton.mp inside
  exact brings

namespace Ahead

variable {loop rest : TaskLoop Task State} {goal : Task} {backlog started : List Task}
  {left : List (Letter Task)}

/-- A task that is sent to a loop waits behind everything in its mailbox. -/
theorem start (running : loop.running = true) (goal : Task) :
    (loop.post (.run goal)).Ahead goal (loop.mailbox.filterMap Letter.atOnce?) []
      loop.mailbox := by
  rw [post_of_running running]
  exact ⟨running, ⟨[], rfl⟩, List.nil_append _⟩

/-- What is sent goes behind the task. -/
theorem extend (ahead : loop.Ahead goal backlog started left) {more : List (Letter Task)}
    (running : rest.running = loop.running) (mailbox : rest.mailbox = loop.mailbox ++ more) :
    rest.Ahead goal backlog started left := by
  obtain ⟨behind, waits⟩ := ahead.waits
  refine ⟨running.trans ahead.running, ⟨behind ++ more, ?_⟩, ahead.rest⟩
  rw [mailbox, waits, List.append_assoc]
  rfl

private theorem post (ahead : loop.Ahead goal backlog started left) (order : Order Task) :
    (loop.post order).Ahead goal backlog started left := by
  obtain ⟨more, all, _⟩ := loop.exists_mailbox_post order
  exact ahead.extend (loop.running_post order) all

private theorem pass (ahead : loop.Ahead goal backlog started left) (state : State) (clock : Nat) :
    ({ loop with state, clock } : TaskLoop Task State).Ahead goal backlog started left :=
  ⟨ahead.running, ahead.waits, ahead.rest⟩

/-- A task that ends whole leaves the backlog where it was. -/
theorem finish (ahead : loop.Ahead goal backlog started left) {turn : Turn Task State}
    (whole : turn.crashed = false) : (loop.finish turn).Ahead goal backlog started left := by
  obtain ⟨more, all, _⟩ := exists_mailbox_postAll { loop with state := turn.state } turn.orders
  unfold TaskLoop.finish
  rw [whole]
  exact ahead.extend (running_postAll _ _) all

/-- What was started of a backlog comes first in it. -/
theorem part (ahead : loop.Ahead goal backlog started left) : started <+: backlog :=
  ⟨_, ahead.rest⟩

/-- What a loop takes up is the task itself, or the first letter of those ahead of it. -/
theorem takes (ahead : loop.Ahead goal backlog started left) {taken : Taken Task}
    {choice : Nat} (takes : loop.Takes choice taken rest) :
    (taken = .atOnce goal ∧ started = backlog) ∨
      ∃ letter later, left = letter :: later ∧
        ((letter = .stop ∧ taken = .stop ∧ rest = loop.halt) ∨
          rest.Ahead goal backlog (started ++ taken.task?.toList) later) := by
  obtain ⟨running, ⟨behind, waits⟩, same⟩ := ahead
  cases left with
  | nil =>
      left
      rw [List.filterMap_nil, List.append_nil] at same
      cases takes with
      | atOnce task letters oldest =>
          cases oldest.symm.trans waits
          exact ⟨rfl, same⟩
      | aside deadline task letters oldest => cases oldest.symm.trans waits
      | due deadline task later empty popped due => cases empty.symm.trans waits
      | stop letters oldest => cases oldest.symm.trans waits
  | cons letter later =>
      right
      refine ⟨letter, later, rfl, ?_⟩
      cases takes with
      | atOnce task letters oldest =>
          cases oldest.symm.trans waits
          refine Or.inr ⟨running, ⟨behind, rfl⟩, ?_⟩
          rw [← same, List.append_assoc]
          rfl
      | aside deadline task letters oldest =>
          cases oldest.symm.trans waits
          refine Or.inr ⟨running, ⟨behind, rfl⟩, ?_⟩
          rw [← same, List.append_assoc]
          rfl
      | due deadline task later empty popped due => cases empty.symm.trans waits
      | stop letters oldest =>
          cases oldest.symm.trans waits
          exact Or.inl ⟨rfl, rfl, rfl⟩

end Ahead

/-! ## A loop that is not interrupted -/

variable {perform : Task → State → Turn Task State}

/-- A step that a loop can take is the first of those it takes. -/
theorem advance_succ {loop next : TaskLoop Task State} (stepped : loop.step? perform = some next)
    (count : Nat) : loop.advance perform (count + 1) = next.advance perform count := by
  rw [advance, stepped]

/-- A loop that can take no step stays as it is. -/
theorem advance_of_none {loop : TaskLoop Task State} (rests : loop.step? perform = none)
    (count : Nat) : loop.advance perform count = loop := by
  cases count with
  | zero => rfl
  | succ count => rw [advance, rests]

/-- Steps can be taken in two goes. -/
theorem advance_add (perform : Task → State → Turn Task State) (loop : TaskLoop Task State)
    (first second : Nat) :
    loop.advance perform (first + second) =
      (loop.advance perform first).advance perform second := by
  induction first generalizing loop with
  | zero => rw [Nat.zero_add]; rfl
  | succ first ih =>
      rw [Nat.succ_add]
      cases stepped : loop.step? perform with
      | some next =>
          rw [advance_succ stepped, advance_succ stepped]
          exact ih next
      | none => rw [advance_of_none stepped, advance_of_none stepped, advance_of_none stepped]

/-- A task that is done leaves what lies in the mailbox and adds what it sends, or it breaks
off and ends the loop. -/
theorem finish_cases (loop : TaskLoop Task State) (turn : Turn Task State) :
    (loop.finish turn).running = false ∧ (loop.finish turn).mailbox = [] ∨
      ∃ more, (loop.finish turn).mailbox = loop.mailbox ++ more ∧
        ∀ letter ∈ more, ∃ order ∈ turn.orders, letter = letterAt loop.clock order := by
  unfold finish
  split
  · exact Or.inl ⟨rfl, rfl⟩
  · exact Or.inr (exists_mailbox_postAll { loop with state := turn.state } turn.orders)

/-- A step of a loop does away with the oldest letter, or it ends the loop. -/
theorem step?_cons {loop : TaskLoop Task State} (running : loop.running = true)
    {letter : Letter Task} {rest : List (Letter Task)} (mailbox : loop.mailbox = letter :: rest) :
    ∃ next, loop.step? perform = some next ∧
      (next.running = false ∨ ∃ more, next.mailbox = rest ++ more) := by
  unfold step?
  rw [if_pos running, mailbox]
  cases letter with
  | run task =>
      refine ⟨_, rfl, ?_⟩
      exact (finish_cases { loop with mailbox := rest } _).imp And.left fun ⟨more, all, _⟩ =>
        ⟨more, all⟩
  | hold deadline task => exact ⟨_, rfl, Or.inr ⟨[], (List.append_nil _).symm⟩⟩
  | stop => exact ⟨_, rfl, Or.inl rfl⟩

/-- A loop that goes on reaches every letter of its mailbox, or it ends before. -/
theorem advance_reaches {loop : TaskLoop Task State} {letter : Letter Task}
    {front behind : List (Letter Task)} (mailbox : loop.mailbox = front ++ letter :: behind) :
    (loop.advance perform front.length).running = false ∨
      ∃ more, (loop.advance perform front.length).mailbox = letter :: more := by
  induction front generalizing loop behind with
  | nil => exact Or.inr ⟨behind, mailbox⟩
  | cons first front ih =>
      by_cases running : loop.running = true
      · obtain ⟨next, stepped, ended | ⟨more, goesOn⟩⟩ := step?_cons running mailbox
        · left
          rw [List.length_cons, advance_succ stepped, advance_of_not_running perform ended]
          exact ended
        · rw [List.length_cons, advance_succ stepped]
          have kept : next.mailbox = front ++ letter :: (behind ++ more) :=
            goesOn.trans (List.append_assoc ..)
          exact ih kept
      · left
        have ended := Bool.eq_false_iff.mpr running
        rw [advance_of_not_running perform ended]
        exact ended

/-- A task that is finished leaves its state to the loop. -/
theorem state_finish (loop : TaskLoop Task State) (turn : Turn Task State) :
    (loop.finish turn).state = turn.state := by
  unfold finish
  split
  · rfl
  · exact state_postAll _ _

end TaskLoop

/-! ## What a loop at work has done -/

/-- What has become of a task that was sent to a loop behind a backlog: it waits behind the
rest of the backlog, or it started behind all of it, or the loop ended before. -/
inductive Barrier (goal : Task) (backlog started : List Task) (loop : TaskLoop Task State) :
    Prop where
  | ahead (left : List (Letter Task)) (waits : loop.Ahead goal backlog started left)
  | reached (later : List Task) (passed : started = backlog ++ goal :: later)
  | missed (ended : loop.running = false) (part : started <+: backlog)

namespace Barrier

variable {goal : Task} {backlog started : List Task} {loop : TaskLoop Task State}

private theorem post (barrier : Barrier goal backlog started loop) (order : Order Task) :
    Barrier goal backlog started (loop.post order) := by
  cases barrier with
  | ahead left waits => exact .ahead left (waits.post order)
  | reached later passed => exact .reached later passed
  | missed ended part => exact .missed ((loop.running_post order).trans ended) part

private theorem pass (barrier : Barrier goal backlog started loop) (state : State) (clock : Nat) :
    Barrier goal backlog started ({ loop with state, clock } : TaskLoop Task State) := by
  cases barrier with
  | ahead left waits => exact .ahead left (waits.pass state clock)
  | reached later passed => exact .reached later passed
  | missed ended part => exact .missed ended part

private theorem halt (barrier : Barrier goal backlog started loop) (state : State) :
    Barrier goal backlog started ({ loop with state } : TaskLoop Task State).halt := by
  cases barrier with
  | ahead left waits => exact .missed rfl waits.part
  | reached later passed => exact .reached later passed
  | missed ended part => exact .missed rfl part

private theorem takes (barrier : Barrier goal backlog started loop) {taken : Taken Task}
    {rest : TaskLoop Task State} {choice : Nat} (took : loop.take? choice = some (taken, rest)) :
    Barrier goal backlog (started ++ taken.task?.toList) rest := by
  cases barrier with
  | ahead left waits =>
      obtain ⟨rfl, rfl⟩ | ⟨letter, later, rfl, ⟨_, rfl, rfl⟩ | ahead⟩ :=
        waits.takes (TaskLoop.takes_of_take? took)
      · exact .reached [] rfl
      · exact .missed rfl ((List.append_nil started).symm ▸ waits.part)
      · exact .ahead later ahead
  | reached later passed =>
      refine .reached (later ++ taken.task?.toList) ?_
      rw [passed, List.append_assoc]
      rfl
  | missed ended part =>
      rw [TaskLoop.take?_of_not_running ended] at took
      cases took

end Barrier

namespace LoopAtWork

variable {perform : Task → State → Turn Task State}

/-- Nothing starts when something is sent. -/
theorem starts_posted (loop : TaskLoop Task State) (order : Order Task) :
    starts [posted loop order] = [] := by
  unfold posted
  split <;> rfl

/-- What is seen of a move is an order that is sent, or something taken up, or the end of a
task, or nothing. -/
theorem event?_cases (work : LoopAtWork Task State) (move : LoopMove Task) :
    work.event? move = none ∨ (∃ order, work.event? move = some (posted work.loop order)) ∨
      (∃ choice taken rest, work.event? move = some (.took taken) ∧
        work.loop.take? choice = some (taken, rest)) ∨
      work.event? move = some .brokeOff := by
  obtain ⟨loop, busy⟩ := work
  cases move with
  | order order => exact Or.inr (Or.inl ⟨order, rfl⟩)
  | wait milliseconds => exact Or.inl rfl
  | turn choice =>
      cases busy with
      | some turn =>
          obtain ⟨state, orders, crashed⟩ := turn
          cases orders with
          | cons order rest => exact Or.inr (Or.inl ⟨order, rfl⟩)
          | nil =>
              cases crashed with
              | true => exact Or.inr (Or.inr (Or.inr rfl))
              | false => exact Or.inl rfl
      | none =>
          simp only [event?]
          cases took : loop.take? choice with
          | none => exact Or.inl rfl
          | some taken => exact Or.inr (Or.inr (Or.inl ⟨choice, taken.1, taken.2, rfl, took⟩))
  | abandon => exact Or.inl rfl

/-- A task that goes on starts no other. -/
theorem starts_goesOn (loop : TaskLoop Task State) (turn : Turn Task State) :
    starts (goesOn loop turn).toList = [] := by
  unfold goesOn
  split
  · exact starts_posted loop _
  · split <;> rfl

/-- The state that some tasks leave when they run one after the other. -/
def leaves (perform : Task → State → Turn Task State) (state : State) (tasks : List Task) :
    State :=
  tasks.foldl (fun state task => (perform task state).state) state

/-- What a loop at work has done is to run the tasks that started, the last of which may
still be running. -/
inductive Progress (perform : Task → State → Turn Task State) (first : State)
    (started : List Task) : LoopAtWork Task State → Prop where
  | rests (loop : TaskLoop Task State) (done : loop.state = leaves perform first started) :
      Progress perform first started (idle loop)
  | works (loop : TaskLoop Task State) (turn : Turn Task State) (earlier : List Task)
      (task : Task) (all : started = earlier ++ [task])
      (done : loop.state = leaves perform first earlier)
      (outcome : turn.state = (perform task loop.state).state) :
      Progress perform first started ⟨loop, some turn⟩

/-- Taking a task up does not change the state yet. -/
theorem take?_state {loop rest : TaskLoop Task State} {choice : Nat} {taken : Taken Task}
    (took : loop.take? choice = some (taken, rest)) : rest.state = loop.state := by
  cases TaskLoop.takes_of_take? took <;> rfl

namespace Progress

variable {first : State} {started : List Task}

/-- A loop that runs no task may start one. -/
theorem takeUp {loop : TaskLoop Task State} (done : loop.state = leaves perform first started)
    (choice : Nat) :
    Progress perform first
      (started ++ starts ((loop.take? choice).map fun taken => .took taken.1).toList)
      (takeUp perform choice loop) := by
  unfold LoopAtWork.takeUp
  cases took : loop.take? choice with
  | none => exact (List.append_nil started).symm ▸ .rests _ done
  | some taken =>
      obtain ⟨taken, rest⟩ := taken
      have same : rest.state = leaves perform first started := (take?_state took).trans done
      cases taken with
      | atOnce task => exact .works rest _ started task rfl same rfl
      | due task => exact .works rest _ started task rfl same rfl
      | aside => exact (List.append_nil started).symm ▸ .rests rest same
      | stop => exact (List.append_nil started).symm ▸ .rests rest same

/-- A task that runs gives its next order, or is done. -/
theorem carryOn {loop : TaskLoop Task State} {turn : Turn Task State} {earlier : List Task}
    {task : Task} (all : started = earlier ++ [task])
    (done : loop.state = leaves perform first earlier)
    (outcome : turn.state = (perform task loop.state).state) :
    Progress perform first started (carryOn loop turn) := by
  unfold LoopAtWork.carryOn
  split
  · rename_i order rest _
    have same := loop.state_post order
    exact .works _ _ earlier task all (same.trans done) (same.symm ▸ outcome)
  · have finished : turn.state = leaves perform first started := by
      rw [outcome, done, all]
      unfold leaves
      rw [List.foldl_append]
      rfl
    refine .rests _ ?_
    split <;> exact finished

private theorem step {work : LoopAtWork Task State} (progress : Progress perform first started work)
    (move : LoopMove Task) :
    Progress perform first (started ++ starts (work.event? move).toList)
      (work.step perform move) := by
  cases progress with
  | rests loop done =>
      cases move with
      | order order =>
          change Progress perform first (started ++ starts [posted loop order])
            (idle (loop.post order))
          rw [starts_posted, List.append_nil]
          exact .rests _ ((loop.state_post order).trans done)
      | wait milliseconds => exact (List.append_nil started).symm ▸ .rests _ done
      | turn choice => exact takeUp done choice
      | abandon =>
          refine (List.append_nil started).symm ▸ ?_
          change Progress perform first started (if _ then idle loop.halt else idle loop)
          split
          · exact .rests _ done
          · exact .rests _ done
  | works loop turn earlier task all done outcome =>
      cases move with
      | order order =>
          change Progress perform first (started ++ starts [posted loop order])
            ⟨loop.post order, some turn⟩
          rw [starts_posted, List.append_nil]
          have same := loop.state_post order
          exact .works _ turn earlier task all (same.trans done) (same.symm ▸ outcome)
      | wait milliseconds =>
          exact (List.append_nil started).symm ▸ .works _ turn earlier task all done outcome
      | turn choice =>
          change Progress perform first (started ++ starts (goesOn loop turn).toList)
            (LoopAtWork.carryOn loop turn)
          rw [starts_goesOn, List.append_nil]
          exact carryOn all done outcome
      | abandon =>
          exact (List.append_nil started).symm ▸ .works loop turn earlier task all done outcome

/-- What is to be started is started in order by a whole run. -/
theorem run {work : LoopAtWork Task State} (progress : Progress perform first started work)
    (moves : List (LoopMove Task)) :
    Progress perform first (started ++ starts (work.trace perform moves))
      (work.run perform moves) := by
  induction moves generalizing started work with
  | nil => exact (List.append_nil started).symm ▸ progress
  | cons move moves ih =>
      have goesOn := ih (progress.step move)
      rw [List.append_assoc, ← starts_append] at goesOn
      exact goesOn

end Progress

/-- A loop that has ended does not begin again. -/
theorem running_step {work : LoopAtWork Task State} {move : LoopMove Task}
    (running : (work.step perform move).loop.running = true) : work.loop.running = true := by
  obtain ⟨loop, busy⟩ := work
  cases move with
  | order order => exact (loop.running_post order).symm.trans running
  | wait milliseconds => exact running
  | turn choice =>
      cases busy with
      | some turn =>
          simp only [step, carryOn] at running
          split at running
          · exact (loop.running_post _).symm.trans running
          · split at running
            · cases running
            · exact running
      | none =>
          by_contra ended
          have nothing := TaskLoop.take?_of_not_running (Bool.eq_false_iff.mpr ended) choice
          simp only [step, takeUp, nothing] at running
          exact ended running
  | abandon =>
      simp only [step] at running
      split at running
      · cases running
      · exact running

/-- A loop that runs at the end of a run has run before it. -/
theorem running_run {work : LoopAtWork Task State} {moves : List (LoopMove Task)}
    (running : (work.run perform moves).loop.running = true) : work.loop.running = true := by
  induction moves generalizing work with
  | nil => exact running
  | cons move moves ih => exact running_step (ih running)

/-- Once a loop has taken a request to stop or a task has broken off, the loop has ended and
no task starts any more. -/
theorem ended_of_ends (perform : Task → State → Turn Task State) (state : State)
    {moves : List (LoopMove Task)} {past rest : List (LoopEvent Task)} {last : LoopEvent Task}
    (split : (idle (TaskLoop.start state)).trace perform moves = past ++ last :: rest)
    (ends : last.ends = true) :
    starts (past ++ last :: rest) = starts past ∧
      ((idle (TaskLoop.start state)).run perform moves).loop.running = false := by
  obtain ⟨before, move, after, rfl, _, found, tail⟩ := exists_of_trace split
  have books := books_run perform (books_start state) before
  have stopped : Stopped (LoopAtWork.step perform _ move) := stopped_of_ends books found ends
  constructor
  · have first : starts [last] = [] := by
      unfold LoopEvent.ends at ends
      split at ends
      · rfl
      · rfl
      all_goals cases ends
    have quiet : starts rest = [] := tail ▸ stopped.starts_trace after
    rw [starts_append, ← List.singleton_append, starts_append, first, quiet]
    exact List.append_nil _
  · refine Bool.eq_false_iff.mpr fun running => ?_
    rw [run_append, run_cons] at running
    exact Bool.eq_false_iff.mp stopped.ended (running_run running)

end LoopAtWork

end CallControl
