import CallControl.Proofs.LoopAtWork
import Mathlib.Data.List.Perm.Subperm

/-! # The order in which tasks run

Whatever happens to a loop at work leaves a trace (`LoopAtWork.trace`): the letters that
reach its mailbox, what it takes up and where a task breaks off. As long as the loop runs,
the letters that it has taken and those that still lie in its mailbox are the letters that
reached it, in order, and each task of a letter taken has either started or is held back
(`Underway`). A loop that has ended starts nothing (`Ended`). So the tasks that are to run
at once start in the order in which they were enqueued, none starts twice, all that came
before the first request to stop have run when the loop ends by it, and nothing starts
afterwards (`LoopAtWork.tasks_start_in_order`). And a loop that gets its turns does get there: so
many turns, counted beforehand, start all that waits before a request to stop, and end the loop
if there is one (`LoopAtWork.served_of_turns`).
-/

namespace CallControl

variable {Task State : Type}

/-- The task of a letter that asks for it to run at once. -/
def Letter.atOnce? : Letter Task → Option Task
  | .run task => some task
  | .hold _ _ => none
  | .stop => none

/-- The task of a letter, held back or not. -/
def Letter.task? : Letter Task → Option Task
  | .run task => some task
  | .hold _ task => some task
  | .stop => none

def Letter.isStop : Letter Task → Bool
  | .stop => true
  | .run _ => false
  | .hold _ _ => false

/-- What is seen of a loop at work. -/
inductive LoopEvent (Task : Type) where
  /-- A letter reaches the mailbox. -/
  | enqueued (letter : Letter Task)
  /-- An order is sent to a loop that has ended. -/
  | dropped (order : Order Task)
  | took (taken : Taken Task)
  /-- The task that runs breaks off. -/
  | brokeOff
  deriving Repr, DecidableEq

namespace LoopEvent

def letter? : LoopEvent Task → Option (Letter Task)
  | .enqueued letter => some letter
  | .dropped _ => none
  | .took _ => none
  | .brokeOff => none

/-- The task that starts, held back before or not. -/
def start? : LoopEvent Task → Option Task
  | .took taken => taken.task?
  | .enqueued _ => none
  | .dropped _ => none
  | .brokeOff => none

/-- The task that starts without having been held back. -/
def startAtOnce? : LoopEvent Task → Option Task
  | .took (.atOnce task) => some task
  | .took .aside => none
  | .took (.due _) => none
  | .took .stop => none
  | .enqueued _ => none
  | .dropped _ => none
  | .brokeOff => none

/-- A loop takes a request to stop, or its task breaks off. -/
def ends : LoopEvent Task → Bool
  | .took .stop => true
  | .brokeOff => true
  | .took (.atOnce _) => false
  | .took .aside => false
  | .took (.due _) => false
  | .enqueued _ => false
  | .dropped _ => false

end LoopEvent

/-- The letters that reached the mailbox, in order. -/
def letters (seen : List (LoopEvent Task)) : List (Letter Task) :=
  seen.filterMap LoopEvent.letter?

/-- The tasks that started, in order. -/
def starts (seen : List (LoopEvent Task)) : List Task := seen.filterMap LoopEvent.start?

/-- The tasks that started without having been held back, in order. -/
def startsAtOnce (seen : List (LoopEvent Task)) : List Task :=
  seen.filterMap LoopEvent.startAtOnce?

@[simp] theorem letters_append (earlier later : List (LoopEvent Task)) :
    letters (earlier ++ later) = letters earlier ++ letters later :=
  List.filterMap_append

@[simp] theorem starts_append (earlier later : List (LoopEvent Task)) :
    starts (earlier ++ later) = starts earlier ++ starts later :=
  List.filterMap_append

@[simp] theorem startsAtOnce_append (earlier later : List (LoopEvent Task)) :
    startsAtOnce (earlier ++ later) = startsAtOnce earlier ++ startsAtOnce later :=
  List.filterMap_append

namespace LoopAtWork

/-- What is seen of an order that is sent to a loop. -/
def posted (loop : TaskLoop Task State) (order : Order Task) : LoopEvent Task :=
  if loop.running then .enqueued (TaskLoop.letterAt loop.clock order) else .dropped order

/-- What is seen of a task going on. -/
def goesOn (loop : TaskLoop Task State) (turn : Turn Task State) : Option (LoopEvent Task) :=
  match turn.orders with
  | order :: _ => some (posted loop order)
  | [] => if turn.crashed then some .brokeOff else none

/-- What is seen of a move. -/
def event? (work : LoopAtWork Task State) : LoopMove Task → Option (LoopEvent Task)
  | .order order => some (posted work.loop order)
  | .wait _ => none
  | .turn choice =>
      match work.busy with
      | some turn => goesOn work.loop turn
      | none => (work.loop.take? choice).map fun taken => .took taken.1
  | .abandon => none

/-- What is seen of some moves. -/
def trace (perform : Task → State → Turn Task State) (work : LoopAtWork Task State) :
    List (LoopMove Task) → List (LoopEvent Task)
  | [] => []
  | move :: moves => (work.event? move).toList ++ trace perform (work.step perform move) moves

variable {perform : Task → State → Turn Task State}

/-! ## What a move does -/

/-- What a move does to a loop that runs: what is seen of it, and what it leaves. -/
inductive Happens (loop : TaskLoop Task State) :
    Option (LoopEvent Task) → LoopAtWork Task State → Prop where
  | posts (order : Order Task) (busy : Option (Turn Task State)) :
      Happens loop (some (.enqueued (TaskLoop.letterAt loop.clock order)))
        ⟨loop.post order, busy⟩
  | passes (state : State) (clock : Nat) (busy : Option (Turn Task State)) :
      Happens loop none ⟨{ loop with state, clock }, busy⟩
  | starts (task : Task) (rest : List (Letter Task)) (busy : Option (Turn Task State))
      (oldest : loop.mailbox = .run task :: rest) :
      Happens loop (some (.took (.atOnce task))) ⟨{ loop with mailbox := rest }, busy⟩
  | holdsBack (deadline : Nat) (task : Task) (rest : List (Letter Task))
      (busy : Option (Turn Task State)) (oldest : loop.mailbox = .hold deadline task :: rest) :
      Happens loop (some (.took .aside))
        ⟨{ loop with mailbox := rest, delayed := loop.delayed ++ [(deadline, task)] }, busy⟩
  | startsDue (deadline : Nat) (task : Task) (later : List (Nat × Task))
      (busy : Option (Turn Task State)) (held : loop.delayed.Perm ((deadline, task) :: later)) :
      Happens loop (some (.took (.due task))) ⟨{ loop with delayed := later }, busy⟩
  | stops (rest : List (Letter Task)) (oldest : loop.mailbox = .stop :: rest) :
      Happens loop (some (.took .stop)) (idle loop.halt)
  | breaksOff (state : State) : Happens loop (some .brokeOff) (idle { loop with state }.halt)
  | isAbandoned (empty : loop.mailbox = []) : Happens loop none (idle loop.halt)

/-- An order for a running loop is put into its mailbox. -/
theorem posted_of_running {loop : TaskLoop Task State} (running : loop.running = true)
    (order : Order Task) :
    posted loop order = .enqueued (TaskLoop.letterAt loop.clock order) := by
  simp only [posted, running, ↓reduceIte]

/-- An order for a loop that has ended is dropped. -/
theorem posted_of_not_running {loop : TaskLoop Task State} (ended : loop.running = false)
    (order : Order Task) : posted loop order = .dropped order := by
  simp only [posted, ended, Bool.false_eq_true, ↓reduceIte]

private theorem happens_carryOn (loop : TaskLoop Task State) (running : loop.running = true)
    (turn : Turn Task State) : Happens loop (goesOn loop turn) (carryOn loop turn) := by
  obtain ⟨state, orders, crashed⟩ := turn
  cases orders with
  | nil =>
      cases crashed with
      | true => exact .breaksOff state
      | false => exact .passes state loop.clock none
  | cons order rest =>
      change Happens loop (some (posted loop order)) _
      rw [posted_of_running running]
      exact .posts order _

private theorem happens_takeUp (loop : TaskLoop Task State) (running : loop.running = true)
    (choice : Nat) :
    Happens loop ((loop.take? choice).map fun taken => .took taken.1)
      (takeUp perform choice loop) := by
  obtain ⟨state, _, clock, mailbox, delayed⟩ := loop
  cases running
  unfold takeUp
  cases mailbox with
  | cons letter rest =>
      cases letter with
      | run task => exact .starts task rest _ rfl
      | hold deadline task => exact .holdsBack deadline task rest none rfl
      | stop => exact .stops rest rfl
  | nil =>
      simp only [TaskLoop.take?, ↓reduceIte]
      cases popped : popGreatest? choice delayed with
      | none => exact .passes state clock none
      | some taken =>
          obtain ⟨⟨deadline, task⟩, later⟩ := taken
          by_cases due : deadline ≤ clock
          · simp only [due, ↓reduceIte]
            exact .startsDue deadline task later _ (popGreatest?_spec popped).1
          · simp only [due, ↓reduceIte]
            exact .passes state clock none

private theorem happens_step (perform : Task → State → Turn Task State)
    (work : LoopAtWork Task State) (running : work.loop.running = true) (move : LoopMove Task) :
    Happens work.loop (work.event? move) (work.step perform move) := by
  obtain ⟨loop, busy⟩ := work
  change loop.running = true at running
  cases move with
  | order order =>
      change Happens loop (some (posted loop order)) ⟨loop.post order, busy⟩
      rw [posted_of_running running]
      exact .posts order busy
  | wait milliseconds => exact .passes loop.state (loop.clock + milliseconds) busy
  | turn choice =>
      cases busy with
      | some turn => exact happens_carryOn loop running turn
      | none => exact happens_takeUp loop running choice
  | abandon =>
      change Happens loop none
        (if busy.isNone && loop.mailbox.isEmpty then idle loop.halt else ⟨loop, busy⟩)
      split
      · rename_i alone
        have empty : loop.mailbox = [] := by
          simp only [Bool.and_eq_true, List.isEmpty_iff] at alone
          exact alone.2
        exact .isAbandoned empty
      · exact .passes loop.state loop.clock busy

end LoopAtWork

/-! ## The books of a loop -/

/-- The books of a loop that runs: the letters that it has taken and those in its mailbox
are all that reached it, and every task that it has taken has started or is held back. -/
structure Underway (past : List (LoopEvent Task)) (taken : List (Letter Task))
    (loop : TaskLoop Task State) : Prop where
  running : loop.running = true
  sent : letters past = taken ++ loop.mailbox
  stopless : ∀ letter ∈ taken, letter.isStop = false
  atOnce : startsAtOnce past = taken.filterMap Letter.atOnce?
  all : (starts past ++ loop.delayed.map Prod.snd).Perm (taken.filterMap Letter.task?)

namespace Underway

variable {past : List (LoopEvent Task)} {taken : List (Letter Task)} {loop : TaskLoop Task State}

private theorem start (state : State) :
    Underway [] [] (TaskLoop.start state : TaskLoop Task State) where
  running := rfl
  sent := rfl
  stopless := by
    intro letter member
    cases member
  atOnce := rfl
  all := List.Perm.refl _

/-- What has started at once was put in first. -/
theorem ordered (books : Underway past taken loop) :
    startsAtOnce past <+: (letters past).filterMap Letter.atOnce? := by
  rw [books.sent, books.atOnce, List.filterMap_append]
  exact List.prefix_append _ _

private theorem once (books : Underway past taken loop) :
    (starts past).Subperm ((letters past).filterMap Letter.task?) := by
  have started : (starts past).Subperm (taken.filterMap Letter.task?) :=
    (List.sublist_append_left _ _).subperm.trans books.all.subperm
  rw [books.sent, List.filterMap_append]
  exact started.trans (List.sublist_append_left _ _).subperm

/-- Once no letter is left before a request to stop, all those before it have started. -/
theorem drained (books : Underway past taken loop)
    (last : (loop.mailbox.takeWhile fun letter => !letter.isStop) = []) :
    startsAtOnce past =
      ((letters past).takeWhile fun letter => !letter.isStop).filterMap Letter.atOnce? := by
  have kept : ∀ letter ∈ taken, (!letter.isStop) = true := by
    intro letter member
    rw [books.stopless letter member]
    rfl
  rw [books.sent, List.takeWhile_append_of_pos kept, last, List.append_nil, books.atOnce]

private theorem post (books : Underway past taken loop) (order : Order Task) :
    Underway (past ++ [.enqueued (TaskLoop.letterAt loop.clock order)]) taken
      (loop.post order) := by
  have posted : loop.post order =
      { loop with mailbox := loop.mailbox ++ [TaskLoop.letterAt loop.clock order] } := by
    simp only [TaskLoop.post, books.running, ↓reduceIte]
  rw [posted]
  refine ⟨books.running, ?_, books.stopless, ?_, ?_⟩
  · rw [letters_append, books.sent, List.append_assoc]
    rfl
  · rw [startsAtOnce_append, books.atOnce]
    exact List.append_nil _
  · rw [starts_append]
    change (starts past ++ [] ++ _).Perm _
    rw [List.append_nil]
    exact books.all

private theorem pass (books : Underway past taken loop) (state : State) (clock : Nat) :
    Underway past taken { loop with state, clock } :=
  ⟨books.running, books.sent, books.stopless, books.atOnce, books.all⟩

private theorem sent_of_take (books : Underway past taken loop) {letter : Letter Task}
    {rest : List (Letter Task)} (oldest : loop.mailbox = letter :: rest)
    {event : LoopEvent Task} (silent : event.letter? = none) :
    letters (past ++ [event]) = taken ++ [letter] ++ rest := by
  have nothing : letters [event] = [] := by
    unfold letters
    rw [List.filterMap_cons_none silent]
    rfl
  rw [letters_append, nothing, List.append_nil, books.sent, oldest, List.append_assoc]
  rfl

private theorem stopless_concat (books : Underway past taken loop) {letter : Letter Task}
    (stopless : letter.isStop = false) : ∀ other ∈ taken ++ [letter], other.isStop = false := by
  intro other member
  rcases List.mem_append.mp member with inside | inside
  · exact books.stopless other inside
  · rw [List.mem_singleton.mp inside]
    exact stopless

private theorem takeTask (books : Underway past taken loop) {task : Task}
    {rest : List (Letter Task)} (oldest : loop.mailbox = .run task :: rest) :
    Underway (past ++ [.took (.atOnce task)]) (taken ++ [.run task])
      { loop with mailbox := rest } := by
  refine ⟨books.running, ?_, ?_, ?_, ?_⟩
  · exact books.sent_of_take oldest rfl
  · exact books.stopless_concat rfl
  · rw [startsAtOnce_append, books.atOnce, List.filterMap_append]
    rfl
  · rw [starts_append, List.filterMap_append]
    have moved : (starts past ++ [task] ++ loop.delayed.map Prod.snd).Perm
        (starts past ++ loop.delayed.map Prod.snd ++ [task]) := by
      rw [List.append_assoc, List.append_assoc]
      exact List.Perm.append_left _ List.perm_append_comm
    exact moved.trans (books.all.append_right [task])

private theorem takeAside (books : Underway past taken loop) {deadline : Nat} {task : Task}
    {rest : List (Letter Task)} (oldest : loop.mailbox = .hold deadline task :: rest) :
    Underway (past ++ [.took .aside]) (taken ++ [.hold deadline task])
      { loop with mailbox := rest, delayed := loop.delayed ++ [(deadline, task)] } := by
  refine ⟨books.running, ?_, ?_, ?_, ?_⟩
  · exact books.sent_of_take oldest rfl
  · exact books.stopless_concat rfl
  · rw [startsAtOnce_append, books.atOnce, List.filterMap_append]
    rfl
  · rw [starts_append, List.filterMap_append, List.map_append, ← List.append_assoc]
    change (starts past ++ [] ++ _ ++ [task]).Perm _
    rw [List.append_nil]
    exact books.all.append_right [task]

private theorem takeDue (books : Underway past taken loop) {deadline : Nat} {task : Task}
    {later : List (Nat × Task)} (held : loop.delayed.Perm ((deadline, task) :: later)) :
    Underway (past ++ [.took (.due task)]) taken { loop with delayed := later } := by
  refine ⟨books.running, ?_, books.stopless, ?_, ?_⟩
  · rw [letters_append, books.sent]
    exact List.append_nil _
  · rw [startsAtOnce_append, books.atOnce]
    exact List.append_nil _
  · rw [starts_append, List.append_assoc]
    exact ((held.map Prod.snd).symm.append_left _).trans books.all

end Underway

/-- A loop that has ended and runs no task. -/
structure LoopAtWork.Stopped (work : LoopAtWork Task State) : Prop where
  ended : work.loop.running = false
  resting : work.busy = none

/-- The books of a loop that has ended: unless a task broke off, every task that was to
run at once and came before a request to stop has started. -/
structure Ended (past : List (LoopEvent Task)) (work : LoopAtWork Task State) : Prop where
  stopped : work.Stopped
  ordered : startsAtOnce past <+: (letters past).filterMap Letter.atOnce?
  once : (starts past).Subperm ((letters past).filterMap Letter.task?)
  drained : LoopEvent.brokeOff ∉ past →
    startsAtOnce past =
      ((letters past).takeWhile fun letter => !letter.isStop).filterMap Letter.atOnce?

/-- Events that start nothing and send nothing. -/
structure Idling (seen : List (LoopEvent Task)) : Prop where
  sent : letters seen = []
  started : starts seen = []
  startedAtOnce : startsAtOnce seen = []

namespace Idling

variable {past seen : List (LoopEvent Task)}

private theorem letters_eq (idling : Idling seen) : letters (past ++ seen) = letters past := by
  rw [letters_append, idling.sent, List.append_nil]

private theorem starts_eq (idling : Idling seen) : starts (past ++ seen) = starts past := by
  rw [starts_append, idling.started, List.append_nil]

private theorem startsAtOnce_eq (idling : Idling seen) :
    startsAtOnce (past ++ seen) = startsAtOnce past := by
  rw [startsAtOnce_append, idling.startedAtOnce, List.append_nil]

end Idling

private theorem Underway.halt {past : List (LoopEvent Task)} {taken : List (Letter Task)}
    {loop : TaskLoop Task State} (books : Underway past taken loop)
    {seen : List (LoopEvent Task)} (idling : Idling seen) (state : State)
    (last : LoopEvent.brokeOff ∉ seen →
      (loop.mailbox.takeWhile fun letter => !letter.isStop) = []) :
    Ended (past ++ seen) (LoopAtWork.idle { loop with state }.halt) := by
  refine ⟨⟨rfl, rfl⟩, ?_, ?_, ?_⟩
  · rw [idling.letters_eq, idling.startsAtOnce_eq]
    exact books.ordered
  · rw [idling.letters_eq, idling.starts_eq]
    exact books.once
  · intro whole
    rw [idling.letters_eq, idling.startsAtOnce_eq]
    apply books.drained
    apply last
    intro member
    exact whole (List.mem_append_right _ member)

private theorem Ended.idle {past : List (LoopEvent Task)} {work next : LoopAtWork Task State}
    (books : Ended past work) {seen : List (LoopEvent Task)} (idling : Idling seen)
    (stopped : next.Stopped) : Ended (past ++ seen) next := by
  refine ⟨stopped, ?_, ?_, ?_⟩
  · rw [idling.letters_eq, idling.startsAtOnce_eq]
    exact books.ordered
  · rw [idling.letters_eq, idling.starts_eq]
    exact books.once
  · intro whole
    rw [idling.letters_eq, idling.startsAtOnce_eq]
    apply books.drained
    intro member
    exact whole (List.mem_append_left _ member)

/-- The books of a loop at work after some events. -/
def Books (past : List (LoopEvent Task)) (work : LoopAtWork Task State) : Prop :=
  (∃ taken, Underway past taken work.loop) ∨ Ended past work

namespace LoopAtWork

variable {perform : Task → State → Turn Task State}

private theorem Happens.books {past : List (LoopEvent Task)} {taken : List (Letter Task)}
    {loop : TaskLoop Task State} {event : Option (LoopEvent Task)}
    {next : LoopAtWork Task State} (happens : Happens loop event next)
    (books : Underway past taken loop) : Books (past ++ event.toList) next := by
  cases happens with
  | posts order busy => exact .inl ⟨taken, books.post order⟩
  | passes state clock busy =>
      rw [Option.toList_none, List.append_nil]
      exact .inl ⟨taken, books.pass state clock⟩
  | starts task rest busy oldest => exact .inl ⟨_, books.takeTask oldest⟩
  | holdsBack deadline task rest busy oldest => exact .inl ⟨_, books.takeAside oldest⟩
  | startsDue deadline task later busy held => exact .inl ⟨taken, books.takeDue held⟩
  | stops rest oldest =>
      refine .inr (books.halt ⟨rfl, rfl, rfl⟩ loop.state ?_)
      intro _
      rw [oldest]
      rfl
  | breaksOff state =>
      refine .inr (books.halt ⟨rfl, rfl, rfl⟩ state ?_)
      intro whole
      exact absurd (List.mem_singleton_self _) whole
  | isAbandoned empty =>
      refine .inr (books.halt ⟨rfl, rfl, rfl⟩ loop.state ?_)
      intro _
      rw [empty]
      rfl

namespace Stopped

variable {work : LoopAtWork Task State}

private theorem step (stopped : work.Stopped) (perform : Task → State → Turn Task State)
    (move : LoopMove Task) : (work.step perform move).Stopped := by
  obtain ⟨loop, busy⟩ := work
  obtain ⟨ended, resting⟩ := stopped
  cases resting
  cases move with
  | order order =>
      refine ⟨?_, rfl⟩
      change (loop.post order).running = false
      rw [TaskLoop.post_of_not_running ended]
      exact ended
  | wait milliseconds => exact ⟨ended, rfl⟩
  | turn choice =>
      have nothing := TaskLoop.take?_of_not_running ended choice
      change (takeUp perform choice loop).Stopped
      unfold takeUp
      rw [nothing]
      exact ⟨ended, rfl⟩
  | abandon =>
      change Stopped (if _ then idle loop.halt else ⟨loop, none⟩)
      split
      · exact ⟨rfl, rfl⟩
      · exact ⟨ended, rfl⟩

/-- A loop that has ended drops every order and does nothing else. -/
theorem event? (stopped : work.Stopped) (move : LoopMove Task) :
    work.event? move = none ∨ ∃ order, work.event? move = some (.dropped order) := by
  obtain ⟨loop, busy⟩ := work
  obtain ⟨ended, resting⟩ := stopped
  cases resting
  cases move with
  | order order =>
      refine .inr ⟨order, ?_⟩
      exact congrArg some (posted_of_not_running ended order)
  | wait milliseconds => exact .inl rfl
  | turn choice =>
      have nothing := TaskLoop.take?_of_not_running ended choice
      left
      change (loop.take? choice).map _ = none
      rw [nothing]
      rfl
  | abandon => exact .inl rfl

private theorem run (stopped : work.Stopped) (moves : List (LoopMove Task)) :
    (work.run perform moves).Stopped := by
  induction moves generalizing work with
  | nil => exact stopped
  | cons move moves ih => exact ih (stopped.step perform move)

private theorem idling (stopped : work.Stopped) (move : LoopMove Task) :
    Idling (work.event? move).toList := by
  rcases stopped.event? move with quiet | ⟨order, quiet⟩
  · rw [quiet]
    exact ⟨rfl, rfl, rfl⟩
  · rw [quiet]
    exact ⟨rfl, rfl, rfl⟩

/-- Nothing starts in a loop that has ended. -/
theorem starts_trace (stopped : work.Stopped) (moves : List (LoopMove Task)) :
    starts (work.trace perform moves) = [] := by
  induction moves generalizing work with
  | nil => rfl
  | cons move moves ih =>
      have rest := ih (stopped.step perform move)
      unfold trace
      rw [starts_append, (stopped.idling move).started, rest]
      rfl

end Stopped

/-! ## Every run -/

variable {past : List (LoopEvent Task)} {work : LoopAtWork Task State}

private theorem books_step (perform : Task → State → Turn Task State) (books : Books past work)
    (move : LoopMove Task) :
    Books (past ++ (work.event? move).toList) (work.step perform move) := by
  rcases books with ⟨taken, underway⟩ | ended
  · exact (happens_step perform work underway.running move).books underway
  · exact .inr (ended.idle (ended.stopped.idling move) (ended.stopped.step perform move))

/-- The books of a loop stay right in every run. -/
theorem books_run (perform : Task → State → Turn Task State) (books : Books past work)
    (moves : List (LoopMove Task)) :
    Books (past ++ work.trace perform moves) (work.run perform moves) := by
  induction moves generalizing past work with
  | nil =>
      unfold trace
      rw [List.append_nil]
      exact books
  | cons move moves ih =>
      have rest := ih (books_step perform books move)
      rw [List.append_assoc] at rest
      exact rest

private theorem trace_append (work : LoopAtWork Task State) (earlier later : List (LoopMove Task)) :
    work.trace perform (earlier ++ later) =
      work.trace perform earlier ++ (work.run perform earlier).trace perform later := by
  induction earlier generalizing work with
  | nil => rfl
  | cons move moves ih =>
      rw [List.cons_append, trace, ih, ← List.append_assoc]
      rfl

/-- An event was seen at some move. -/
theorem exists_of_trace {moves : List (LoopMove Task)} {before after : List (LoopEvent Task)}
    {event : LoopEvent Task} (seen : work.trace perform moves = before ++ event :: after) :
    ∃ earlier move later, moves = earlier ++ move :: later ∧
      work.trace perform earlier = before ∧
      (work.run perform earlier).event? move = some event ∧
      ((work.run perform earlier).step perform move).trace perform later = after := by
  induction moves generalizing work before with
  | nil =>
      unfold trace at seen
      exact absurd seen.symm (List.append_ne_nil_of_right_ne_nil _ (List.cons_ne_nil _ _))
  | cons move moves ih =>
      unfold trace at seen
      cases first : work.event? move with
      | none =>
          rw [first] at seen
          obtain ⟨earlier, other, later, split, past, found, rest⟩ := ih seen
          refine ⟨move :: earlier, other, later, congrArg (move :: ·) split, ?_, found, rest⟩
          unfold trace
          rw [first]
          exact past
      | some head =>
          rw [first] at seen
          change head :: trace perform (work.step perform move) moves = _ at seen
          cases before with
          | nil =>
              obtain ⟨rfl, rest⟩ := List.cons.inj seen
              exact ⟨[], move, moves, rfl, rfl, first, rest⟩
          | cons other before =>
              obtain ⟨rfl, rest⟩ := List.cons.inj seen
              obtain ⟨earlier, other, later, split, past, found, rest⟩ := ih rest
              refine ⟨move :: earlier, other, later, congrArg (move :: ·) split, ?_, found, rest⟩
              unfold trace
              rw [first, past]
              rfl

/-- A loop has ended once it has taken a request to stop or its task has broken off. -/
theorem stopped_of_ends (books : Books past work) {move : LoopMove Task}
    {event : LoopEvent Task} (seen : work.event? move = some event) (ends : event.ends = true) :
    (work.step perform move).Stopped := by
  rcases books with ⟨taken, underway⟩ | ended
  · have happens := happens_step perform work underway.running move
    rw [seen] at happens
    generalize work.step perform move = next at happens
    cases happens with
    | stops rest oldest => exact ⟨rfl, rfl⟩
    | breaksOff state => exact ⟨rfl, rfl⟩
    | posts order busy => cases ends
    | starts task rest busy oldest => cases ends
    | holdsBack deadline task rest busy oldest => cases ends
    | startsDue deadline task later busy held => cases ends
  · exact ended.stopped.step perform move

/-- The books of a loop that has just started are right. -/
theorem books_start (state : State) :
    Books [] (idle (TaskLoop.start state) : LoopAtWork Task State) :=
  .inl ⟨[], Underway.start state⟩

/-- Tasks that are to run at once start in the order in which they were enqueued, and no
task starts more often than it was enqueued. Unless a task broke off, a loop that has ended
has started all of those that were enqueued before the first request to stop. Once a loop
has taken a request to stop, or a task has broken off, nothing starts any more. -/
theorem tasks_start_in_order (perform : Task → State → Turn Task State) (state : State)
    (moves : List (LoopMove Task)) :
    let work : LoopAtWork Task State := idle (TaskLoop.start state)
    let seen := work.trace perform moves
    startsAtOnce seen <+: (letters seen).filterMap Letter.atOnce? ∧
    (starts seen).Subperm ((letters seen).filterMap Letter.task?) ∧
    ((work.run perform moves).loop.running = false → LoopEvent.brokeOff ∉ seen →
      startsAtOnce seen =
        ((letters seen).takeWhile fun letter => !letter.isStop).filterMap Letter.atOnce?) ∧
    ∀ before last after, seen = before ++ last :: after → last.ends = true →
      starts after = [] := by
  intro work seen
  have books : Books seen (work.run perform moves) := books_run perform (books_start state) moves
  refine ⟨?_, ?_, ?_, ?_⟩
  · rcases books with ⟨taken, underway⟩ | ended
    · exact underway.ordered
    · exact ended.ordered
  · rcases books with ⟨taken, underway⟩ | ended
    · exact underway.once
    · exact ended.once
  · intro exited whole
    rcases books with ⟨taken, underway⟩ | ended
    · exact absurd underway.running (Bool.eq_false_iff.mp exited)
    · exact ended.drained whole
  · intro before last after split ends
    obtain ⟨earlier, move, later, _, _, found, rest⟩ := exists_of_trace split
    have past := books_run perform (books_start state) earlier
    rw [← rest]
    exact (stopped_of_ends past found ends).starts_trace later

end LoopAtWork

/-- A task that logs its number; the task 2 sends the task 7 and holds the task 8 back. -/
def logging : Nat → List Nat → Turn Nat (List Nat)
  | 2, log => ⟨log ++ [2], [.run 7, .runAfter 0 8], false⟩
  | task, log => ⟨log ++ [task], [], false⟩

/-- A task that is held back, one that sends others, and a request to stop between two more. -/
def stopBetween : List (LoopMove Nat) :=
  [.order (.runAfter 5 3), .order (.run 2), .turn 0, .turn 0, .wait 9, .order (.run 4), .turn 0,
    .order .stop, .turn 0, .turn 0, .order (.run 5)] ++ List.replicate 5 (.turn 0) ++
    [.order (.run 6), .turn 0]

namespace LoopAtWork

/-- The tasks that come before the request to stop start in order and the loop ends; the task
behind the request does not start, nor the one that is held back and due, nor the follow-up that
was to be held back, nor the one that is sent when the loop has ended. -/
theorem tasks_start_in_order_stopBetween :
    let seen := (idle (.start [])).trace logging stopBetween
    ((idle (.start [])).run logging stopBetween).loop.running = false ∧
      LoopEvent.brokeOff ∉ seen ∧ (letters seen).filterMap Letter.task? = [3, 2, 4, 7, 8, 5] ∧
      startsAtOnce seen = [2, 4, 7] ∧
      ∃ before after, seen = before ++ .took .stop :: after ∧ starts before = [2, 4, 7] ∧
        starts after = [] := by
  have ended : ((idle (.start [])).run logging stopBetween).loop.running = false := rfl
  have whole : LoopEvent.brokeOff ∉ (idle (.start [])).trace logging stopBetween := by decide
  have split : (idle (.start [])).trace logging stopBetween =
      [.enqueued (.hold 5 3), .enqueued (.run 2), .took .aside, .took (.atOnce 2),
        .enqueued (.run 4), .enqueued (.run 7), .enqueued .stop, .enqueued (.hold 9 8),
        .enqueued (.run 5), .took (.atOnce 4), .took (.atOnce 7)] ++
      .took .stop :: [.dropped (.run 6)] := rfl
  obtain ⟨_, _, drained, silent⟩ := tasks_start_in_order logging [] stopBetween
  exact ⟨ended, whole, rfl, drained ended whole, _, _, split, rfl, silent _ _ _ split rfl⟩

end LoopAtWork

/-! ## A loop that gets its turns -/

/-- The loop takes something up, or its task goes on. -/
def LoopMove.isTurn : LoopMove Task → Bool
  | .turn _ => true
  | .order _ => false
  | .wait _ => false
  | .abandon => false

/-- How many turns some letters take up, each task being done before the next letter is taken;
behind a task that breaks off and a request to stop there are none. -/
def turnsFor (perform : Task → State → Turn Task State) (state : State) : List (Letter Task) → Nat
  | [] => 0
  | .run task :: rest =>
      let turn := perform task state
      turn.orders.length + 2 + if turn.crashed then 0 else turnsFor perform turn.state rest
  | .hold _ _ :: rest => turnsFor perform state rest + 1
  | .stop :: _ => 1

namespace LoopAtWork

/-- How many turns a loop at work needs for some letters, with the task that it runs. -/
def effort (perform : Task → State → Turn Task State) (work : LoopAtWork Task State)
    (letters : List (Letter Task)) : Nat :=
  match work.busy with
  | none => turnsFor perform work.loop.state letters
  | some turn =>
      turn.orders.length + 1 +
        if turn.crashed then 0 else turnsFor perform turn.state letters

/-- The tasks of letters that are to run at once and come before the first request to stop. -/
def atOnceBeforeStop (letters : List (Letter Task)) : List Task :=
  (letters.takeWhile fun letter => !letter.isStop).filterMap Letter.atOnce?

/-- What has become of letters that lay in a mailbox: a task has broken off, or the tasks before
the first request to stop have started, and the loop has ended if there was one. -/
def Served (waiting : List (Letter Task)) (seen : List (LoopEvent Task))
    (reached : LoopAtWork Task State) : Prop :=
  .brokeOff ∈ seen ∨
    atOnceBeforeStop waiting <+: startsAtOnce seen ∧
      (.stop ∈ waiting → reached.loop.running = false)

/-- What a move does to the letters that a running loop finds first in its mailbox: a task breaks
off; or the letters stay there, or all but the first, which was none to stop, and a turn brings
the loop nearer to their end; or the first was a request to stop, and the loop ends. -/
inductive Serves (perform : Task → State → Turn Task State) (work : LoopAtWork Task State)
    (move : LoopMove Task) (letter : Letter Task) (rest : List (Letter Task)) : Prop where
  | breaksOff (broken : work.event? move = some .brokeOff)
  | goesOn (waiting behind : List (Letter Task))
      (running : (work.step perform move).loop.running = true)
      (mailbox : (work.step perform move).loop.mailbox = waiting ++ behind)
      (nearer : (work.step perform move).effort perform waiting + [move].countP LoopMove.isTurn =
        work.effort perform (letter :: rest))
      (started : startsAtOnce (work.event? move).toList ++ atOnceBeforeStop waiting =
        atOnceBeforeStop (letter :: rest))
      (stops : .stop ∈ letter :: rest → .stop ∈ waiting)
  | stops (first : letter = .stop) (stopped : (work.step perform move).Stopped)

/-- A task that runs gives its next order, or is done with, or breaks off. -/
private theorem serves_carryOn {work : LoopAtWork Task State} {turn : Turn Task State}
    (busy : work.busy = some turn) (running : work.loop.running = true) {letter : Letter Task}
    {rest behind : List (Letter Task)} (mailbox : work.loop.mailbox = (letter :: rest) ++ behind)
    (choice : Nat) : work.Serves perform (.turn choice) letter rest := by
  obtain ⟨loop, _⟩ := work
  obtain rfl : _ = some turn := busy
  obtain ⟨state, orders, crashed⟩ := turn
  change loop.running = true at running
  change loop.mailbox = _ at mailbox
  cases orders with
  | cons order orders =>
      have seen : event? ⟨loop, some ⟨state, order :: orders, crashed⟩⟩ (.turn choice) =
          some (.enqueued (TaskLoop.letterAt loop.clock order)) :=
        congrArg some (posted_of_running running order)
      refine .goesOn (letter :: rest) (behind ++ [TaskLoop.letterAt loop.clock order])
        ((loop.running_post order).trans running) ?_ ?_ ?_ id
      · change (loop.post order).mailbox = _
        rw [TaskLoop.post_of_running running, mailbox, List.append_assoc]
      · simp only [step, carryOn, effort, List.countP_singleton, LoopMove.isTurn, List.length_cons,
          ↓reduceIte]
        omega
      · rw [seen]
        rfl
  | nil =>
      cases crashed with
      | true => exact .breaksOff rfl
      | false =>
          refine .goesOn (letter :: rest) behind running mailbox ?_ rfl id
          simp only [step, carryOn, idle, effort, List.countP_singleton, LoopMove.isTurn,
            List.length_nil, ↓reduceIte, Bool.false_eq_true]
          omega

/-- A loop that runs no task takes up the first letter. -/
private theorem serves_takeUp {work : LoopAtWork Task State} (resting : work.busy = none)
    (running : work.loop.running = true) {letter : Letter Task} {rest behind : List (Letter Task)}
    (mailbox : work.loop.mailbox = (letter :: rest) ++ behind) (choice : Nat) :
    work.Serves perform (.turn choice) letter rest := by
  obtain ⟨⟨state, _, clock, _, delayed⟩, _⟩ := work
  obtain rfl : _ = true := running
  obtain rfl : _ = none := resting
  obtain rfl : _ = letter :: rest ++ behind := mailbox
  cases letter with
  | run task =>
      refine .goesOn rest behind rfl rfl ?_ rfl ?_
      · simp only [step, takeUp, TaskLoop.take?, List.cons_append, ↓reduceIte, Taken.task?,
          Option.map_some, effort, turnsFor, List.countP_singleton, LoopMove.isTurn]
        omega
      · intro member
        exact (List.mem_cons.mp member).resolve_left (by simp)
  | hold deadline task =>
      refine .goesOn rest behind rfl rfl rfl rfl ?_
      intro member
      exact (List.mem_cons.mp member).resolve_left (by simp)
  | stop => exact .stops rfl ⟨rfl, rfl⟩

private theorem serves_step (perform : Task → State → Turn Task State)
    (work : LoopAtWork Task State) (running : work.loop.running = true) {letter : Letter Task}
    {rest behind : List (Letter Task)} (mailbox : work.loop.mailbox = (letter :: rest) ++ behind)
    (move : LoopMove Task) :
    work.Serves perform move letter rest := by
  cases move with
  | order order =>
      have seen : work.event? (.order order) =
          some (.enqueued (TaskLoop.letterAt work.loop.clock order)) :=
        congrArg some (posted_of_running running order)
      refine .goesOn (letter :: rest) (behind ++ [TaskLoop.letterAt work.loop.clock order])
        ((work.loop.running_post order).trans running) ?_ ?_ ?_ id
      · change (work.loop.post order).mailbox = _
        rw [TaskLoop.post_of_running running, mailbox, List.append_assoc]
      · simp only [step, effort, work.loop.state_post order]
        rfl
      · rw [seen]
        rfl
  | wait milliseconds => exact .goesOn (letter :: rest) behind running mailbox rfl rfl id
  | turn choice =>
      cases busy : work.busy with
      | some turn => exact serves_carryOn busy running mailbox choice
      | none => exact serves_takeUp busy running mailbox choice
  | abandon =>
      have same : work.step perform .abandon = work := by
        simp only [step, mailbox, List.cons_append, List.isEmpty_cons, Bool.and_false,
          Bool.false_eq_true, ↓reduceIte]
      exact .goesOn (letter :: rest) behind (by rw [same]; exact running)
        (by rw [same]; exact mailbox) (by rw [same]; rfl) rfl id

/-- Letters that a running loop finds first in its mailbox are served in so many turns,
whatever is sent meanwhile. -/
theorem served_run (work : LoopAtWork Task State) (running : work.loop.running = true)
    {waiting behind : List (Letter Task)} (mailbox : work.loop.mailbox = waiting ++ behind)
    {moves : List (LoopMove Task)}
    (enough : work.effort perform waiting ≤ moves.countP LoopMove.isTurn) :
    Served waiting (work.trace perform moves) (work.run perform moves) := by
  induction moves generalizing work waiting behind with
  | nil =>
      cases waiting with
      | nil => exact .inr ⟨List.nil_prefix, nofun⟩
      | cons letter rest =>
          have some : 0 < work.effort perform (letter :: rest) := by
            unfold effort
            split
            · cases letter <;> simp only [turnsFor] <;> omega
            · omega
          exact absurd enough (Nat.not_le_of_lt some)
  | cons move moves ih =>
      cases waiting with
      | nil => exact .inr ⟨List.nil_prefix, nofun⟩
      | cons letter rest =>
          have counted : ([move] ++ moves).countP LoopMove.isTurn =
              [move].countP LoopMove.isTurn + moves.countP LoopMove.isTurn := List.countP_append
          rw [List.singleton_append] at counted
          unfold trace
          cases serves_step perform work running mailbox move with
          | breaksOff broken =>
              rw [broken]
              exact .inl List.mem_cons_self
          | goesOn waiting behind running mailbox nearer started stops =>
              rcases ih _ running mailbox (by omega) with broken | ⟨part, ended⟩
              · exact .inl (List.mem_append_right _ broken)
              · refine .inr ⟨?_, fun member => ended (stops member)⟩
                rw [startsAtOnce_append, ← started]
                exact (List.prefix_append_right_inj _).mpr part
          | stops first stopped =>
              subst first
              refine .inr ⟨List.nil_prefix, fun _ => ?_⟩
              exact (stopped.run moves).ended

/-- Unless a task breaks off, a loop that gets as many turns as the letters in its mailbox take
has started every task that was to run at once and was enqueued by then before the first request
to stop, whatever is sent and whatever time passes meanwhile; and it has ended if a request to
stop was among what was enqueued. -/
theorem served_of_turns (perform : Task → State → Turn Task State) (state : State)
    (earlier later : List (LoopMove Task)) :
    let work := (idle (TaskLoop.start state)).run perform earlier
    let before := (idle (TaskLoop.start state)).trace perform earlier
    let seen := (idle (TaskLoop.start state)).trace perform (earlier ++ later)
    work.effort perform work.loop.mailbox ≤ later.countP LoopMove.isTurn →
      Served (letters before) seen (work.run perform later) := by
  intro work before seen enough
  have split : seen = before ++ work.trace perform later := trace_append _ earlier later
  have books : Books before work := books_run perform (books_start state) earlier
  rw [split]
  rcases books with ⟨taken, underway⟩ | ended
  · have stopless : ∀ letter ∈ taken, (!letter.isStop) = true := fun letter member => by
      rw [underway.stopless letter member]
      rfl
    rcases work.served_run underway.running (List.append_nil _).symm enough with
      broken | ⟨part, ends⟩
    · exact .inl (List.mem_append_right _ broken)
    · refine .inr ⟨?_, fun member => ends ?_⟩
      · unfold atOnceBeforeStop at part ⊢
        rw [underway.sent, List.takeWhile_append_of_pos stopless, List.filterMap_append,
          startsAtOnce_append, underway.atOnce]
        exact (List.prefix_append_right_inj _).mpr part
      · rw [underway.sent] at member
        refine (List.mem_append.mp member).resolve_left fun inside => ?_
        cases underway.stopless _ inside
  · by_cases broken : LoopEvent.brokeOff ∈ before
    · exact .inl (List.mem_append_left _ broken)
    · refine .inr ⟨?_, fun _ => (ended.stopped.run later).ended⟩
      rw [startsAtOnce_append, ended.drained broken]
      exact List.prefix_append _ _

end LoopAtWork

end CallControl
