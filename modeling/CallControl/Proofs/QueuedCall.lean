import Mathlib.Data.List.Induction
import CallControl.Proofs.Headway

/-! # A call and what waits for it

The items raised by the links of a call wait until the call handles them, one at a time
and in the order in which they were raised. How long they wait is left open, and tasks and
events come in between (`QueuedCall.step`). Until the call is over, a step lets it go on
with what it raises behind what waits (`QueuedCall.step_cases`).
-/

namespace CallControl

/-- A call whose platform was handed no item has raised none. -/
theorem Call.raisedSince_of_dispatched {before after : Call}
    (same : after.platform.dispatched = before.platform.dispatched) :
    before.raisedSince after = [] := by
  unfold Call.raisedSince
  rw [same, List.drop_length]

/-- A call with the items that it has yet to handle, oldest first. -/
structure QueuedCall where
  call : Call
  waiting : List WorkItem

/-- What can happen to a call whose items wait. -/
inductive QueueMove where
  /-- The call handles the item that has waited longest. -/
  | handle
  | task (task : CallTask)
  | event (occurrence : Occurrence)
  | adjust (adjustment : Adjustment)
  deriving Repr

/-- The path of a peer connection is in another state. -/
def QueueMove.path (id : ConnectionId) (state : IceState) : QueueMove :=
  .event (.connection id (.iceState state))

/-- The state of the path that a move reports. -/
def QueueMove.pathState? (id : ConnectionId) : QueueMove → Option IceState
  | .event (.connection target (.iceState state)) => if target = id then some state else none
  | _ => none

/-- A report of a path reports its state. -/
theorem QueueMove.pathState?_path (id : ConnectionId) (state : IceState) :
    (path id state).pathState? id = some state := if_pos rfl

/-- Only a report of a path reports a state of it. -/
theorem QueueMove.eq_path {id : ConnectionId} {move : QueueMove} {state : IceState}
    (reports : move.pathState? id = some state) : move = .path id state := by
  unfold pathState? at reports
  split at reports
  · split at reports
    · rename_i same
      cases reports
      rw [same]
      rfl
    · cases reports
  · cases reports

namespace QueuedCall

/-- A call for which nothing waits. -/
def idle (call : Call) : QueuedCall := ⟨call, []⟩

/-- What a move makes the call do, with what goes on waiting. -/
def next? (queued : QueuedCall) : QueueMove → Option (CallMove × List WorkItem)
  | .handle =>
      match queued.waiting with
      | [] => none
      | item :: rest => some (.item item, rest)
  | .task task => some (.task task, queued.waiting)
  | .event occurrence => some (.event occurrence, queued.waiting)
  | .adjust adjustment => some (.adjust adjustment, queued.waiting)

/-- A call after a move; what it raises goes behind what waits. -/
def step (queued : QueuedCall) (move : QueueMove) : QueuedCall :=
  match queued.next? move with
  | none => queued
  | some (move, rest) =>
      ⟨queued.call.move move, rest ++ queued.call.raisedSince (queued.call.move move)⟩

/-- A call after some moves. -/
def run (queued : QueuedCall) (moves : List QueueMove) : QueuedCall :=
  moves.foldl step queued

@[simp] theorem run_nil (queued : QueuedCall) : queued.run [] = queued := rfl

/-- A run can be made in two goes. -/
theorem run_append (queued : QueuedCall) (earlier later : List QueueMove) :
    queued.run (earlier ++ later) = (queued.run earlier).run later :=
  List.foldl_append ..

/-- The last move of a run is made after the others. -/
theorem run_concat (queued : QueuedCall) (moves : List QueueMove) (move : QueueMove) :
    queued.run (moves ++ [move]) = (queued.run moves).step move :=
  run_append queued moves [move]

/-- A step makes the move that is next and puts what it raises behind what waits. -/
theorem step_of_next {queued : QueuedCall} {move : QueueMove} {done : CallMove}
    {rest : List WorkItem} (next : queued.next? move = some (done, rest)) :
    queued.step move =
      ⟨queued.call.move done, rest ++ queued.call.raisedSince (queued.call.move done)⟩ := by
  unfold step
  rw [next]

/-- The item that has waited longest is handled next. -/
theorem next_handle {queued : QueuedCall} {item : WorkItem} {rest : List WorkItem}
    (waiting : queued.waiting = item :: rest) :
    queued.next? .handle = some (.item item, rest) := by
  unfold next?
  rw [waiting]

/-- Where nothing waits nothing is handled. -/
theorem step_handle_of_nil {queued : QueuedCall} (waiting : queued.waiting = []) :
    queued.step .handle = queued := by
  unfold step next?
  rw [waiting]

/-- Handling takes the item that has waited longest; anything else leaves what waits. -/
theorem next_cases {queued : QueuedCall} {move : QueueMove} {done : CallMove}
    {rest : List WorkItem} (next : queued.next? move = some (done, rest)) :
    (∃ item, move = .handle ∧ done = .item item ∧ queued.waiting = item :: rest) ∨
      (∃ task, move = .task task ∧ done = .task task ∧ queued.waiting = rest) ∨
      (∃ occurrence, move = .event occurrence ∧ done = .event occurrence ∧
        queued.waiting = rest) ∨
      ∃ adjustment, move = .adjust adjustment ∧ done = .adjust adjustment ∧
        queued.waiting = rest := by
  cases move with
  | handle =>
      simp only [next?] at next
      split at next
      · cases next
      · rename_i item later waiting
        cases next
        exact Or.inl ⟨item, rfl, rfl, waiting⟩
  | task task =>
      cases next
      exact Or.inr (Or.inl ⟨task, rfl, rfl, rfl⟩)
  | event occurrence =>
      cases next
      exact Or.inr (Or.inr (Or.inl ⟨occurrence, rfl, rfl, rfl⟩))
  | adjust adjustment =>
      cases next
      exact Or.inr (Or.inr (Or.inr ⟨adjustment, rfl, rfl, rfl⟩))

/-! ## A call that is over -/

private theorem ended_step {queued : QueuedCall} (finished : queued.call.lifecycle = .ended)
    (move : QueueMove) : (queued.step move).call.lifecycle = .ended := by
  unfold step
  split
  · exact finished
  · exact Call.lifecycle_move_of_ended finished _

/-- A call that is over stays so. -/
theorem ended_run {queued : QueuedCall} (finished : queued.call.lifecycle = .ended)
    (moves : List QueueMove) : (queued.run moves).call.lifecycle = .ended := by
  unfold run
  induction moves generalizing queued with
  | nil => exact finished
  | cons move rest ih => exact ih (ended_step finished move)

/-! ## A call that goes on -/

/-- What was raised since is what a change raises. -/
theorem raisedSince_of_raises {before after : Call} {items : List WorkItem}
    (raises : before.toParts.Raises after.toParts items) : before.raisedSince after = items := by
  unfold Call.raisedSince
  rw [raises.dispatched]
  exact List.drop_left

/-- What a call that goes on raises waits behind what waited already. -/
theorem step_of_proceeds {queued : QueuedCall} {id : ConnectionId} {move : QueueMove}
    {done : CallMove} {rest : List WorkItem} (next : queued.next? move = some (done, rest))
    (proceeds : queued.call.Proceeds (queued.call.move done) id done) :
    queued.step move = ⟨queued.call.move done, rest ++ queued.call.raisedBy done⟩ := by
  rw [step_of_next next, raisedSince_of_raises proceeds.raises]

/-- A call went on, and what it raised waits behind what waited already. -/
structure Continues (queued after : QueuedCall) (id : ConnectionId) (move : QueueMove)
    (done : CallMove) (rest : List WorkItem) : Prop where
  next : queued.next? move = some (done, rest)
  goes : queued.call.ends done = false
  proceeds : queued.call.Proceeds after.call id done
  waiting : after.waiting = rest ++ queued.call.raisedBy done

section Steps

variable {queued : QueuedCall} {id : ConnectionId} {move : QueueMove}

/-- Nothing waits to be handled, or the call ends, or it goes on. -/
theorem step_cases (ready : queued.call.Ready id)
    (unarmed : ∀ traps, move ≠ .adjust (.trap traps)) :
    (queued.next? move = none ∧ queued.step move = queued) ∨
      (∃ done rest, queued.next? move = some (done, rest) ∧ queued.call.ends done = true ∧
        (queued.step move).call.lifecycle = .ended) ∨
      ∃ done rest, queued.Continues (queued.step move) id move done rest := by
  cases next : queued.next? move with
  | none =>
      refine Or.inl ⟨rfl, ?_⟩
      unfold step
      rw [next]
  | some pair =>
      obtain ⟨done, rest⟩ := pair
      have stepped := step_of_next next
      cases ends : queued.call.ends done with
      | true =>
          refine Or.inr (Or.inl ⟨done, rest, rfl, ends, ?_⟩)
          rw [stepped]
          exact ready.ended_of_ends ends
      | false =>
          have harmless (traps : Bool) : done ≠ .adjust (.trap traps) := by
            rintro rfl
            rcases next_cases next with ⟨_, _, same, _⟩ | ⟨_, _, same, _⟩ | ⟨_, _, same, _⟩ |
              ⟨_, moved, same, _⟩
            · cases same
            · cases same
            · cases same
            · cases same
              exact unarmed traps moved
          have proceeds := ready.proceeds ends harmless
          refine Or.inr (Or.inr ⟨done, rest, next, ends, ?_, ?_⟩)
          · rw [stepped]
            exact proceeds
          · rw [step_of_proceeds next proceeds]

end Steps

/-- While a call is not over, what holds of it at first and is kept by handling nothing and
by going on holds of it after every run. -/
theorem run_induction {start : Call} {id : ConnectionId} (ready : start.Ready id)
    {motive : List QueueMove → QueuedCall → Prop} (fresh : motive [] (idle start))
    (pauses : ∀ earlier, motive earlier ((idle start).run earlier) →
      motive (earlier ++ [.handle]) ((idle start).run earlier))
    (goes : ∀ earlier move after done rest, ((idle start).run earlier).call.Ready id →
      motive earlier ((idle start).run earlier) →
      ((idle start).run earlier).Continues after id move done rest →
      motive (earlier ++ [move]) after)
    {moves : List QueueMove} (unarmed : ∀ traps, .adjust (.trap traps) ∉ moves)
    (running : ((idle start).run moves).call.lifecycle ≠ .ended) :
    ((idle start).run moves).call.Ready id ∧ motive moves ((idle start).run moves) := by
  induction moves using List.reverseRecOn with
  | nil => exact ⟨ready, fresh⟩
  | append_singleton earlier move ih =>
      rw [run_concat] at running ⊢
      have harmless (traps : Bool) : move ≠ .adjust (.trap traps) := by
        rintro rfl
        exact unarmed traps (List.mem_append_right _ (List.mem_singleton_self _))
      obtain ⟨reached, holds⟩ := ih
        (fun traps member => unarmed traps (List.mem_append_left _ member))
        fun ended => running (ended_step ended move)
      rcases step_cases reached harmless with ⟨none, same⟩ | ⟨_, _, _, _, ended⟩ |
        ⟨done, rest, continues⟩
      · rw [same]
        cases move with
        | handle => exact ⟨reached, pauses earlier holds⟩
        | _ => cases none
      · exact (running ended).elim
      · exact ⟨continues.proceeds.ready, goes earlier move _ done rest reached holds continues⟩

section Continues

variable {queued after : QueuedCall} {id : ConnectionId} {move : QueueMove} {done : CallMove}
  {rest : List WorkItem}

/-- Which items for the coordinator wait after a step. -/
theorem Continues.mem_waiting (continues : queued.Continues after id move done rest)
    (ready : queued.call.Ready id) {item : CoordinatorItem}
    (member : .coordinator item ∈ after.waiting) :
    .coordinator item ∈ queued.waiting ∨
      ∃ occurrence, move = .event occurrence ∧ item.comesFrom id occurrence = true := by
  rw [continues.waiting] at member
  rcases next_cases continues.next with ⟨handled, _, rfl, waiting⟩ | ⟨task, _, rfl, waiting⟩ |
    ⟨occurrence, moved, rfl, waiting⟩ | ⟨adjustment, _, rfl, waiting⟩
  all_goals
    rw [waiting]
    rcases List.mem_append.mp member with earlier | raised
  · exact Or.inl (List.mem_cons_of_mem _ earlier)
  · obtain ⟨_, same, _⟩ := ready.mem_raisedBy raised
    cases same
  · exact Or.inl earlier
  · cases raised
  · exact Or.inl earlier
  · exact Or.inr ⟨occurrence, moved, ready.mem_reports raised⟩
  · exact Or.inl earlier
  · cases raised

/-- What waits goes on waiting unless it is handled. -/
theorem Continues.waits (continues : queued.Continues after id move done rest) {item : WorkItem}
    (member : item ∈ queued.waiting) : done = .item item ∨ item ∈ after.waiting := by
  rw [continues.waiting]
  rcases next_cases continues.next with ⟨handled, _, same, waiting⟩ | ⟨_, _, _, waiting⟩ |
    ⟨_, _, _, waiting⟩ | ⟨_, _, _, waiting⟩
  · rw [waiting] at member
    rcases List.mem_cons.mp member with first | later
    · rw [first]
      exact Or.inl same
    · exact Or.inr (List.mem_append_left _ later)
  all_goals
    rw [waiting] at member
    exact Or.inr (List.mem_append_left _ member)

/-- Only what is reported of the path tells whether it works. -/
theorem Continues.connected_eq (continues : queued.Continues after id move done rest) :
    after.call.peer.connected =
      (move.pathState? id).elim queued.call.peer.connected
        (PeerLink.connectedAfter queued.call.peer.connected) := by
  rw [continues.proceeds.connected]
  rcases next_cases continues.next with ⟨_, rfl, rfl, _⟩ | ⟨_, rfl, rfl, _⟩ |
    ⟨occurrence, rfl, rfl, _⟩ | ⟨_, rfl, rfl, _⟩
  · rfl
  · rfl
  · cases occurrence with
    | connection target event =>
        simp only [Call.connectedAfter, QueueMove.pathState?]
        cases event with
        | iceState state =>
            simp only [ConnectionEvent.connectedAfter]
            split <;> rfl
        | _ =>
            simp only [ConnectionEvent.connectedAfter]
            exact ite_self _
    | _ => rfl
  · rfl

end Continues

end QueuedCall

end CallControl
