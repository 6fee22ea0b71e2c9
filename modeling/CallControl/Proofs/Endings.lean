import CallControl.Proofs.Aftermath
import CallControl.Proofs.QueuedCall

/-! # Why a call ends

A path that is completed needs no relay any more, and the item that says so is the same
that says that the relay was closed by others. The call tells the two apart by whether its
path works when it handles the item. So without any reason to end, a call ends in one case
only: its path completed, and failed before the call handled the item raised by that
(`Call.Begins.ended_iff_failed`).
-/

namespace CallControl

namespace QueueMove

/-- A reason to end a call: its relay or its path is closed, its path is interrupted, it
should have connected by now, or it is ended from this side. -/
def reason : QueueMove → Bool
  | .task .connectTimeout | .task .endCall => true
  | .event (.socket _ (.closed _ _)) | .event (.unheeding (.closed _ _)) => true
  | .event (.connection _ (.iceState .disconnected)) => true
  | .event (.connection _ (.iceState .closed)) => true
  | _ => false

/-- The path works again after a move, or still does. -/
def restores (id : ConnectionId) (move : QueueMove) : Prop :=
  move = .path id .connected ∨ move = .path id .completed

end QueueMove

namespace QueuedCall

variable {start : Call} {id : ConnectionId}

/-- The path failed while an item waited that says that the relay is closed, and did not
work since. -/
def FailedMeanwhile (start : Call) (id : ConnectionId) (moves : List QueueMove) : Prop :=
  ∃ before between, moves = before ++ .path id .failed :: between ∧
    .coordinator .closedSignaller ∈ ((idle start).run before).waiting ∧
    ∀ move ∈ between, ¬ move.restores id

private theorem FailedMeanwhile.concat {earlier : List QueueMove} {move : QueueMove}
    (failed : FailedMeanwhile start id earlier) (lasts : ¬ move.restores id) :
    FailedMeanwhile start id (earlier ++ [move]) := by
  obtain ⟨before, between, rfl, waits, broken⟩ := failed
  refine ⟨before, between ++ [move], by simp, waits, ?_⟩
  intro other member
  rcases List.mem_append.mp member with inside | last
  · exact broken other inside
  · rw [List.mem_singleton.mp last]
    exact lasts

/-- What waits gives no reason to end the call: the path is not said to have ended, and the
relay is said to be closed only because the path completed, which then works unless it has
failed meanwhile. -/
structure Unreasoned (start : Call) (id : ConnectionId) (moves : List QueueMove)
    (queued : QueuedCall) : Prop where
  unended : .coordinator .peerConnectionEnded ∉ queued.waiting
  completed : .coordinator .closedSignaller ∈ queued.waiting → .path id .completed ∈ moves
  works : .coordinator .closedSignaller ∈ queued.waiting →
    queued.call.peer.connected = true ∨ FailedMeanwhile start id moves

private theorem Unreasoned.goOn {earlier : List QueueMove} {move : QueueMove} {after : QueuedCall}
    {done : CallMove} {rest : List WorkItem}
    (unreasoned : Unreasoned start id earlier ((idle start).run earlier))
    (ready : ((idle start).run earlier).call.Ready id)
    (continues : ((idle start).run earlier).Continues after id move done rest)
    (reasonless : move.reason = false) : Unreasoned start id (earlier ++ [move]) after where
  unended := by
    intro member
    rcases continues.mem_waiting ready member with before | ⟨occurrence, rfl, comes⟩
    · exact unreasoned.unended before
    · rcases CoordinatorItem.peerConnectionEnded_comesFrom comes with rfl | rfl
      · cases reasonless
      · cases reasonless
  completed := by
    intro member
    rcases continues.mem_waiting ready member with before | ⟨occurrence, rfl, comes⟩
    · exact List.mem_append_left _ (unreasoned.completed before)
    · rcases CoordinatorItem.closedSignaller_comesFrom comes with ⟨_, _, _, rfl⟩ | ⟨_, _, rfl⟩ | rfl
      · cases reasonless
      · cases reasonless
      · exact List.mem_append_right _ (List.mem_singleton_self _)
  works := by
    intro member
    have path := continues.connected_eq
    rcases continues.mem_waiting ready member with before | ⟨occurrence, rfl, comes⟩
    · rcases unreasoned.works before with works | failed
      · rw [works] at path
        cases reports : move.pathState? id with
        | none => exact Or.inl (by rw [path, reports]; rfl)
        | some state =>
            rw [reports] at path
            have moved := QueueMove.eq_path reports
            subst moved
            cases state with
            | failed => exact Or.inr ⟨earlier, [], rfl, before, nofun⟩
            | disconnected => cases reasonless
            | closed => cases reasonless
            | _ => exact Or.inl path
      · by_cases restored : move.restores id
        · left
          rcases restored with rfl | rfl
          · rw [path, QueueMove.pathState?_path]
            rfl
          · rw [path, QueueMove.pathState?_path]
            rfl
        · exact Or.inr (failed.concat restored)
    · rcases CoordinatorItem.closedSignaller_comesFrom comes with ⟨_, _, _, rfl⟩ | ⟨_, _, rfl⟩ | rfl
      · cases reasonless
      · cases reasonless
      · left
        rw [path]
        exact congrArg (fun state => Option.elim state _ _)
          (QueueMove.pathState?_path id .completed)

private theorem Unreasoned.pause {earlier : List QueueMove} {queued : QueuedCall}
    (unreasoned : Unreasoned start id earlier queued) :
    Unreasoned start id (earlier ++ [.handle]) queued where
  unended := unreasoned.unended
  completed := fun waits => List.mem_append_left _ (unreasoned.completed waits)
  works := fun waits => (unreasoned.works waits).imp_right fun failed =>
    failed.concat fun restored => restored.elim nofun nofun

private theorem unreasoned_run (ready : start.Ready id) {moves : List QueueMove}
    (unarmed : ∀ traps, .adjust (.trap traps) ∉ moves)
    (reasonless : ∀ move ∈ moves, move.reason = false)
    (running : ((idle start).run moves).call.lifecycle ≠ .ended) :
    ((idle start).run moves).call.Ready id ∧
      Unreasoned start id moves ((idle start).run moves) := by
  obtain ⟨reached, unreasoned⟩ := run_induction ready
    (motive := fun moves queued =>
      (∀ move ∈ moves, move.reason = false) → Unreasoned start id moves queued)
    (fun _ => ⟨nofun, nofun, nofun⟩)
    (fun earlier ih calm =>
      (ih fun move member => calm move (List.mem_append_left _ member)).pause)
    (fun earlier move after done rest reached ih continues calm =>
      (ih fun move member => calm move (List.mem_append_left _ member)).goOn reached continues
        (calm move (List.mem_append_right _ (List.mem_singleton_self _))))
    unarmed running
  exact ⟨reached, unreasoned reasonless⟩

/-- A path that failed does not work until it is reported connected or completed. -/
theorem broken_run (ready : start.Ready id) {before between : List QueueMove}
    (unarmed : ∀ traps, .adjust (.trap traps) ∉ before ++ .path id .failed :: between)
    (broken : ∀ move ∈ between, ¬ move.restores id)
    (running : ((idle start).run (before ++ .path id .failed :: between)).call.lifecycle ≠ .ended) :
    ((idle start).run (before ++ .path id .failed :: between)).call.Ready id ∧
      ((idle start).run (before ++ .path id .failed :: between)).call.peer.connected = false := by
  refine (run_induction ready (motive := fun moves queued => ∀ before between,
    moves = before ++ .path id .failed :: between → (∀ move ∈ between, ¬ move.restores id) →
      queued.call.peer.connected = false) ?_ ?_ ?_ unarmed running).imp_right
    fun holds => holds before between rfl broken
  · intro before between same
    exact absurd same (by simp)
  · intro earlier ih before between same broken
    rcases List.eq_nil_or_concat between with rfl | ⟨inner, last, rfl⟩
    · cases (List.append_inj' same rfl).2
    · rw [List.concat_eq_append, ← List.cons_append, ← List.append_assoc] at same
      exact ih before inner (List.append_inj' same rfl).1 fun move member =>
        broken move (by simp [member])
  · intro earlier move after done rest reached ih continues before between same broken
    have path := continues.connected_eq
    rcases List.eq_nil_or_concat between with rfl | ⟨inner, last, rfl⟩
    · cases (List.append_inj' same rfl).2
      rw [path, QueueMove.pathState?_path]
      rfl
    · rw [List.concat_eq_append, ← List.cons_append, ← List.append_assoc] at same
      obtain ⟨rfl, single⟩ := List.append_inj' same rfl
      cases single
      rw [ih before inner rfl fun move member => broken move (by simp [member])] at path
      have lasts := broken move (by simp)
      cases reports : move.pathState? id with
      | none => rw [path, reports]; rfl
      | some state =>
          rw [reports] at path
          have moved := QueueMove.eq_path reports
          subst moved
          cases state with
          | connected => exact (lasts (Or.inl rfl)).elim
          | completed => exact (lasts (Or.inr rfl)).elim
          | _ => exact path

/-- A call that ends without a reason handles the item that says that the relay is closed
while its path does not work. -/
theorem Unreasoned.ending {moves : List QueueMove} {queued : QueuedCall} {move : QueueMove}
    {done : CallMove} {rest : List WorkItem} (unreasoned : Unreasoned start id moves queued)
    (reasonless : move.reason = false) (next : queued.next? move = some (done, rest))
    (ends : queued.call.ends done = true) :
    move = .handle ∧ queued.waiting = .coordinator .closedSignaller :: rest ∧
      queued.call.peer.connected = false := by
  rcases next_cases next with ⟨item, rfl, rfl, waiting⟩ | ⟨task, rfl, rfl, _⟩ |
    ⟨occurrence, rfl, rfl, _⟩ | ⟨adjustment, rfl, rfl, _⟩
  · cases item with
    | coordinator item =>
        cases item with
        | closedSignaller =>
            have broken : queued.call.peer.connected = false := by
              simpa only [Call.ends, Bool.not_eq_true'] using ends
            exact ⟨rfl, waiting, broken⟩
        | peerConnectionEnded =>
            refine (unreasoned.unended ?_).elim
            rw [waiting]
            exact List.mem_cons_self
        | _ => cases ends
    | _ => cases ends
  · cases task with
    | connectTimeout => cases reasonless
    | endCall => cases reasonless
    | _ => cases ends
  · cases ends
  · cases ends

/-- A call that handles such an item while its path does not work is over from then on. -/
theorem ended_of_failed (ready : start.Ready id) {before between later : List QueueMove}
    (unarmed : ∀ traps, .adjust (.trap traps) ∉ before ++ .path id .failed :: between)
    (lasting : ∀ move ∈ between, ¬ move.restores id)
    (head : ((idle start).run (before ++ .path id .failed :: between)).waiting.head? =
      some (.coordinator .closedSignaller)) :
    ((idle start).run (before ++ .path id .failed :: between ++
      .handle :: later)).call.lifecycle = .ended := by
  rw [run_append]
  by_cases already :
      ((idle start).run (before ++ .path id .failed :: between)).call.lifecycle = .ended
  · exact ended_run already _
  · obtain ⟨reached, broken⟩ := broken_run ready unarmed lasting already
    obtain ⟨rest, waiting⟩ := List.head?_eq_some_iff.mp head
    have ended : (((idle start).run (before ++ .path id .failed :: between)).step
        .handle).call.lifecycle = .ended := by
      rw [step_of_next (next_handle waiting)]
      refine reached.ended_of_ends ?_
      simp only [Call.ends, broken, Bool.not_false]
    exact ended_run ended later

end QueuedCall

namespace Call

open QueuedCall

/-- In a run of a call without any reason to end, in which its items wait for any time, the
call is over if and only if its path failed after it had completed and did not work again
until the call handled the item that the completion raised. Without a failure in between
it goes on. -/
theorem Begins.ended_iff_failed {start : Call} (begins : start.Begins) {id : ConnectionId}
    (initialised : start.peer.connection = some id) (moves : List QueueMove)
    (unarmed : ∀ traps, .adjust (.trap traps) ∉ moves)
    (reasonless : ∀ move ∈ moves, move.reason = false) :
    ((idle start).run moves).call.lifecycle = .ended ↔
      ∃ before between later,
        moves = before ++ .path id .failed :: between ++ .handle :: later ∧
        .path id .completed ∈ before ∧
        .coordinator .closedSignaller ∈ ((idle start).run before).waiting ∧
        (∀ move ∈ between, ¬ move.restores id) ∧
        ((idle start).run (before ++ .path id .failed :: between)).waiting.head? =
          some (.coordinator .closedSignaller) := by
  have ready := begins.ready initialised
  constructor
  · intro ended
    induction moves using List.reverseRecOn with
    | nil => exact (ready.running ended).elim
    | append_singleton earlier move ih =>
        have harmless (traps : Bool) : .adjust (.trap traps) ∉ earlier := fun member =>
          unarmed traps (List.mem_append_left _ member)
        have calm : ∀ other ∈ earlier, other.reason = false := fun other member =>
          reasonless other (List.mem_append_left _ member)
        by_cases already : ((idle start).run earlier).call.lifecycle = .ended
        · obtain ⟨before, between, later, rfl, rest⟩ := ih harmless calm already
          exact ⟨before, between, later ++ [move], by simp, rest⟩
        · obtain ⟨reached, unreasoned⟩ := unreasoned_run ready harmless calm already
          have lastHarmless (traps : Bool) : move ≠ .adjust (.trap traps) := by
            rintro rfl
            exact unarmed traps (List.mem_append_right _ (List.mem_singleton_self _))
          have lastCalm := reasonless move (List.mem_append_right _ (List.mem_singleton_self _))
          rw [run_concat] at ended
          rcases step_cases reached lastHarmless with ⟨_, same⟩ | ⟨done, rest, next, ends, _⟩ |
            ⟨_, _, continues⟩
          · rw [same] at ended
            exact (already ended).elim
          · obtain ⟨rfl, waiting, broken⟩ := unreasoned.ending lastCalm next ends
            have waits : .coordinator .closedSignaller ∈ ((idle start).run earlier).waiting := by
              rw [waiting]
              exact List.mem_cons_self
            rcases unreasoned.works waits with works | ⟨before, between, rfl, waited, lasting⟩
            · exact nomatch works.symm.trans broken
            · refine ⟨before, between, [], rfl, ?_, waited, lasting, ?_⟩
              · refine (unreasoned_run ready ?_ ?_ ?_).2.completed waited
                · exact fun traps member => harmless traps (List.mem_append_left _ member)
                · exact fun other member => calm other (List.mem_append_left _ member)
                · rw [QueuedCall.run_append] at already
                  exact fun ended => already (ended_run ended _)
              · rw [waiting]
                rfl
          · exact (continues.proceeds.ready.running ended).elim
  · rintro ⟨before, between, later, rfl, _, _, lasting, head⟩
    exact ended_of_failed ready (fun traps member => unarmed traps (List.mem_append_left _ member))
      lasting head

/-- A path that completes, fails and is then said to be settled ends the call; what waits
between the two is handled after the failure. -/
theorem ended_iff_failed_justBegun :
    let moves : List QueueMove := [.path 0 .completed, .path 0 .failed, .handle]
    justBegun.Begins ∧ justBegun.peer.connection = some 0 ∧
      (∀ traps, .adjust (.trap traps) ∉ moves) ∧ (∀ move ∈ moves, move.reason = false) ∧
      ((idle justBegun).run moves).call.lifecycle = .ended := by
  intro moves
  have unarmed : ∀ traps, .adjust (.trap traps) ∉ moves := by simp [moves, QueueMove.path]
  have reasonless : ∀ move ∈ moves, move.reason = false := by
    simp [moves, QueueMove.path, QueueMove.reason]
  refine ⟨begins_justBegun, rfl, unarmed, reasonless, ?_⟩
  refine (begins_justBegun.ended_iff_failed rfl moves unarmed reasonless).mpr ?_
  exact ⟨[.path 0 .completed], [], [], rfl, List.mem_singleton_self _, List.mem_singleton_self _,
    nofun, rfl⟩

/-- A connected call whose path completes is ended by the item that the completion raised
when the path fails before that is handled, and only then: when it is handled first, the
failure does not end the call. -/
theorem failed_before_handled_justBegun :
    let connected : List QueueMove := [.path 0 .connected, .handle, .path 0 .completed]
    ((idle justBegun).run connected).call.lifecycle = .connected ∧
      ((idle justBegun).run (connected ++ [.path 0 .failed])).call.lifecycle = .connected ∧
      ((idle justBegun).run (connected ++ [.path 0 .failed, .handle])).call.lifecycle = .ended ∧
      (∀ move ∈ connected ++ [.path 0 .failed, .handle], move.reason = false) ∧
      ((idle justBegun).run (connected ++ [.handle, .path 0 .failed])).call.lifecycle =
        .connected := by
  intro connected
  refine ⟨rfl, rfl, rfl, ?_, rfl⟩
  simp [connected, QueueMove.path, QueueMove.reason]

end Call

end CallControl
