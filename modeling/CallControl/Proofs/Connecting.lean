import CallControl.Proofs.Aftermath
import CallControl.Proofs.QueuedCall

/-! # When a call counts as connected

Two records say that a call is connected: its link to the peer knows that the path works,
and its stage. Both follow what the path reports, the stage only once the call handled the
item that the report of a connected path raises. A path that is reported completed without
having been reported connected works as well but raises no such item, so the call stays in
its stage and is ended when it should have connected by then
(`Call.Begins.connected_iff_reported`).
-/

namespace CallControl

namespace QueuedCall

variable {queued after : QueuedCall} {id : ConnectionId} {move : QueueMove} {done : CallMove}
  {rest : List WorkItem}

/-- The call is connected, or will be when it handled what waits. -/
def Announced (queued : QueuedCall) : Prop :=
  queued.call.lifecycle = .connected ∨ .coordinator .peerConnected ∈ queued.waiting

/-- The stage of a call that goes on is that of a connected one only if it was connected
before or has just handled the report of that. -/
theorem Continues.announced_stage (continues : queued.Continues after id move done rest)
    (connected : after.call.lifecycle = .connected) : queued.Announced := by
  have stage := continues.proceeds.stage.symm.trans connected
  rcases next_cases continues.next with ⟨item, _, rfl, waiting⟩ | ⟨_, _, rfl, _⟩ |
    ⟨_, _, rfl, _⟩ | ⟨_, _, rfl, _⟩
  · unfold Call.stageAfter at stage
    split at stage
    · rename_i handled
      cases handled
      right
      rw [waiting]
      exact List.mem_cons_self
    · split at stage
      · cases stage
      · exact Or.inl stage
    · exact Or.inl stage
  all_goals exact Or.inl stage

private theorem Continues.stage_connected (continues : queued.Continues after id move done rest)
    (connected : queued.call.lifecycle = .connected) : after.call.lifecycle = .connected := by
  rw [continues.proceeds.stage]
  unfold Call.stageAfter
  split
  · rfl
  · rw [connected, if_neg fun starts => nomatch starts.1]
  · exact connected

/-- A call is announced by the report that its path is connected, and by nothing else. -/
theorem Continues.announced_iff (continues : queued.Continues after id move done rest)
    (ready : queued.call.Ready id) :
    after.Announced ↔ queued.Announced ∨ move = .path id .connected := by
  constructor
  · rintro (stage | waits)
    · exact Or.inl (continues.announced_stage stage)
    · rcases continues.mem_waiting ready waits with earlier | ⟨occurrence, rfl, comes⟩
      · exact Or.inl (Or.inr earlier)
      · right
        rw [CoordinatorItem.peerConnected_comesFrom comes]
        rfl
  · rintro ((stage | waits) | rfl)
    · exact Or.inl (continues.stage_connected stage)
    · rcases continues.waits waits with rfl | still
      · exact Or.inl continues.proceeds.stage
      · exact Or.inr still
    · have raised : .coordinator .peerConnected ∈
          queued.call.toParts.reports (.connection id (.iceState .connected)) :=
        ready.mem_reports_iceState rfl
      cases continues.next
      right
      rw [continues.waiting]
      exact List.mem_append_right _ raised

/-- A path that works was reported connected or completed. -/
theorem Continues.connected_cases (continues : queued.Continues after id move done rest)
    (works : after.call.peer.connected = true) :
    queued.call.peer.connected = true ∨ move = .path id .connected ∨
      move = .path id .completed := by
  rw [continues.connected_eq] at works
  cases reports : move.pathState? id with
  | none =>
      rw [reports] at works
      exact Or.inl works
  | some state =>
      rw [reports] at works
      have moved := QueueMove.eq_path reports
      cases state with
      | new => exact Or.inl works
      | checking => exact Or.inl works
      | connected => exact Or.inr (Or.inl moved)
      | completed => exact Or.inr (Or.inr moved)
      | _ => cases works

/-- In every run a call is announced if and only if its path was reported connected, and a
path that works was reported connected or completed. -/
theorem announced_run {start : Call} (ready : start.Ready id) (ringing : start.lifecycle = .ringing)
    (unconnected : start.peer.connected = false) {moves : List QueueMove}
    (unarmed : ∀ traps, .adjust (.trap traps) ∉ moves)
    (running : ((idle start).run moves).call.lifecycle ≠ .ended) :
    ((idle start).run moves).call.Ready id ∧
      (((idle start).run moves).Announced ↔ .path id .connected ∈ moves) ∧
      (((idle start).run moves).call.peer.connected = true →
        .path id .connected ∈ moves ∨ .path id .completed ∈ moves) := by
  refine run_induction ready (motive := fun moves queued =>
    (queued.Announced ↔ .path id .connected ∈ moves) ∧
      (queued.call.peer.connected = true →
        .path id .connected ∈ moves ∨ .path id .completed ∈ moves)) ?_ ?_ ?_ unarmed running
  · refine ⟨⟨?_, nofun⟩, fun works => nomatch unconnected.symm.trans works⟩
    rintro (stage | waits)
    · exact nomatch ringing.symm.trans stage
    · cases waits
  · rintro earlier ⟨announced, works⟩
    simpa only [List.mem_append, List.mem_singleton, QueueMove.path, reduceCtorEq, or_false] using
      And.intro announced works
  · rintro earlier move after done rest reached ⟨announced, works⟩ continues
    simp only [List.mem_append, List.mem_singleton]
    refine ⟨?_, fun connected => ?_⟩
    · rw [continues.announced_iff reached, announced]
      exact or_congr_right eq_comm
    · rcases continues.connected_cases connected with before | rfl | rfl
      · exact (works before).imp Or.inl Or.inl
      · exact Or.inl (Or.inr rfl)
      · exact Or.inr (Or.inr rfl)

end QueuedCall

namespace Call

/-- In every run of a call in which its items wait for any time, the report that its path
is connected is what makes it count as connected: when nothing waits any more and the call
is not over, it is connected if and only if its path was ever reported so. Then it goes on
when it should have connected by now, over its open peer connection; otherwise it is ended,
even if its path works because it was reported completed. -/
theorem Begins.connected_iff_reported {start : Call} (begins : start.Begins) {id : ConnectionId}
    (initialised : start.peer.connection = some id) (moves : List QueueMove)
    (unarmed : ∀ traps, .adjust (.trap traps) ∉ moves) :
    let reached := (QueuedCall.idle start).run moves
    reached.waiting = [] → reached.call.lifecycle ≠ .ended →
      (reached.call.lifecycle = .connected ↔ .path id .connected ∈ moves) ∧
      (reached.call.peer.connected = true →
        .path id .connected ∈ moves ∨ .path id .completed ∈ moves) ∧
      (.path id .connected ∈ moves →
        reached.call.runTask .connectTimeout = reached.call ∧
        ∃ connection, reached.call.platform.connections[id]? = some connection ∧
          connection.closed = false) ∧
      (.path id .connected ∉ moves → (reached.call.runTask .connectTimeout).lifecycle = .ended) := by
  intro reached drained running
  obtain ⟨ready, announced, works⟩ := QueuedCall.announced_run (begins.ready initialised)
    begins.lifecycle begins.unconnected unarmed running
  have connected : reached.call.lifecycle = .connected ↔ .path id .connected ∈ moves := by
    rw [← announced, QueuedCall.Announced]
    change _ ↔ reached.call.lifecycle = .connected ∨ _ ∈ reached.waiting
    rw [drained]
    simp only [List.not_mem_nil, or_false]
  refine ⟨connected, works, fun reported => ⟨?_, ?_⟩, fun unreported => ?_⟩
  · simp only [runTask, connectTimeout]
    rw [connected.mpr reported]
  · obtain ⟨connection, _, found, working, _⟩ := ready.attentive.connection
    exact ⟨connection, found, working⟩
  · have ends : reached.call.ends (.task .connectTimeout) = true :=
      bne_iff_ne.mpr fun stage => unreported (connected.mp stage)
    exact ready.ended_of_ends ends

/-- A call whose path was reported connected goes on when it should have connected. -/
theorem connected_iff_reported_justBegun :
    let moves : List QueueMove := [.path 0 .connected, .handle]
    let reached := (QueuedCall.idle justBegun).run moves
    justBegun.Begins ∧ justBegun.peer.connection = some 0 ∧
      (∀ traps, .adjust (.trap traps) ∉ moves) ∧ reached.waiting = [] ∧
      reached.call.lifecycle ≠ .ended ∧ reached.call.lifecycle = .connected ∧
      reached.call.runTask .connectTimeout = reached.call := by
  intro moves reached
  have unarmed : ∀ traps, .adjust (.trap traps) ∉ moves := by simp [moves, QueueMove.path]
  have reported : .path 0 .connected ∈ moves := List.mem_cons_self
  have drained : reached.waiting = [] := rfl
  have running : reached.call.lifecycle ≠ .ended := nofun
  obtain ⟨connected, _, goesOn, _⟩ :=
    begins_justBegun.connected_iff_reported rfl moves unarmed drained running
  exact ⟨begins_justBegun, rfl, unarmed, drained, running, connected.mpr reported,
    (goesOn reported).1⟩

/-- A path that skips the connected state and is reported completed works, but the call
does not count as connected when nothing waits any more, and is ended when it should have
connected. -/
theorem overdue_completed_justBegun :
    let reached := (QueuedCall.idle justBegun).run [.path 0 .completed, .handle]
    reached.waiting = [] ∧ reached.call.peer.connected = true ∧
      reached.call.lifecycle = .ringing ∧
      (reached.call.runTask .connectTimeout).lifecycle = .ended :=
  ⟨rfl, rfl, rfl, rfl⟩

end Call

end CallControl
