import CallControl.Proofs.Mirrored

/-! # Changes of the flags

A running call changes its flags in three ways only (`Call.flags_move`): a switch of this
side turns a flag of its own, a switch that the peer reports sets a flag of the peer, and
the tracks that the peer sends switch flags of the peer on. So what the peer reported last
stands, unless the peer's tracks overrule it (`Call.peer_follows_report`).
-/

namespace CallControl

/-- What an item reports of the peer's tracks of a kind. -/
def CoordinatorItem.reported? : CoordinatorItem → MediaKind → Option Bool
  | .peerMicTurnedOn, .audio => some true
  | .peerMicTurnedOff, .audio => some false
  | .peerVideoTurnedOn, .video => some true
  | .peerVideoTurnedOff, .video => some false
  | _, _ => none

/-- The flags of a call with a peer that sends some tracks, after an item. -/
def CallFlags.afterItem (flags : CallFlags) (remote : MediaStream) : CoordinatorItem → CallFlags
  | .peerStreamTrackUpdate =>
      { flags with
        peerMic := flags.peerMic || remote.hasEnabled .audio
        peerVideo := flags.peerVideo || remote.hasEnabled .video }
  | report =>
      { flags with
        peerMic := (report.reported? .audio).getD flags.peerMic
        peerVideo := (report.reported? .video).getD flags.peerVideo }

namespace CallFlags

/-- An item changes no flag of this side. -/
theorem own_afterItem (flags : CallFlags) (remote : MediaStream) (item : CoordinatorItem) :
    (flags.afterItem remote item).own = flags.own := by
  funext kind
  cases item <;> cases kind <;> rfl

private theorem peer_afterItem (flags : CallFlags) (remote : MediaStream) (item : CoordinatorItem)
    (kind : MediaKind) :
    (flags.afterItem remote item).peer kind =
      if item = .peerStreamTrackUpdate then flags.peer kind || remote.hasEnabled kind
      else (item.reported? kind).getD (flags.peer kind) := by
  cases item <;> cases kind <;> rfl

private theorem peer_turn (flags : CallFlags) (switched : MediaKind) (enabled : Bool) :
    (flags.turn switched enabled).peer = flags.peer := by
  funext kind
  cases switched <;> cases kind <;> rfl

end CallFlags

namespace CallMove

/-- What a move tells a call of its peer's tracks of a kind. -/
def reported? : CallMove → MediaKind → Option Bool
  | .item (.coordinator report), kind => report.reported? kind
  | _, _ => none

/-- What a move asks the tracks of a kind of this side to be. -/
def asked? : CallMove → MediaKind → Option Bool
  | .task (.setMic enabled), .audio => some enabled
  | .task (.setVideo enabled), .video => some enabled
  | _, _ => none

end CallMove

namespace Call

variable {call : Call}

/-- The flags of a running call after a move. -/
def flagsAfter (call : Call) : CallMove → CallFlags
  | .item (.coordinator item) => call.flags.afterItem call.peer.remoteStream item
  | .task (.setMic enabled) => call.flags.turn .audio enabled
  | .task (.setVideo enabled) => call.flags.turn .video enabled
  | _ => call.flags

/-! ## What each piece of work does to the flags -/

private theorem flags_endCall (call : Call) : call.endCall.flags = call.flags := by
  unfold endCall
  split
  · rfl
  · exact (flags_setLifecycle _ _).trans call.flags_releaseRelay

private theorem flags_coordinate (call : Call) (item : CoordinatorItem) :
    (call.coordinate item).flags = call.flags.afterItem call.peer.remoteStream item := by
  cases item with
  | peerConnected => exact (flags_releaseRelay _).trans (call.flags_setLifecycle _)
  | closedSignaller =>
      simp only [coordinate]
      split
      · exact call.flags_releaseRelay
      · exact call.flags_endCall
  | peerConnectionEnded => exact call.flags_endCall
  | peerStreamTrackUpdate =>
      simp only [coordinate, flags_setFlags, flags_tell]
      rfl
  | peerMicTurnedOn => exact call.flags_setFlags _
  | peerMicTurnedOff => exact call.flags_setFlags _
  | peerVideoTurnedOn => exact call.flags_setFlags _
  | peerVideoTurnedOff => exact call.flags_setFlags _

private theorem flags_negotiate (call : Call) (item : PeerItem) :
    (call.negotiate item).flags = call.flags := by
  simp only [negotiate]
  split
  · exact call.flags_setLifecycle .connecting
  · rfl

private theorem flags_signal (call : Call) (signal : Signal) :
    (call.signal signal).flags = call.flags := by
  unfold Call.signal
  split <;> rfl

/-- The flags of a running call change with what its peer reports, with the tracks of its
peer and with the switches of this side, and with nothing else. -/
theorem flags_move (running : call.lifecycle ≠ .ended) (move : CallMove) :
    (call.move move).flags = call.flagsAfter move := by
  cases move with
  | item item =>
      change (call.route item).flags = _
      unfold route
      rw [if_neg running]
      cases item with
      | signal signal => exact call.flags_signal signal
      | peer item => exact call.flags_negotiate item
      | coordinator item => exact call.flags_coordinate item
  | task task =>
      change (call.runTask task).flags = _
      cases task with
      | setMic enabled =>
          rw [runTask, setMic_eq running]
          exact call.flags_switch .audio enabled
      | setVideo enabled =>
          rw [runTask, setVideo_eq running]
          exact call.flags_switch .video enabled
      | connectTimeout =>
          simp only [runTask, connectTimeout]
          split
          · exact call.flags_endCall
          · exact call.flags_endCall
          · rfl
          · rfl
      | endCall => exact call.flags_endCall
  | event occurrence => rfl
  | adjust adjustment => rfl

/-- A call that is over shows what it showed. -/
theorem flags_move_of_ended (finished : call.lifecycle = .ended) (move : CallMove) :
    (call.move move).flags = call.flags := by
  cases move with
  | item item => exact (congrArg Call.flags (route_of_ended finished item) :)
  | task task => exact (congrArg Call.flags (runTask_of_ended finished task) :)
  | event occurrence => rfl
  | adjust adjustment => rfl

/-- A call that is running has been running before. -/
theorem running_of_run {moves : List CallMove} (running : (call.run moves).lifecycle ≠ .ended) :
    call.lifecycle ≠ .ended := by
  intro finished
  apply running
  exact run_preserves (motive := fun current => current.lifecycle = .ended)
    (fun _ move _ ended => lifecycle_move_of_ended ended move) finished

/-! ## The flags of the peer -/

/-- The tracks that the peer sends are looked at. -/
abbrev trackUpdate : CallMove := .item (.coordinator .peerStreamTrackUpdate)

/-- What the peer reports is shown. -/
theorem peer_move_of_reported (running : call.lifecycle ≠ .ended) {move : CallMove}
    {kind : MediaKind} {on : Bool} (reports : move.reported? kind = some on) :
    (call.move move).flags.peer kind = on := by
  rw [flags_move running]
  unfold CallMove.reported? at reports
  split at reports
  · rename_i report
    have apart : report ≠ .peerStreamTrackUpdate := by
      rintro rfl
      exact nomatch reports
    simp only [flagsAfter]
    rw [CallFlags.peer_afterItem, if_neg apart, reports, Option.getD_some]
  · exact nomatch reports

/-- Without a report only enabled tracks of the peer are shown. -/
theorem peer_move_of_unreported (running : call.lifecycle ≠ .ended) {move : CallMove}
    {kind : MediaKind} (silent : move.reported? kind = none) :
    (call.move move).flags.peer kind = true ↔ call.flags.peer kind = true ∨
      move = trackUpdate ∧ call.peer.remoteStream.hasEnabled kind = true := by
  rw [flags_move running]
  by_cases looked : move = trackUpdate
  · subst looked
    simp only [flagsAfter, trackUpdate, CallFlags.peer_afterItem, ↓reduceIte, Bool.or_eq_true,
      true_and]
  · have kept : (call.flagsAfter move).peer kind = call.flags.peer kind := by
      unfold flagsAfter
      split
      · rename_i report
        have apart : report ≠ .peerStreamTrackUpdate := fun same => looked (by rw [same])
        rw [CallFlags.peer_afterItem, if_neg apart]
        exact congrArg (Option.getD · _) silent
      · exact congrFun (CallFlags.peer_turn ..) kind
      · exact congrFun (CallFlags.peer_turn ..) kind
      · rfl
    rw [kept]
    simp only [looked, false_and, or_false]

/-- As long as the peer reports nothing of a kind of its tracks, its flag goes on only with
the tracks that it sends, and stays on. -/
theorem peer_run (moves : List CallMove) {kind : MediaKind}
    (silent : ∀ move ∈ moves, move.reported? kind = none)
    (running : (call.run moves).lifecycle ≠ .ended) :
    (call.run moves).flags.peer kind = true ↔ call.flags.peer kind = true ∨
      ∃ before after, moves = before ++ trackUpdate :: after ∧
        (call.run before).peer.remoteStream.hasEnabled kind = true := by
  induction moves generalizing call with
  | nil => simp
  | cons move rest ih =>
      have started : call.lifecycle ≠ .ended := running_of_run running
      have first := silent move List.mem_cons_self
      rw [run_cons] at running ⊢
      rw [ih (fun other member => silent other (List.mem_cons_of_mem _ member)) running,
        peer_move_of_unreported started first, or_assoc]
      apply or_congr_right
      constructor
      · rintro (⟨rfl, sends⟩ | ⟨before, after, rfl, sends⟩)
        · exact ⟨[], rest, rfl, sends⟩
        · exact ⟨move :: before, after, rfl, sends⟩
      · rintro ⟨before, after, same, sends⟩
        rcases List.cons_eq_append_iff.mp same with ⟨rfl, head⟩ | ⟨before, rfl, split⟩
        · obtain ⟨rfl, rfl⟩ := List.cons_eq_cons.mp head
          exact Or.inl ⟨rfl, sends⟩
        · exact Or.inr ⟨before, after, split, sends⟩

/-- Once the peer reported its microphone or its camera, a running call shows what was
reported until the next report, unless it is switched on by tracks that the peer sends: by
an enabled track of that kind that was there when the tracks were looked at. -/
theorem peer_follows_report {report : CallMove} {kind : MediaKind} {on : Bool}
    (reports : report.reported? kind = some on) (earlier later : List CallMove)
    (last : ∀ move ∈ later, move.reported? kind = none)
    (running : (call.run (earlier ++ report :: later)).lifecycle ≠ .ended) :
    (call.run (earlier ++ report :: later)).flags.peer kind = true ↔ on = true ∨
      ∃ before after, later = before ++ trackUpdate :: after ∧
        (call.run (earlier ++ report :: before)).peer.remoteStream.hasEnabled kind = true := by
  rw [run_append, run_cons] at running ⊢
  have told : ((call.run earlier).run [report]).lifecycle ≠ .ended := running_of_run running
  have listening : (call.run earlier).lifecycle ≠ .ended := running_of_run told
  rw [peer_run later last running, peer_move_of_reported listening reports]
  simp only [run_append, run_cons]

/-- When the peer switched the tracks of a kind that it sends, the next look shows them on if
they were switched on, and leaves what was shown if they were switched off. -/
theorem peer_run_switchRemote (running : call.lifecycle ≠ .ended) (kind : MediaKind)
    (enabled : Bool) :
    (call.run [.adjust (.switchRemote kind enabled), trackUpdate]).flags.peer kind =
      (call.flags.peer kind || (call.peer.remoteStream.hasKind kind && enabled)) := by
  have switched : (call.move (.adjust (.switchRemote kind enabled))).lifecycle ≠ .ended := running
  have sends : (call.move (.adjust (.switchRemote kind enabled))).peer.remoteStream.hasEnabled
      kind = (call.peer.remoteStream.hasKind kind && enabled) :=
    call.peer.remoteStream.hasEnabled_setEnabled kind enabled
  rw [run_cons, run_cons, run_nil, Bool.eq_iff_iff,
    peer_move_of_unreported switched (by cases kind <;> rfl), sends, Bool.or_eq_true]
  exact or_congr_right (and_iff_right rfl)

/-- The peer sends a microphone that is on, and that is shown. -/
def micShown : List CallMove :=
  [.event (.connection 0 (.track ⟨"mic", .audio, true⟩)), trackUpdate]

/-- The peer sends a camera that is on, and its tracks are looked at. -/
def cameraShown : List CallMove :=
  [.event (.connection 0 (.track ⟨"camera", .video, true⟩)), trackUpdate]

/-- A peer that reported its microphone off, and that sends a camera only, is shown with its
microphone off. -/
theorem peer_follows_report_justBegun :
    let reached := justBegun.run (.item (.coordinator .peerMicTurnedOff) :: cameraShown)
    reached.lifecycle ≠ .ended ∧ (∀ move ∈ cameraShown, move.reported? .audio = none) ∧
      reached.flags.peer .audio ≠ true := by
  intro reached
  have running : reached.lifecycle ≠ .ended := nofun
  have last : ∀ move ∈ cameraShown, move.reported? .audio = none := by
    simp [cameraShown, CallMove.reported?, CoordinatorItem.reported?]
  refine ⟨running, last, fun shown => ?_⟩
  rcases (peer_follows_report rfl [] cameraShown last running).mp shown with off | looked
  · cases off
  · -- When the tracks were looked at, only the camera had arrived.
    obtain ⟨before, after, split, sends⟩ := looked
    rcases List.cons_eq_append_iff.mp split with ⟨_, head⟩ | ⟨rest, rfl, others⟩
    · exact nomatch head
    · rcases List.cons_eq_append_iff.mp others with ⟨rfl, _⟩ | ⟨_, _, none⟩
      · exact nomatch sends
      · exact (List.append_ne_nil_of_right_ne_nil _ (List.cons_ne_nil _ _) none.symm).elim

/-- A microphone that the peer sent and then reported off is shown on again when the peer's
camera arrives. -/
theorem report_overruled_justBegun :
    let report : CallMove := .item (.coordinator .peerMicTurnedOff)
    let reached := justBegun.run (micShown ++ report :: cameraShown)
    justBegun.Begins ∧ reached.lifecycle ≠ .ended ∧
      (∀ move ∈ cameraShown, move.reported? .audio = none) ∧
      (justBegun.run (micShown ++ [report])).flags.peer .audio = false ∧
      reached.flags.peer .audio = true := by
  intro report reached
  refine ⟨begins_justBegun, nofun, ?_, rfl, rfl⟩
  simp [cameraShown, CallMove.reported?, CoordinatorItem.reported?]

end Call

end CallControl
