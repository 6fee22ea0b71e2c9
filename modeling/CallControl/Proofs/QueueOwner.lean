import CallControl.WorkQueue
import CallControl.Proofs.Backlog

/-! # What the owner of a queue makes of its tasks

The owner of a work queue handles the items and runs its own tasks, and markers are nothing
to it (`QueueHandler.respond`). So what has become of the owner, which items it has raised and
whether it has broken off follows from the tasks that have started, one after the other
(`QueueHandler.ownerAfter`, `QueueHandler.raisedBy`, `QueueHandler.breaksOff`). A queue at work
keeps to that in every run: its owner is the one that the tasks leave which are done, and the
items that were dispatched to it are those that came from outside and those that its owner
raised, but for the ones that the task at work has still to send (`Accounted`).
-/

namespace CallControl

variable {Task State : Type}

/-- The item that a task of the queue handles. -/
def QueueTask.item? : QueueTask Task → Option WorkItem
  | .item handled => some handled
  | .task _ => none
  | .marker _ => none

/-- The item that an order dispatches. -/
def Order.item? : Order (QueueTask Task) → Option WorkItem
  | .run task => task.item?
  | .runAfter _ _ => none
  | .stop => none

/-- The item that is dispatched from outside. -/
def LoopMove.item? : LoopMove (QueueTask Task) → Option WorkItem
  | .order sent => sent.item?
  | .wait _ => none
  | .turn _ => none
  | .abandon => none

/-- The item that is dispatched, whether the queue still takes it or not. -/
def LoopEvent.dispatch? : LoopEvent (QueueTask Task) → Option WorkItem
  | .enqueued letter => letter.atOnce?.bind QueueTask.item?
  | .dropped (.run task) => task.item?
  | .dropped (.runAfter _ _) => none
  | .dropped .stop => none
  | .took _ => none
  | .brokeOff => none

/-! ## Tasks one after the other -/

namespace QueueHandler

/-- What the owner makes of a task of its queue. -/
def respond (handler : QueueHandler Task State) : QueueTask Task → State → Handled State
  | .item item, owner => handler.handle item owner
  | .task own, owner => handler.run own owner
  | .marker _, owner => ⟨owner, [], false⟩

/-- The owner when it has handled or run some tasks, one after the other. -/
def ownerAfter (handler : QueueHandler Task State) (owner : State) (tasks : List (QueueTask Task)) :
    State :=
  tasks.foldl (fun owner task => (handler.respond task owner).state) owner

/-- The items that the owner raises meanwhile, in order. -/
def raisedBy (handler : QueueHandler Task State) (owner : State) :
    List (QueueTask Task) → List WorkItem
  | [] => []
  | task :: rest =>
      (handler.respond task owner).raised ++
        raisedBy handler (handler.respond task owner).state rest

/-- The owner breaks off in one of the tasks. -/
def breaksOff (handler : QueueHandler Task State) (owner : State) : List (QueueTask Task) → Bool
  | [] => false
  | task :: rest =>
      (handler.respond task owner).crashed ||
        breaksOff handler (handler.respond task owner).state rest

variable (handler : QueueHandler Task State) (owner : State) (earlier : List (QueueTask Task))
  (task : QueueTask Task)

private theorem ownerAfter_concat :
    handler.ownerAfter owner (earlier ++ [task]) =
      (handler.respond task (handler.ownerAfter owner earlier)).state :=
  List.foldl_append ..

private theorem raisedBy_concat :
    handler.raisedBy owner (earlier ++ [task]) =
      handler.raisedBy owner earlier ++
        (handler.respond task (handler.ownerAfter owner earlier)).raised := by
  induction earlier generalizing owner with
  | nil => exact List.append_nil _
  | cons first rest ih =>
      rw [List.cons_append, raisedBy, ih, raisedBy, List.append_assoc]
      rfl

private theorem breaksOff_concat :
    handler.breaksOff owner (earlier ++ [task]) =
      (handler.breaksOff owner earlier ||
        (handler.respond task (handler.ownerAfter owner earlier)).crashed) := by
  induction earlier generalizing owner with
  | nil => exact Bool.or_false _
  | cons first rest ih =>
      rw [List.cons_append, breaksOff, ih, breaksOff, Bool.or_assoc]
      rfl

/-! ## One task -/

private theorem owner_perform (state : QueueState State) :
    (handler.perform task state).state.owner = (handler.respond task state.owner).state := by
  cases task <;> rfl

private theorem crashed_perform (state : QueueState State) :
    (handler.perform task state).crashed = (handler.respond task state.owner).crashed := by
  cases task <;> rfl

/-- The items that a task sends to its queue are those that the owner raises. -/
theorem items_perform (state : QueueState State) :
    (handler.perform task state).orders.filterMap Order.item? =
      (handler.respond task state.owner).raised := by
  have sent (items : List WorkItem) :
      (items.map fun item => (Order.run (.item item) : Order (QueueTask Task))).filterMap
        Order.item? = items := by
    rw [List.filterMap_map]
    exact List.filterMap_some
  cases task with
  | item item => exact sent _
  | task own => exact sent _
  | marker number => rfl

end QueueHandler

/-! ## Every run -/

/-- What the owner of a queue has made of the tasks that started, the last of which may still be
at work, and what has become of the items that it raised. -/
inductive Accounted (handler : QueueHandler Task State) (owner : State) (outside : List WorkItem)
    (seen : List (LoopEvent (QueueTask Task))) :
    LoopAtWork (QueueTask Task) (QueueState State) → Prop where
  | rests (loop : TaskLoop (QueueTask Task) (QueueState State))
      (owned : loop.state.owner = handler.ownerAfter owner (starts seen))
      (dispatched : (seen.filterMap LoopEvent.dispatch?).Perm
        (outside ++ handler.raisedBy owner (starts seen)))
      (broke : LoopEvent.brokeOff ∈ seen ↔ handler.breaksOff owner (starts seen) = true) :
      Accounted handler owner outside seen (.idle loop)
  | works (loop : TaskLoop (QueueTask Task) (QueueState State))
      (turn : Turn (QueueTask Task) (QueueState State)) (earlier : List (QueueTask Task))
      (task : QueueTask Task) (started : starts seen = earlier ++ [task])
      (owned : loop.state.owner = handler.ownerAfter owner earlier)
      (outcome : turn.state.owner = (handler.respond task loop.state.owner).state)
      (crashed : turn.crashed = (handler.respond task loop.state.owner).crashed)
      (dispatched : (seen.filterMap LoopEvent.dispatch? ++ turn.orders.filterMap Order.item?).Perm
        (outside ++ handler.raisedBy owner (starts seen)))
      (broke : LoopEvent.brokeOff ∈ seen ↔ handler.breaksOff owner earlier = true) :
      Accounted handler owner outside seen ⟨loop, some turn⟩

namespace Accounted

variable {handler : QueueHandler Task State} {owner : State} {outside : List WorkItem}
  {seen : List (LoopEvent (QueueTask Task))}

/-- A queue that has just started has handled nothing. -/
theorem start (handler : QueueHandler Task State) (owner : State) (reached : List Nat) :
    Accounted handler owner [] [] (.idle (.start ⟨owner, reached⟩)) :=
  .rests _ rfl (List.Perm.refl _) (iff_of_false List.not_mem_nil Bool.false_ne_true)

/-- What comes from outside or is raised is dispatched, in whichever order both come. -/
private theorem perm_insert {Element : Type} {sent left outside raised : List Element}
    (same : (sent ++ left).Perm (outside ++ raised)) (new : List Element) :
    (sent ++ new ++ left).Perm (outside ++ new ++ raised) := by
  have first (front behind : List Element) :
      (front ++ new ++ behind).Perm (new ++ (front ++ behind)) := by
    rw [← List.append_assoc]
    exact List.perm_append_comm.append_right behind
  exact (first sent left).trans ((same.append_left new).trans (first outside raised).symm)

/-- What is seen of an order: the item that it dispatches, whether the queue takes it or not. -/
private theorem posted_cases (loop : TaskLoop (QueueTask Task) (QueueState State))
    (order : Order (QueueTask Task)) (seen : List (LoopEvent (QueueTask Task))) :
    let now := seen ++ [LoopAtWork.posted loop order]
    starts now = starts seen ∧
      now.filterMap LoopEvent.dispatch? =
        seen.filterMap LoopEvent.dispatch? ++ order.item?.toList ∧
      (LoopEvent.brokeOff ∈ now ↔ LoopEvent.brokeOff ∈ seen) := by
  intro now
  have item : (LoopAtWork.posted loop order).dispatch? = order.item? := by
    unfold LoopAtWork.posted
    split <;> cases order <;> rfl
  have whole : LoopEvent.brokeOff ≠ LoopAtWork.posted loop order := by
    unfold LoopAtWork.posted
    split <;> exact nofun
  refine ⟨?_, ?_, ?_⟩
  · rw [starts_append, LoopAtWork.starts_posted, List.append_nil]
  · rw [List.filterMap_append, ← item]
    cases found : (LoopAtWork.posted loop order).dispatch? <;>
      simp only [List.filterMap_cons, found, List.filterMap_nil, Option.toList_none,
        Option.toList_some]
  · rw [List.mem_append, List.mem_singleton]
    exact or_iff_left whole

variable {work : LoopAtWork (QueueTask Task) (QueueState State)}

/-- An order from outside is sent to the queue. -/
private theorem order (accounted : Accounted handler owner outside seen work)
    (order : Order (QueueTask Task)) :
    Accounted handler owner (outside ++ order.item?.toList)
      (seen ++ [LoopAtWork.posted work.loop order]) ⟨work.loop.post order, work.busy⟩ := by
  obtain ⟨same, sent, whole⟩ := posted_cases work.loop order seen
  cases accounted with
  | rests loop owned dispatched broke =>
      refine .rests (loop.post order) ?_ ?_ ?_
      · rw [loop.state_post, owned, same]
      · rw [sent, same, ← List.append_nil (_ ++ order.item?.toList)]
        refine perm_insert ?_ _
        rw [List.append_nil]
        exact dispatched
      · rw [whole, same]
        exact broke
  | works loop turn earlier task started owned outcome crashed dispatched broke =>
      refine .works (loop.post order) turn earlier task ?_ ?_ ?_ ?_ ?_ (whole.trans broke)
      · exact same.trans started
      · rw [loop.state_post, owned]
      · rw [loop.state_post, outcome]
      · rw [loop.state_post, crashed]
      · rw [sent, same]
        exact perm_insert dispatched _

/-- The queue starts a task, or it takes up something else. -/
private theorem takeUp {loop : TaskLoop (QueueTask Task) (QueueState State)}
    (accounted : Accounted handler owner outside seen (.idle loop)) (choice : Nat) :
    Accounted handler owner outside
      (seen ++ ((loop.take? choice).map fun taken => .took taken.1).toList)
      (LoopAtWork.takeUp handler.perform choice loop) := by
  cases accounted with
  | rests _ owned dispatched broke =>
      unfold LoopAtWork.takeUp
      cases took : loop.take? choice with
      | none => exact (List.append_nil seen).symm ▸ .rests loop owned dispatched broke
      | some pair =>
          obtain ⟨taken, rest⟩ := pair
          have kept : rest.state = loop.state := LoopAtWork.take?_state took
          have sent : (seen ++ [LoopEvent.took taken]).filterMap LoopEvent.dispatch? =
              seen.filterMap LoopEvent.dispatch? := by
            rw [List.filterMap_append]
            exact List.append_nil _
          have whole : LoopEvent.brokeOff ∈ seen ++ [.took taken] ↔ .brokeOff ∈ seen := by
            rw [List.mem_append, List.mem_singleton]
            exact or_iff_left nofun
          have begins : starts (seen ++ [.took taken]) = starts seen ++ taken.task?.toList := by
            rw [starts_append]
            cases taken <;> rfl
          change Accounted handler owner outside (seen ++ [.took taken])
            ⟨rest, taken.task?.map fun task => handler.perform task rest.state⟩
          cases starting : taken.task? with
          | none =>
              rw [starting, Option.toList_none, List.append_nil] at begins
              refine .rests rest ?_ ?_ ?_
              · rw [kept, owned, begins]
              · rw [sent, begins]
                exact dispatched
              · rw [whole, begins]
                exact broke
          | some task =>
              rw [starting] at begins
              refine .works rest (handler.perform task rest.state) (starts seen) task begins ?_
                (handler.owner_perform task _) (handler.crashed_perform task _) ?_
                (whole.trans broke)
              · rw [kept, owned]
              · rw [sent, begins, handler.items_perform, kept, owned]
                refine (dispatched.append_right _).trans (List.Perm.of_eq ?_)
                rw [Option.toList_some, handler.raisedBy_concat, List.append_assoc]

/-- The task at work gives its next order, or is done, or breaks off. -/
private theorem carryOn {loop : TaskLoop (QueueTask Task) (QueueState State)}
    {turn : Turn (QueueTask Task) (QueueState State)}
    (accounted : Accounted handler owner outside seen ⟨loop, some turn⟩) :
    Accounted handler owner outside (seen ++ (LoopAtWork.goesOn loop turn).toList)
      (LoopAtWork.carryOn loop turn) := by
  cases accounted with
  | works _ _ earlier task started owned outcome crashed dispatched broke =>
      obtain ⟨state, orders, breaks⟩ := turn
      cases orders with
      | cons order orders =>
          obtain ⟨same, sent, whole⟩ := posted_cases loop order seen
          refine .works (loop.post order) ⟨state, orders, breaks⟩ earlier task ?_ ?_ ?_ ?_ ?_
            (whole.trans broke)
          · exact same.trans started
          · rw [loop.state_post, owned]
          · rw [loop.state_post]
            exact outcome
          · rw [loop.state_post]
            exact crashed
          · have split : order.item?.toList ++ orders.filterMap Order.item? =
                (order :: orders).filterMap Order.item? := by
              rw [List.filterMap_cons]
              cases order.item? <;> rfl
            change (List.filterMap _ (seen ++ [LoopAtWork.posted loop order]) ++ _).Perm
              (outside ++ handler.raisedBy owner (starts (seen ++ [LoopAtWork.posted loop order])))
            rw [sent, same, List.append_assoc, split]
            exact dispatched
      | nil =>
          have finished : state.owner = handler.ownerAfter owner (starts seen) := by
            rw [started, handler.ownerAfter_concat, ← owned]
            exact outcome
          have all : handler.breaksOff owner (starts seen) =
              (handler.breaksOff owner earlier || breaks) := by
            rw [started, handler.breaksOff_concat, ← owned]
            exact congrArg _ crashed.symm
          rw [List.filterMap_nil, List.append_nil] at dispatched
          cases breaks with
          | false =>
              refine (List.append_nil seen).symm ▸ .rests _ finished dispatched ?_
              rw [all, Bool.or_false]
              exact broke
          | true =>
              have same : starts (seen ++ [.brokeOff]) = starts seen := by
                rw [starts_append]
                exact List.append_nil _
              have sent : (seen ++ [LoopEvent.brokeOff]).filterMap LoopEvent.dispatch? =
                  seen.filterMap LoopEvent.dispatch? := by
                rw [List.filterMap_append]
                exact List.append_nil _
              change Accounted handler owner outside (seen ++ [.brokeOff]) (.idle _)
              refine .rests _ (same.symm ▸ finished) ?_ ?_
              · rw [sent, same]
                exact dispatched
              · rw [same, all, Bool.or_true]
                exact iff_of_true (List.mem_append_right _ List.mem_cons_self) rfl

private theorem step (accounted : Accounted handler owner outside seen work)
    (move : LoopMove (QueueTask Task)) :
    Accounted handler owner (outside ++ move.item?.toList) (seen ++ (work.event? move).toList)
      (work.step handler.perform move) := by
  have passes : outside ++ ([] : List WorkItem) = outside := List.append_nil outside
  have unseen : seen ++ ([] : List (LoopEvent (QueueTask Task))) = seen := List.append_nil seen
  cases move with
  | order order => exact accounted.order order
  | wait milliseconds =>
      change Accounted handler owner (outside ++ []) (seen ++ []) _
      rw [passes, unseen]
      cases accounted with
      | rests loop owned dispatched broke => exact .rests _ owned dispatched broke
      | works loop turn earlier task started owned outcome crashed dispatched broke =>
          exact .works _ turn earlier task started owned outcome crashed dispatched broke
  | turn choice =>
      change Accounted handler owner (outside ++ []) _ _
      rw [passes]
      obtain ⟨loop, busy⟩ := work
      cases busy with
      | none => exact accounted.takeUp choice
      | some turn => exact accounted.carryOn
  | abandon =>
      change Accounted handler owner (outside ++ []) (seen ++ []) (if _ then _ else _)
      rw [passes, unseen]
      split
      · rename_i alone
        cases accounted with
        | rests loop owned dispatched broke => exact .rests _ owned dispatched broke
        | works loop turn earlier task started owned outcome crashed dispatched broke => cases alone
      · exact accounted

/-- What a queue has handled accounts for its owner after any run. -/
theorem run (accounted : Accounted handler owner outside seen work)
    (moves : List (LoopMove (QueueTask Task))) :
    Accounted handler owner (outside ++ moves.filterMap LoopMove.item?)
      (seen ++ work.trace handler.perform moves) (work.run handler.perform moves) := by
  induction moves generalizing outside seen work with
  | nil =>
      unfold LoopAtWork.trace
      rw [List.filterMap_nil, List.append_nil, List.append_nil]
      exact accounted
  | cons move moves ih =>
      have rest := ih (accounted.step move)
      have sent : move.item?.toList ++ moves.filterMap LoopMove.item? =
          (move :: moves).filterMap LoopMove.item? := by
        rw [List.filterMap_cons]
        cases move.item? <;> rfl
      rw [List.append_assoc, sent, List.append_assoc] at rest
      exact rest

/-- Whenever no task is at work, the owner is what the tasks that started have made of it; what
was dispatched are the items from outside and those that the owner raised; and a task has broken
off exactly if the owner has. -/
theorem resting (accounted : Accounted handler owner outside seen work)
    (idle : work.busy = none) :
    work.loop.state.owner = handler.ownerAfter owner (starts seen) ∧
      (seen.filterMap LoopEvent.dispatch?).Perm
        (outside ++ handler.raisedBy owner (starts seen)) ∧
      (LoopEvent.brokeOff ∈ seen ↔ handler.breaksOff owner (starts seen) = true) := by
  cases accounted with
  | rests loop owned dispatched broke => exact ⟨owned, dispatched, broke⟩
  | works loop turn earlier task started owned outcome crashed dispatched broke => cases idle

end Accounted

end CallControl
