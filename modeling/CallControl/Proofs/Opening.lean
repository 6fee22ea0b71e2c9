import CallControl.Proofs.Outgoing

/-! # The opening of the relay's socket

A socket is open before anybody is told so. The link to the relay then asks for a token,
which may take any time, and sends it once it is there. Meanwhile the call goes on: other
things happen to it, and a signal that it handles is sent at once (`OpeningAtWork.step`).
Without such interruptions the opening is the event that `Parts.occur` makes of it
(`OpeningAtWork.run_uninterrupted`).

The frames are the signals among the items in the order in which they were raised, with the
token in between, where it was sent. It comes first exactly if nothing else was sent from the
moment at which the socket was open up to then (`Call.Begins.frames_around_token`).
-/

namespace CallControl

/-- How far the opening of a socket has come. -/
inductive Opening where
  | ahead
  /-- The socket is open, and its observer was not told yet. -/
  | reported
  /-- The link to the relay was told, and asks for a token. -/
  | asking
  /-- The link has what it asked for. -/
  | answered (outcome : Except Failure String)
  | done

namespace Opening

/-- A token that was asked for is the one that was to be given; before that nobody has asked. -/
def Agrees (stage : Opening) (now tokens : TokenScript) : Prop :=
  match stage with
  | .answered outcome => outcome = tokens.outcome
  | .done => True
  | _ => now = tokens

/-- What the next step of an opening does to the socket. -/
def change : Opening → RelaySocket → RelaySocket
  | .ahead => fun socket => socket.after .opened
  | .answered (.ok token) => fun socket => socket.accept token
  | _ => fun socket => socket

/-- What the next step of an opening sends on the socket. -/
def texts (stage : Opening) (socket : RelaySocket) : List String :=
  match stage with
  | .answered (.ok token) => if socket.takes then [token] else []
  | _ => []

private theorem sent_change (stage : Opening) (socket : RelaySocket) :
    (stage.change socket).sent = socket.sent ++ stage.texts socket := by
  have nothing : socket.sent = socket.sent ++ [] := (List.append_nil _).symm
  cases stage with
  | answered outcome =>
      cases outcome with
      | ok token => exact socket.sent_accept token
      | error failure => exact nothing
  | _ => exact nothing

private theorem closed_change (stage : Opening) (socket : RelaySocket) :
    (stage.change socket).closed = socket.closed := by
  cases stage with
  | answered outcome =>
      cases outcome with
      | ok token => exact socket.closed_accept token
      | error failure => rfl
  | _ => rfl

private theorem observer_change (stage : Opening) (socket : RelaySocket) :
    (stage.change socket).observer = socket.observer := by
  cases stage with
  | answered outcome =>
      cases outcome with
      | ok token => exact socket.observer_accept token
      | error failure => rfl
  | _ => rfl

private theorem detached_change (stage : Opening) (socket : RelaySocket) :
    (stage.change socket).detached = socket.detached := by
  cases stage with
  | answered outcome =>
      cases outcome with
      | ok token => exact socket.detached_accept token
      | error failure => rfl
  | _ => rfl

end Opening

namespace Parts

/-- The parts after the next step of the opening of a socket, with how far it has come then.
Whoever breaks off is gone when it is over. -/
def proceed (parts : Parts) (id : SocketId) : Opening → Parts × Opening
  | .ahead => (parts.modifySocket id (·.after .opened), .reported)
  | .reported =>
      match parts.platform.sockets[id]?.bind RelaySocket.observer with
      | some .link => (parts, .asking)
      | some .note => ((parts.note (.socket .opened)).recover, .done)
      | none => (parts.recover, .done)
  | .asking =>
      let (outcome, asked) := parts.fetchToken
      (asked, .answered outcome)
  | .answered outcome => ((parts.greet (.simulated id) outcome).recover, .done)
  | .done => (parts, .done)

/-- Without interruption an opening is one event. -/
theorem proceed_uninterrupted (parts : Parts) (id : SocketId) :
    let next (state : Parts × Opening) := state.1.proceed id state.2
    next (next (next (next (parts, .ahead)))) = (parts.undergo (.socket id .opened), .done) := by
  intro next
  have begun : next (parts, .ahead) = (parts.modifySocket id (·.after .opened), .reported) := rfl
  simp only [undergo, occur, socketEmits, begun]
  cases found : parts.platform.sockets[id]? with
  | none =>
      have same := modifySocket_of_none found (·.after .opened)
      simp only [same, next, proceed, found, Option.bind_none]
  | some socket =>
      have observed : (parts.modifySocket id (·.after .opened)).platform.sockets[id]?.bind
          RelaySocket.observer = socket.observer := by
        simp only [modifySocket, Platform.modifySocket, List.getElem?_modify_eq, found,
          Option.map_eq_map, Option.map_some, Option.bind_some]
        rfl
      simp only [next, proceed, observed]
      cases socket.observer with
      | none => rfl
      | some audience => cases audience <;> rfl

/-- Besides the socket an opening changes what was written down, whether something broke off,
and the tokens when it asks for one. -/
theorem proceed_eq (parts : Parts) (id : SocketId) (stage : Opening) :
    ∃ tokens journal crashed,
      (parts.proceed id stage).1 = { parts with platform := { parts.platform with
        sockets := parts.platform.sockets.modify id stage.change, tokens, journal, crashed } } ∧
      (stage ≠ .asking → tokens = parts.platform.tokens) := by
  have untouched : parts.platform.sockets.modify id (fun socket => socket) =
      parts.platform.sockets := List.modify_id ..
  let after := (parts.proceed id stage).1.platform
  refine ⟨after.tokens, after.journal, after.crashed, ?_, fun other => ?_⟩
  · cases stage with
    | ahead => rfl
    | reported =>
        simp only [Opening.change, untouched, after, proceed]
        split <;> rfl
    | answered outcome =>
        cases outcome with
        | ok token =>
            simp only [after, proceed, greet, sendOnSocket_simulated]
            rfl
        | error failure =>
            simp only [Opening.change, untouched]
            cases failure <;> rfl
    | _ =>
        simp only [Opening.change, untouched]
        rfl
  · cases stage with
    | reported =>
        simp only [after, proceed]
        split <;> rfl
    | answered outcome =>
        cases outcome with
        | ok token => rfl
        | error failure => cases failure <;> rfl
    | asking => exact (other rfl).elim
    | _ => rfl

private theorem Coupled.proceed {parts : Parts} {holdsRelay : Bool}
    (coupled : parts.Coupled holdsRelay)
    (id : SocketId) (stage : Opening) : (parts.proceed id stage).1.Coupled holdsRelay := by
  obtain ⟨tokens, journal, crashed, same, _⟩ := parts.proceed_eq id stage
  rw [same]
  refine ⟨coupled.accounted.of_relay rfl, fun holds => ?_, fun lacks => ?_⟩
  · have changed := (coupled.held holds).modifySocket id stage.change
    exact ⟨changed.only, changed.held, changed.heeding⟩
  · have changed := (coupled.gone lacks).modifySocket id fun socket spent =>
      ⟨(stage.detached_change socket).trans spent.detached,
        (stage.closed_change socket).trans spent.closed,
        (stage.observer_change socket).trans spent.unobserved⟩
    exact ⟨changed.spent, changed.absent, changed.muted, changed.heeding⟩

end Parts

namespace Call

open Parts

variable {call : Call}

/-- A call after the next step of the opening of its socket. -/
def proceed (call : Call) (stage : Opening) : Call :=
  call.withParts fun parts => (parts.proceed 0 stage).1

/-- What the next step of the opening sends. -/
def openingTexts (call : Call) (stage : Opening) : List String :=
  call.socket?.elim [] stage.texts

/-- An opening raises nothing. -/
theorem dispatched_proceed (call : Call) (stage : Opening) :
    (call.proceed stage).platform.dispatched = call.platform.dispatched := by
  obtain ⟨tokens, journal, crashed, same, _⟩ := call.toParts.proceed_eq 0 stage
  simp only [Call.proceed, withParts, same]

private theorem Sound.proceed (sound : call.Sound) (stage : Opening) :
    (call.proceed stage).Sound := by
  have coupled := sound.coupled.proceed 0 stage
  obtain ⟨tokens, journal, crashed, same, _⟩ := call.toParts.proceed_eq 0 stage
  refine ⟨coupled, sound.past, fun finished => ?_⟩
  obtain ⟨absent, hushed⟩ := sound.finished finished
  simp only [Call.proceed, withParts, same]
  exact ⟨absent, hushed.congr rfl⟩

/-- A step of the opening sends the token when it is there, if the socket takes it. -/
theorem Transmits.proceed (sound : call.Sound) (watched : call.Watched) (stage : Opening) :
    Transmits call (call.proceed stage) true (call.openingTexts stage) := by
  obtain ⟨socket, single, found⟩ := exists_socket sound.coupled
  have changed : (call.proceed stage).socket? = some (stage.change socket) := by
    obtain ⟨tokens, journal, crashed, same, _⟩ := call.toParts.proceed_eq 0 stage
    unfold socket?
    simp only [Call.proceed, withParts, same, single]
    rfl
  have texts : call.openingTexts stage = stage.texts socket := by
    unfold openingTexts
    rw [found, Option.elim_some]
  rw [texts]
  exact .of_socket watched found changed rfl (stage.sent_change socket) (fun _ => Or.inr rfl)
    (stage.closed_change socket).trans (fun _ => stage.observer_change socket)
    fun never => Bool.noConfusion never

/-- No token is sent after the socket was closed or the link given up. -/
theorem openingTexts_of_cutOff (sound : call.Sound) (lost : call.cutOff = true)
    (stage : Opening) : call.openingTexts stage = [] := by
  obtain ⟨socket, single, found⟩ := exists_socket sound.coupled
  have closed : socket.closed = true := by
    unfold cutOff at lost
    rw [found, Option.any_some] at lost
    cases holds : call.holdsRelay with
    | true =>
        rw [holds] at lost
        exact lost
    | false =>
        obtain ⟨spent, isSingle, isSpent⟩ := (sound.coupled.gone holds).spent
        rw [single] at isSingle
        cases isSingle
        exact isSpent.closed
  unfold openingTexts Opening.texts RelaySocket.takes
  rw [found, Option.elim_some, closed]
  split
  · rw [Bool.not_true, Bool.and_false, Bool.false_and, if_neg Bool.false_ne_true]
  · rfl

end Call

/-- A token is asked for once, and is the one that was to be given. -/
theorem Opening.agrees_proceed {call : Call} {tokens : TokenScript} {stage : Opening}
    (agrees : stage.Agrees call.platform.tokens tokens) :
    (call.toParts.proceed 0 stage).2.Agrees (call.proceed stage).platform.tokens tokens := by
  have kept (other : stage ≠ .asking) :
      (call.proceed stage).platform.tokens = call.platform.tokens := by
    obtain ⟨now, journal, crashed, same, unasked⟩ := call.toParts.proceed_eq 0 stage
    simp only [Call.proceed, Call.withParts, same]
    exact unasked other
  cases stage with
  | ahead => exact (kept (by simp)).trans agrees
  | reported =>
      rw [kept (by simp)]
      simp only [Parts.proceed]
      split
      · exact agrees
      · trivial
      · trivial
  | asking => exact congrArg TokenScript.outcome agrees
  | answered outcome => trivial
  | done => trivial

/-- A call with what waits for it, and how far the opening of its socket has come. -/
structure OpeningAtWork where
  queued : QueuedCall
  stage : Opening

/-- What can happen while a socket opens. -/
inductive OpeningMove where
  /-- Something else happens to the call. -/
  | call (move : QueueMove)
  /-- The opening takes its next step. -/
  | proceed
  deriving Repr

namespace OpeningAtWork

/-- A call for which nothing waits and whose socket has yet to open. -/
def ahead (call : Call) : OpeningAtWork := ⟨.idle call, .ahead⟩

/-- A call after a move; what it raises goes behind what waits. -/
def step (work : OpeningAtWork) : OpeningMove → OpeningAtWork
  | .call move => { work with queued := work.queued.step move }
  | .proceed =>
      let after := work.queued.call.proceed work.stage
      ⟨⟨after, work.queued.waiting ++ work.queued.call.raisedSince after⟩,
        (work.queued.call.toParts.proceed 0 work.stage).2⟩

/-- A call after some moves. -/
def run (work : OpeningAtWork) (moves : List OpeningMove) : OpeningAtWork :=
  moves.foldl step work

private theorem run_append (work : OpeningAtWork) (earlier later : List OpeningMove) :
    work.run (earlier ++ later) = (work.run earlier).run later :=
  List.foldl_append ..

private theorem step_proceed (work : OpeningAtWork) :
    work.step .proceed = ⟨⟨work.queued.call.proceed work.stage, work.queued.waiting⟩,
      (work.queued.call.toParts.proceed 0 work.stage).2⟩ := by
  have silent := Call.raisedSince_of_dispatched (work.queued.call.dispatched_proceed work.stage)
  simp only [step, silent, List.append_nil]

/-- Without interruption an opening is one event. -/
theorem run_uninterrupted (queued : QueuedCall) :
    OpeningAtWork.run ⟨queued, .ahead⟩ [.proceed, .proceed, .proceed, .proceed] =
      ⟨queued.step .opening, .done⟩ := by
  have whole := queued.call.toParts.proceed_uninterrupted 0
  let opened := queued.call.move (.event (.socket 0 .opened))
  have reached : OpeningAtWork.run ⟨queued, .ahead⟩ [.proceed, .proceed, .proceed, .proceed] =
      ⟨⟨opened, queued.waiting⟩, .done⟩ := by
    simp only [run, List.foldl_cons, List.foldl_nil, step_proceed]
    exact congrArg (fun state : Parts × Opening =>
      OpeningAtWork.mk ⟨queued.call.withParts fun _ => state.1, queued.waiting⟩ state.2) whole
  have kept : opened.platform.dispatched = queued.call.platform.dispatched := by
    have same := congrArg (fun work : OpeningAtWork => work.queued.call.platform.dispatched) reached
    simp only [run, List.foldl_cons, List.foldl_nil, step_proceed, Call.dispatched_proceed] at same
    exact same.symm
  rw [reached, QueuedCall.step_of_next rfl, Call.raisedSince_of_dispatched kept, List.append_nil]

/-! ## What is sent -/

/-- The item that a move handles, with whether a signal could be sent just then. -/
def handling (work : OpeningAtWork) : OpeningMove → List (WorkItem × Bool)
  | .call move => work.queued.handling move
  | .proceed => []

/-- The token, if a move sends it. -/
def greeting (work : OpeningAtWork) : OpeningMove → List String
  | .call _ => []
  | .proceed => work.queued.call.openingTexts work.stage

/-- What some moves yield, each in the state that it finds. -/
def gather {Yield : Type} (each : OpeningAtWork → OpeningMove → List Yield) (work : OpeningAtWork) :
    List OpeningMove → List Yield
  | [] => []
  | move :: rest => each work move ++ gather each (work.step move) rest

/-- The items that some moves handle, in order, each with whether a signal could be sent when
it was handled. -/
def handlings (work : OpeningAtWork) (moves : List OpeningMove) : List (WorkItem × Bool) :=
  work.gather handling moves

/-- The signals that some moves send. -/
def signals (work : OpeningAtWork) (moves : List OpeningMove) : List String :=
  (work.handlings moves).filterMap QueuedCall.sentText?

/-- The tokens that some moves send. -/
def greetings (work : OpeningAtWork) (moves : List OpeningMove) : List String :=
  work.gather greeting moves

private theorem gather_append {Yield : Type} (each : OpeningAtWork → OpeningMove → List Yield)
    (work : OpeningAtWork) (earlier later : List OpeningMove) :
    work.gather each (earlier ++ later) =
      work.gather each earlier ++ (work.run earlier).gather each later := by
  induction earlier generalizing work with
  | nil => rfl
  | cons move rest ih =>
      rw [List.cons_append, gather, ih, gather, List.append_assoc]
      rfl

private theorem signals_append (work : OpeningAtWork) (earlier later : List OpeningMove) :
    work.signals (earlier ++ later) = work.signals earlier ++ (work.run earlier).signals later := by
  unfold signals handlings
  rw [gather_append, List.filterMap_append]

private theorem signals_cons (work : OpeningAtWork) (move : OpeningMove) (rest : List OpeningMove) :
    work.signals (move :: rest) =
      (work.handling move).filterMap QueuedCall.sentText? ++ (work.step move).signals rest := by
  unfold signals handlings
  rw [gather, List.filterMap_append]

private theorem signals_proceed (work : OpeningAtWork) (earlier later : List OpeningMove) :
    work.signals (earlier ++ .proceed :: later) =
      work.signals earlier ++ ((work.run earlier).step .proceed).signals later := by
  rw [signals_append, signals_cons, handling, List.filterMap_nil, List.nil_append]

/-! ## How far the opening has come -/

variable {work : OpeningAtWork}

/-- An opening does not begin anew. -/
theorem ahead_of_step {move : OpeningMove} (still : (work.step move).stage = .ahead) :
    work.stage = .ahead ∧ ∃ other, move = .call other := by
  cases move with
  | call other => exact ⟨still, other, rfl⟩
  | proceed =>
      rw [step_proceed] at still
      cases stage : work.stage with
      | reported =>
          simp only [stage, Parts.proceed] at still
          split at still <;> cases still
      | _ => rw [stage] at still; cases still

private theorem done_step (finished : work.stage = .done) (move : OpeningMove) :
    (work.step move).stage = .done := by
  cases move with
  | call other => exact finished
  | proceed => rw [step_proceed, finished]; rfl

private theorem done_run (finished : work.stage = .done) (moves : List OpeningMove) :
    (work.run moves).stage = .done := by
  induction moves generalizing work with
  | nil => exact finished
  | cons move rest ih => exact ih (done_step finished move)

/-- The token is sent by the step that makes an end of the opening, and only if it is there. -/
theorem answered_of_greeting {move : OpeningMove} (greets : work.greeting move ≠ []) :
    move = .proceed ∧ ∃ token, work.stage = .answered (.ok token) ∧
      work.greeting .proceed = [token] := by
  cases move with
  | call other => exact (greets rfl).elim
  | proceed =>
      refine ⟨rfl, ?_⟩
      simp only [greeting, Call.openingTexts] at greets ⊢
      cases found : work.queued.call.socket? with
      | none =>
          rw [found] at greets
          exact (greets rfl).elim
      | some socket =>
          rw [found] at greets
          simp only [Option.elim_some, Opening.texts] at greets ⊢
          split at greets
          · rename_i token stage
            refine ⟨token, stage, ?_⟩
            split at greets
            · rename_i takes
              exact if_pos takes
            · exact (greets rfl).elim
          · exact (greets rfl).elim

private theorem done_of_greeting {move : OpeningMove} (greets : work.greeting move ≠ []) :
    (work.step move).stage = .done := by
  obtain ⟨rfl, token, stage, _⟩ := answered_of_greeting greets
  rw [step_proceed, stage]
  rfl

private theorem greetings_of_done (finished : work.stage = .done) (moves : List OpeningMove) :
    work.greetings moves = [] := by
  induction moves generalizing work with
  | nil => rfl
  | cons move rest ih =>
      have none : work.greeting move = [] := by
        by_contra greets
        obtain ⟨_, _, stage, _⟩ := answered_of_greeting greets
        cases finished.symm.trans stage
      unfold greetings
      rw [gather, none]
      exact ih (done_step finished move)

/-- Up to the end of an opening no token was sent. -/
theorem greetings_of_not_done {moves : List OpeningMove}
    (going : (work.run moves).stage ≠ .done) : work.greetings moves = [] := by
  induction moves generalizing work with
  | nil => rfl
  | cons move rest ih =>
      have none : work.greeting move = [] := by
        by_contra greets
        exact going (done_run (done_of_greeting greets) rest)
      unfold greetings
      rw [gather, none]
      exact ih going

/-- A token that is sent is sent at some point. -/
theorem exists_greeting {moves : List OpeningMove} (greets : work.greetings moves ≠ []) :
    ∃ earlier later token, moves = earlier ++ .proceed :: later ∧
      (work.run earlier).greeting .proceed = [token] := by
  induction moves generalizing work with
  | nil => exact (greets rfl).elim
  | cons move rest ih =>
      by_cases now : work.greeting move = []
      · have later : (work.step move).greetings rest ≠ [] := fun none => by
          apply greets
          unfold greetings at none ⊢
          rw [gather, now, none]
          rfl
        obtain ⟨earlier, after, token, rfl, sent⟩ := ih later
        exact ⟨move :: earlier, after, token, rfl, sent⟩
      · obtain ⟨rfl, token, _, sent⟩ := answered_of_greeting now
        exact ⟨[], rest, token, rfl, sent⟩

/-- The only token is sent where it is sent. -/
theorem greetings_of_greeting {earlier : List OpeningMove} {token : String}
    (sent : (work.run earlier).greeting .proceed = [token]) (later : List OpeningMove) :
    work.greetings earlier = [] ∧ work.greetings (earlier ++ .proceed :: later) = [token] ∧
      ((work.run earlier).step .proceed).greetings later = [] := by
  have greets : (work.run earlier).greeting .proceed ≠ [] := by
    rw [sent]
    exact List.cons_ne_nil _ _
  obtain ⟨_, _, stage, _⟩ := answered_of_greeting greets
  have before : work.greetings earlier = [] :=
    greetings_of_not_done fun finished => by cases finished.symm.trans stage
  have after := greetings_of_done (done_of_greeting greets) later
  refine ⟨before, ?_, after⟩
  unfold greetings at before after ⊢
  rw [gather_append, before, gather, sent, after]
  rfl

/-! ## Runs -/

/-- What holds while a socket opens: the call is orderly, the socket is not open before the
opening has begun, and the link asks for the token that was to be given. -/
structure Underway (work : OpeningAtWork) (tokens : TokenScript) (past : List WorkItem) :
    Prop where
  orderly : work.queued.Orderly past
  unopened : work.stage = .ahead → work.queued.call.opened = false
  agrees : work.stage.Agrees work.queued.call.platform.tokens tokens

namespace Underway

variable {tokens : TokenScript} {past : List WorkItem}

/-- A step of the opening sends the token, if it sends anything. -/
theorem proceed (underway : work.Underway tokens past) :
    (work.step .proceed).Underway tokens past ∧
      (work.step .proceed).queued.call.frames =
        work.queued.call.frames ++ work.greeting .proceed ∧
      (work.queued.call.cutOff = true → (work.step .proceed).queued.call.cutOff = true ∧
        (work.step .proceed).queued.call.frames = work.queued.call.frames) := by
  have sound := underway.orderly.sound
  have transmits := Call.Transmits.proceed sound underway.orderly.watched work.stage
  have begun : (work.step .proceed).stage ≠ .ahead := fun still => by
    obtain ⟨_, _, other⟩ := ahead_of_step still
    cases other
  rw [step_proceed] at begun ⊢
  refine ⟨⟨⟨sound.proceed _, transmits.watched, ?_⟩, fun still => (begun still).elim, ?_⟩,
    transmits.frames, fun lost => ⟨transmits.cutOff lost, ?_⟩⟩
  · exact underway.orderly.ordered.trans (Call.dispatched_proceed _ _).symm
  · exact Opening.agrees_proceed underway.agrees
  · refine transmits.frames.trans ?_
    rw [Call.openingTexts_of_cutOff sound lost, List.append_nil]

/-- Anything else sends the signal that it handles, if it sends anything. -/
theorem other (underway : work.Underway tokens past) {move : QueueMove} (apart : move ≠ .opening) :
    (work.step (.call move)).Underway tokens (past ++ (work.queued.handling move).map Prod.fst) ∧
      (work.step (.call move)).queued.call.frames =
        work.queued.call.frames ++ (work.queued.handling move).filterMap QueuedCall.sentText? ∧
      (work.queued.call.cutOff = true → (work.step (.call move)).queued.call.cutOff = true ∧
        (work.step (.call move)).queued.call.frames = work.queued.call.frames) := by
  obtain ⟨orderly, sent, opened, kept, cutOff⟩ := underway.orderly.step move
  refine ⟨⟨orderly, fun ahead => ?_, ?_⟩, ?_, fun lost => ⟨cutOff lost, ?_⟩⟩
  · refine Bool.eq_false_iff.mpr fun isOpen => ?_
    rcases opened isOpen with already | opens
    · exact nomatch already.symm.trans (underway.unopened ahead)
    · exact apart opens
  · have agrees := underway.agrees
    rw [← kept apart] at agrees
    exact agrees
  · rw [← QueuedCall.texts_of_handling work.queued apart]
    exact sent
  · refine sent.trans ?_
    rw [QueuedCall.texts_of_cutOff lost, List.append_nil]

/-- What one move makes of a call whose socket opens, and what it sends. -/
theorem step (underway : work.Underway tokens past) {move : OpeningMove}
    (apart : move ≠ .call .opening) :
    (work.step move).Underway tokens (past ++ (work.handling move).map Prod.fst) ∧
      (work.step move).queued.call.frames = work.queued.call.frames ++
        (work.greeting move ++ (work.handling move).filterMap QueuedCall.sentText?) ∧
      (work.queued.call.cutOff = true → (work.step move).queued.call.cutOff = true ∧
        (work.step move).queued.call.frames = work.queued.call.frames) := by
  cases move with
  | call move => exact underway.other fun opening => apart (congrArg OpeningMove.call opening)
  | proceed =>
      simp only [handling, List.map_nil, List.filterMap_nil, List.append_nil]
      exact underway.proceed

private theorem run (underway : work.Underway tokens past) {moves : List OpeningMove}
    (apart : .call .opening ∉ moves) :
    (work.run moves).Underway tokens (past ++ (work.handlings moves).map Prod.fst) := by
  induction moves generalizing work past with
  | nil =>
      unfold handlings
      rw [gather, List.map_nil, List.append_nil]
      exact underway
  | cons move rest ih =>
      have stepped := underway.step (List.ne_of_not_mem_cons apart).symm
      have reached := ih stepped.1 (List.not_mem_of_not_mem_cons apart)
      unfold handlings
      rwa [List.append_assoc, ← List.map_append] at reached

/-- As long as no token is sent, only signals are. -/
theorem frames_run (underway : work.Underway tokens past) {moves : List OpeningMove}
    (apart : .call .opening ∉ moves) (ungreeted : work.greetings moves = []) :
    (work.run moves).queued.call.frames = work.queued.call.frames ++ work.signals moves := by
  induction moves generalizing work past with
  | nil => exact (List.append_nil _).symm
  | cons move rest ih =>
      obtain ⟨none, ungreetedLater⟩ := List.append_eq_nil_iff.mp ungreeted
      obtain ⟨still, sent, _⟩ := underway.step (List.ne_of_not_mem_cons apart).symm
      refine (ih still (List.not_mem_of_not_mem_cons apart) ungreetedLater).trans ?_
      rw [sent, none, List.nil_append, signals_cons, List.append_assoc]

/-- Nothing is sent before the opening has begun. -/
theorem unopened_run (underway : work.Underway tokens past) {moves : List OpeningMove}
    (apart : .call .opening ∉ moves) (ahead : (work.run moves).stage = .ahead) :
    work.stage = .ahead ∧ (work.run moves).queued.call.frames = work.queued.call.frames := by
  induction moves generalizing work past with
  | nil => exact ⟨ahead, rfl⟩
  | cons move rest ih =>
      have other := (List.ne_of_not_mem_cons apart).symm
      obtain ⟨still, sent, _⟩ := underway.step other
      obtain ⟨aheadNow, same⟩ := ih still (List.not_mem_of_not_mem_cons apart) ahead
      obtain ⟨aheadBefore, move, rfl⟩ := ahead_of_step aheadNow
      have silent : (work.queued.handling move).filterMap QueuedCall.sentText? = [] := by
        have other : move ≠ .opening := fun opening => other (congrArg OpeningMove.call opening)
        rw [← QueuedCall.texts_of_handling work.queued other]
        exact QueuedCall.texts_of_unopened (underway.unopened aheadBefore) other
      refine ⟨aheadBefore, same.trans (sent.trans ?_)⟩
      simp only [greeting, handling, silent, List.append_nil]

/-- Nothing is sent any more once the socket was closed or the link given up. -/
theorem cutOff_run (underway : work.Underway tokens past) {moves : List OpeningMove}
    (apart : .call .opening ∉ moves) (lost : work.queued.call.cutOff = true) :
    (work.run moves).queued.call.frames = work.queued.call.frames := by
  induction moves generalizing work past with
  | nil => rfl
  | cons move rest ih =>
      obtain ⟨still, _, remains⟩ := underway.step (List.ne_of_not_mem_cons apart).symm
      obtain ⟨lostStill, same⟩ := remains lost
      exact (ih still (List.not_mem_of_not_mem_cons apart) lostStill).trans same

/-- The token that is sent is the one that was to be given, and stands between the signals that
were sent before it and those that are sent after it. -/
theorem frames_greeting (underway : work.Underway tokens past) {earlier later : List OpeningMove}
    {token : String} (apart : .call .opening ∉ earlier ++ .proceed :: later)
    (sent : (work.run earlier).greeting .proceed = [token]) :
    tokens.outcome = .ok token ∧
      (work.run (earlier ++ .proceed :: later)).queued.call.frames =
        work.queued.call.frames ++ work.signals earlier ++
          token :: ((work.run earlier).step .proceed).signals later := by
  have apartEarlier : OpeningMove.call .opening ∉ earlier := fun member =>
    apart (List.mem_append_left _ member)
  have apartLater : OpeningMove.call .opening ∉ later := fun member =>
    apart (List.mem_append_right _ (List.mem_cons_of_mem _ member))
  obtain ⟨before, _, after⟩ := greetings_of_greeting sent later
  have midway := underway.run apartEarlier
  obtain ⟨greeted, greeting, _⟩ := midway.proceed
  refine ⟨?_, ?_⟩
  · have greets : (work.run earlier).greeting .proceed ≠ [] := by
      rw [sent]
      exact List.cons_ne_nil _ _
    obtain ⟨_, told, stage, isTold⟩ := answered_of_greeting greets
    have agrees := midway.agrees
    rw [stage] at agrees
    cases sent.symm.trans isTold
    exact agrees.symm
  · rw [run_append]
    refine (greeted.frames_run apartLater after).trans ?_
    rw [greeting, sent, underway.frames_run apartEarlier before]
    simp only [List.append_assoc, List.cons_append, List.nil_append]

end Underway

end OpeningAtWork

/-- A text goes before others and behind them alike only if it is each of them. -/
private theorem concat_eq_cons_iff {Element : Type} (elements : List Element) (last : Element) :
    elements ++ [last] = last :: elements ↔ ∀ element ∈ elements, element = last := by
  induction elements with
  | nil => exact ⟨fun _ => nofun, fun _ => rfl⟩
  | cons head rest ih =>
      simp only [List.cons_append, List.cons.injEq, List.mem_cons, forall_eq_or_imp]
      constructor
      · rintro ⟨rfl, same⟩
        exact ⟨rfl, ih.mp same⟩
      · rintro ⟨rfl, same⟩
        exact ⟨rfl, ih.mpr same⟩

namespace Call

/-- A call that was just set up has its socket yet to open. -/
theorem Begins.underway {start : Call} (begins : start.Begins) :
    (OpeningAtWork.ahead start).Underway start.platform.tokens [] := by
  obtain ⟨orderly, unopened, _⟩ := begins.orderly
  exact ⟨orderly, fun _ => unopened, rfl⟩

/-- In every run of a call whose socket opens once, in which its items wait for any time and
anything may happen between the steps of the opening, every item is handled at most once and in
the order in which it was raised. The frames are the signals among the items handled while the
link to the relay was held, the socket open and sending did not fail; a token that was fetched
and sent stands between those that were handled before it was sent and those after. So the
token comes first, and the frames are the token and then the signals, exactly if nothing but
the token itself was sent before it was. Nothing is sent before the opening has begun, nor
after the socket was closed or the link given up. -/
theorem Begins.frames_around_token {start : Call} (begins : start.Begins)
    {moves : List OpeningMove} (once : .call .opening ∉ moves) :
    let idle := OpeningAtWork.ahead start
    let reached := (idle.run moves).queued
    (idle.handlings moves).map Prod.fst ++ reached.waiting = reached.call.platform.dispatched ∧
      (idle.greetings moves = [] → reached.call.frames = idle.signals moves) ∧
      (∀ earlier later token, moves = earlier ++ .proceed :: later →
        (idle.run earlier).greeting .proceed = [token] →
        start.platform.tokens.outcome = .ok token ∧ idle.greetings moves = [token] ∧
          reached.call.frames = idle.signals earlier ++
            token :: ((idle.run earlier).step .proceed).signals later) ∧
      (reached.call.frames = idle.greetings moves ++ idle.signals moves ↔
        ∀ earlier later token, moves = earlier ++ .proceed :: later →
          (idle.run earlier).greeting .proceed = [token] →
          ∀ text ∈ idle.signals earlier, text = token) ∧
      (∀ earlier, earlier <+: moves → (idle.run earlier).stage = .ahead →
        (idle.run earlier).queued.call.frames = []) ∧
      ∀ earlier later, moves = earlier ++ later →
        (idle.run earlier).queued.call.cutOff = true →
        reached.call.frames = (idle.run earlier).queued.call.frames := by
  intro idle reached
  have underway := begins.underway
  have silent : idle.queued.call.frames = [] := begins.orderly.2.2
  have ungreeted (none : idle.greetings moves = []) :
      reached.call.frames = idle.signals moves := by
    rw [underway.frames_run once none, silent, List.nil_append]
  have around (earlier later : List OpeningMove) (token : String)
      (split : moves = earlier ++ .proceed :: later)
      (sent : (idle.run earlier).greeting .proceed = [token]) :
      start.platform.tokens.outcome = .ok token ∧ idle.greetings moves = [token] ∧
        reached.call.frames = idle.signals earlier ++
          token :: ((idle.run earlier).step .proceed).signals later := by
    subst split
    obtain ⟨fetched, frames⟩ := underway.frames_greeting once sent
    rw [silent, List.nil_append] at frames
    exact ⟨fetched, (OpeningAtWork.greetings_of_greeting sent later).2.1, frames⟩
  -- The token comes first if it is the same to put it before and behind what was sent earlier.
  have first (earlier later : List OpeningMove) (token : String)
      (split : moves = earlier ++ .proceed :: later)
      (sent : (idle.run earlier).greeting .proceed = [token]) :
      reached.call.frames = idle.greetings moves ++ idle.signals moves ↔
        ∀ text ∈ idle.signals earlier, text = token := by
    obtain ⟨_, only, frames⟩ := around earlier later token split sent
    let since := ((idle.run earlier).step .proceed).signals later
    have cancel : (idle.signals earlier ++ [token]) ++ since =
        (token :: idle.signals earlier) ++ since ↔
          idle.signals earlier ++ [token] = token :: idle.signals earlier :=
      List.append_left_inj since
    rw [frames, only, split, idle.signals_proceed, ← concat_eq_cons_iff, ← cancel,
      List.append_assoc]
    rfl
  refine ⟨(underway.run once).orderly.ordered, ungreeted, around, ⟨?_, ?_⟩, ?_, ?_⟩
  · exact fun same earlier later token split sent => (first earlier later token split sent).mp same
  · intro alike
    by_cases none : idle.greetings moves = []
    · rw [none, List.nil_append]
      exact ungreeted none
    · obtain ⟨earlier, later, token, split, sent⟩ := OpeningAtWork.exists_greeting none
      exact (first earlier later token split sent).mpr (alike earlier later token split sent)
  · rintro earlier ⟨later, rfl⟩ ahead
    have apart : OpeningMove.call .opening ∉ earlier := fun member =>
      once (List.mem_append_left _ member)
    exact (underway.unopened_run apart ahead).2.trans silent
  · rintro earlier later rfl lost
    have apartEarlier : OpeningMove.call .opening ∉ earlier := fun member =>
      once (List.mem_append_left _ member)
    have apartLater : OpeningMove.call .opening ∉ later := fun member =>
      once (List.mem_append_right _ member)
    have midway := underway.run apartEarlier
    have whole := OpeningAtWork.run_append idle earlier later
    exact (congrArg (fun work : OpeningAtWork => work.queued.call.frames) whole).trans
      (midway.cutOff_run apartLater lost)

/-- A peer connection found a path. -/
def found (path : String) : OpeningMove :=
  .call (.event (.connection 0 (.iceCandidate (some (.make "0" 0 path)))))

/-- A candidate is found and handled before the socket opens, the opening goes on undisturbed
until it is over, and of two more candidates one is handled before the relay closes the
socket. -/
def undisturbed : List OpeningMove :=
  [found "first", .call .handle, .proceed, .proceed, .proceed, .proceed, found "second",
    found "third", .call .handle, .call (.event (.socket 0 (.closed (some 1000) "bye"))),
    .call .handle, .call .handle]

/-- Of three candidates only the second follows the token: the first is handled too early and
the third too late. -/
theorem frames_around_token_justBegun :
    justBegun.Begins ∧ .call .opening ∉ undisturbed ∧
      ((OpeningAtWork.ahead justBegun).run undisturbed).queued.call.frames =
        ["token", (Signal.candidate (.make "0" 0 "second")).toText] := by
  have once : .call .opening ∉ undisturbed := by
    simp [undisturbed, found, QueueMove.opening]
  refine ⟨begins_justBegun, once, ?_⟩
  have split : undisturbed = [found "first", .call .handle, .proceed, .proceed, .proceed] ++
      .proceed :: undisturbed.drop 6 := rfl
  obtain ⟨_, _, frames⟩ :=
    (begins_justBegun.frames_around_token once).2.2.1 _ _ "token" split rfl
  rw [frames]
  rfl

/-- A candidate is found, and the call handles it while the link asks for the token. -/
def overtaken : List OpeningMove :=
  [found "first", .proceed, .proceed, .call .handle, .proceed, .proceed]

/-- A token may be fetched and sent, and still be the second frame: the candidate that was
handled in the meantime comes first. -/
theorem token_overtaken_justBegun :
    justBegun.Begins ∧ .call .opening ∉ overtaken ∧
      (OpeningAtWork.ahead justBegun).greetings overtaken = ["token"] ∧
      ((OpeningAtWork.ahead justBegun).run overtaken).queued.call.frames =
        [(Signal.candidate (.make "0" 0 "first")).toText, "token"] ∧
      ((OpeningAtWork.ahead justBegun).run overtaken).queued.call.frames ≠
        (OpeningAtWork.ahead justBegun).greetings overtaken ++
          (OpeningAtWork.ahead justBegun).signals overtaken := by
  have once : .call .opening ∉ overtaken := by
    simp [overtaken, found, QueueMove.opening]
  have greetings : (OpeningAtWork.ahead justBegun).greetings overtaken = ["token"] := rfl
  have frames : ((OpeningAtWork.ahead justBegun).run overtaken).queued.call.frames =
      [(Signal.candidate (.make "0" 0 "first")).toText, "token"] := rfl
  have signals : (OpeningAtWork.ahead justBegun).signals overtaken =
      [(Signal.candidate (.make "0" 0 "first")).toText] := rfl
  refine ⟨begins_justBegun, once, greetings, frames, ?_⟩
  rw [frames, greetings, signals]
  intro same
  have text : (Signal.candidate (.make "0" 0 "first")).toText = "token" := (List.cons.inj same).1
  revert text
  decide +kernel

end Call

end CallControl
