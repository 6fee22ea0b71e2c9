import CallControl.Bench.Growth
import CallControl.Bench.PlatformSteps
import CallControl.Bench.Reading

/-! # Running a bench

A bench sets a subject up and takes it through steps. Each step answers and reports
what it caused: the items raised, what was added to the platform, and the gauges that
changed. The items that a call raises wait at the bench until it is told to route
them (`SubjectStep.pump`); the items of a session wait in its own queue, which does
all its work after each step.
-/

namespace CallControl.Bench

/-- The kinds of subject. -/
inductive Mode where
  | nothing
  | relay
  | peer
  | call
  | session
  deriving Repr, DecidableEq

/-- How a bench is set up. -/
structure Setup where
  mode : Mode
  line : String
  configText : String
  tracks : List MediaTrack
  tokens : List TokenAnswer
  iceText : String
  failsIceConfig : Bool
  failsToConnect : Bool
  failsToCreate : Bool
  /-- A call is set up without a peer connection. -/
  withoutInit : Bool
  /-- Nobody observes a call; the call of a session is always observed. -/
  silent : Bool
  /-- The relay's socket heeds nothing. -/
  leaky : Bool
  startWait : Nat
  deriving Repr

/-- A bench at work: its subject, the items that wait to be routed, and its last
reading. -/
structure Trial where
  subject : Subject
  waiting : List WorkItem
  reading : Reading

/-- What a step answered and caused. -/
structure Report where
  answer : Answer
  items : List ShownItem
  growth : Growth
  changes : Reading
  deriving Repr

/-- Routes the items that wait and those raised meanwhile, at most so many, up to one
that breaks off; with how many were routed and what was raised. -/
def pump : Nat → Call → List WorkItem → Nat → List WorkItem →
    Call × List WorkItem × Nat × List WorkItem
  | fuel + 1, call, item :: rest, count, raised =>
      let routed := call.route item
      let fresh := call.raisedSince routed
      if routed.platform.crashed then (routed, rest ++ fresh, count + 1, raised ++ fresh)
      else pump fuel routed (rest ++ fresh) (count + 1) (raised ++ fresh)
  | _, call, waiting, count, raised => (call, waiting, count, raised)

/-- What an item of a description does to a subject, once it is built. -/
def withItem (subject : Subject) (spec : ItemSpec)
    (apply : WorkItem → Answer × Subject) : Answer × Subject :=
  match spec.build subject.platform with
  | .error failure => (.failure failure, subject)
  | .ok item => apply item

/-- A change of a call or a session; other subjects have no call. -/
def onCall (subject : Subject) (update : Call → Call) (task : CallTask) : Answer × Subject :=
  match subject with
  | .call held => (.nothing, .call (update held))
  | .session held => (.nothing, .session (held.enqueue task))
  | other => (.nothing, other)

/-- A step on the subject; a subject without the part concerned does nothing, and one
that is not a call has nothing to pump. -/
def onSubject (subject : Subject) : SubjectStep → Answer × Subject
  | .initialise =>
      match subject with
      | .peer parts =>
          let (result, initialised) := parts.initPeer
          (.ofUnit result, .peer initialised)
      | other => (.nothing, other)
  | .process spec => withItem subject spec fun item =>
      match subject, item with
      | .relay parts, .signal signal => (.nothing, .relay (parts.sendSignal signal))
      | .peer parts, .peer item =>
          let (result, processed) := parts.processItem item
          (.ofUnit result, .peer processed)
      | other, _ => (.nothing, other)
  | .sendEvent name =>
      match ToggleEvent.ofName? name with
      | none => (.failure .unknownName, subject)
      | some event =>
          match subject with
          | .peer parts => (.nothing, .peer (parts.sendEvent event))
          | other => (.nothing, other)
  | .sendState on =>
      match subject with
      | .peer parts => (.nothing, .peer (parts.sendState on))
      | other => (.nothing, other)
  | .cleanUp =>
      match subject with
      | .relay parts => (.nothing, .relay parts.cleanUpRelay)
      | .peer parts => (.nothing, .peer parts.cleanUpPeer)
      | other => (.nothing, other)
  | .drop => (.nothing, subject.drop)
  | .route spec => withItem subject spec fun item =>
      match subject with
      | .call held => (.nothing, .call (held.route item))
      | other => (.nothing, other)
  | .pump => (.routed 0 [], subject)
  | .endCall =>
      match subject with
      | .call held => (.nothing, .call held.endCall)
      | other => (.nothing, other)
  | .connectTimeout =>
      match subject with
      | .call held => (.nothing, .call held.connectTimeout)
      | other => (.nothing, other)
  | .setMic on => onCall subject (·.setMic on) (.setMic on)
  | .setVideo on => onCall subject (·.setVideo on) (.setVideo on)
  | .hangUp =>
      match subject with
      | .session held => (.nothing, .session held.hangUp)
      | other => (.nothing, other)
  | .synchronize =>
      match subject with
      | .session held =>
          let (result, synchronized) := held.synchronize
          (.ofUnit result, .session synchronized)
      | other => (.nothing, other)
  | .wait milliseconds =>
      match subject with
      | .session held => (.nothing, .session (held.elapse milliseconds))
      | other => (.nothing, other)

/-- A step, with nothing to pump. -/
def runStep (subject : Subject) : Step → Answer × Subject
  | .socket step => onLastSocket subject step
  | .connection step => onLastConnection subject step
  | .channel name step => onChannel subject name step
  | .platform step => onPlatform subject step
  | .subject step => onSubject subject step
  | .unknown => (.failure (complaint "no such step"), subject)

/-- The items raised in a step as they are shown: those of a session are not, since
its own queue takes them. -/
def raisedItems (before after : Subject) : List WorkItem :=
  match after with
  | .session _ => []
  | _ => after.platform.dispatched.drop before.platform.dispatched.length

/-- Something broke off. -/
def crashed (subject : Subject) : Bool := subject.platform.crashed

/-- The subject with a break reported. -/
def reported (subject : Subject) : Subject :=
  subject.changePlatform fun platform => { platform with crashed := false }

namespace Trial

/-- The report of a step and the trial after it. -/
def conclude (trial : Trial) (answer : Answer) (subject : Subject)
    (items waiting : List WorkItem) : Report × Trial :=
  let broken := crashed subject
  let settled := (if broken then reported subject else subject).settle
  let platform := settled.platform
  let reading := Reading.ofBench settled
  ({ answer := if broken then .failure .crashed else answer
     items := items.map (showItem platform.channelName)
     growth := .between trial.subject.platform platform
     changes := trial.reading.changes reading },
    { subject := settled, waiting, reading })

/-- One step. -/
def step (trial : Trial) (step : Step) : Report × Trial :=
  match step, trial.subject with
  | .subject .pump, .call held =>
      let (routed, waiting, count, raised) :=
        pump (2 * trial.waiting.length + 1) held trial.waiting 0 []
      trial.conclude (.routed count (raised.map (showItem routed.platform.channelName)))
        (.call routed) [] waiting
  | _, _ =>
      let (answer, subject) := runStep trial.subject step
      let items := raisedItems trial.subject subject
      trial.conclude answer subject items (trial.waiting ++ items)

/-- The reports of some steps. -/
def run (trial : Trial) : List Step → List Report
  | [] => []
  | first :: rest =>
      let (report, next) := trial.step first
      report :: next.run rest

end Trial

namespace Setup

/-- The platform of a setup. -/
def platform (setup : Setup) (configuration : IceConfiguration) : Platform :=
  { Platform.make ⟨"local", setup.tracks⟩ (.ofAnswers setup.tokens)
      (if setup.failsIceConfig then .error (.injected .iceConfig) else .ok configuration) with
    refusesSockets := setup.failsToConnect
    refusesConnections := setup.failsToCreate }

/-- The subject of a setup with the answer to its start, and whether it started. -/
def start (setup : Setup) (config : Config) (platform : Platform) : Answer × Subject × Bool :=
  match setup.mode with
  | .nothing => (.nothing, .nothing (.onPlatform platform), true)
  | .relay =>
      match Parts.setUp platform config setup.line setup.leaky false with
      | (.ok parts, _) => (.nothing, .relay parts, true)
      | (.error failure, parts) => (.failure failure, .nothing parts, false)
  | .peer =>
      (.nothing, .peer ⟨platform, .unconnected, .make config.dataChannelLabel⟩, true)
  | .call =>
      match Parts.setUp platform config setup.line setup.leaky (!setup.withoutInit) with
      | (.ok parts, _) => (.nothing, .call (.ofParts parts setup.line setup.silent), true)
      | (.error failure, parts) => (.failure failure, .nothing parts, false)
  | .session =>
      match Session.start platform config setup.line with
      | .running session => (.text setup.line, .session (session.elapse setup.startWait), true)
      | .failed failure parts => (.failure failure, .nothing parts, false)

/-- The reports of a setup and, if it succeeded, of some steps; or why the setup is
rejected. -/
def run (setup : Setup) (steps : List Step) : Except Failure (List Report) :=
  match Config.ofText setup.configText with
  | .error failure => .error failure
  | .ok config =>
      match IceConfiguration.parse? setup.iceText with
      | none => .error .malformedJson
      | some configuration =>
          let platform := setup.platform configuration
          let (answer, subject, started) := setup.start config platform
          let empty : Trial := ⟨.nothing (.onPlatform platform), [], []⟩
          let items := raisedItems empty.subject subject
          let (report, trial) := empty.conclude answer subject items items
          .ok (report :: if started then trial.run steps else [])

end Setup

end CallControl.Bench
