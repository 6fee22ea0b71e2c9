import CallControl.Session

/-! # What a bench holds

A bench drives one subject on a simulated platform: nothing but the platform, a link
to the relay, a link to the peer, a call without a queue, or a session. Things happen
on the platform whatever the subject is.
-/

namespace CallControl.Bench

/-- What a bench holds. -/
inductive Subject where
  | nothing (parts : Parts)
  | relay (parts : Parts)
  | peer (parts : Parts)
  | call (call : Call)
  | session (session : Session)

namespace Subject

/-- The links and the platform of a subject. -/
def parts : Subject → Parts
  | .nothing parts => parts
  | .relay parts => parts
  | .peer parts => parts
  | .call held => held.toParts
  | .session held => held.call.toParts

/-- A subject after a change of its parts from outside. -/
def change (subject : Subject) (update : Parts → Parts) : Subject :=
  match subject with
  | .nothing parts => .nothing (update parts)
  | .relay parts => .relay (update parts)
  | .peer parts => .peer (update parts)
  | .call held => .call { held with toParts := update held.toParts }
  | .session held => .session (held.occur update)

/-- A subject after a change of its platform from outside. -/
def changePlatform (subject : Subject) (update : Platform → Platform) : Subject :=
  subject.change fun parts => { parts with platform := update parts.platform }

/-- The platform of a subject. -/
def platform (subject : Subject) : Platform := subject.parts.platform

/-- A subject with everything in its queue handled. -/
def settle : Subject → Subject
  | .session held => .session held.settle
  | other => other

/-- The remote stream of a subject that has a link to the peer. -/
def remoteStream? : Subject → Option MediaStream
  | .nothing _ | .relay _ => none
  | .peer parts => some parts.peer.remoteStream
  | .call held => some held.peer.remoteStream
  | .session held => if held.running then some held.call.peer.remoteStream else none

/-- A subject that was let go of. -/
def drop : Subject → Subject
  | .nothing parts => .nothing parts
  | .relay parts => .nothing parts.cleanUpRelay
  | .peer parts => .nothing parts.cleanUpPeer
  | .call held => .nothing held.release
  | .session held => .nothing held.hangUp.call.toParts

end Subject

end CallControl.Bench
