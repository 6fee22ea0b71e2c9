import CallControl.Bench.Item

/-! # What was added to a platform

Between two states of a platform its records only grow. The growth of a step is what
was sent on the last socket, what was added to the last peer connection, what was
sent on each channel, and what was written down. The records of an object made
meanwhile count from their beginning.
-/

namespace CallControl.Bench

/-- What was added to a platform. -/
structure Growth where
  frames : List String
  candidates : List String
  tracks : List String
  offerOptions : List OfferOptions
  /-- The texts sent on channels, each with the name of its channel. -/
  sent : List (String × String)
  notes : List String
  deriving Repr

/-- The records of the last object that were added to those of the object before, if
it is the same one. -/
def addedToLast {Object Record : Type} (records : Object → List Record)
    (before after : List Object) : List Record :=
  match after.getLast? with
  | none => []
  | some last =>
      let known :=
        if before.length = after.length then
          (before.getLast?.elim 0 fun earlier => (records earlier).length)
        else 0
      (records last).drop known

/-- What was sent on the channels of an origin. -/
def sentOn (origin : ChannelOrigin) (before after : Platform) : List (String × String) :=
  (List.range after.channels.length).flatMap fun id =>
    match after.channels[id]? with
    | none => []
    | some channel =>
        if channel.origin = origin then
          let known := (before.channels[id]?.elim 0 fun earlier => earlier.sent.length)
          (channel.sent.drop known).map fun text => (after.channelName id, text)
        else []

/-- What was added between two states of a platform. -/
def Growth.between (before after : Platform) : Growth where
  frames := addedToLast RelaySocket.sent before.sockets after.sockets
  candidates :=
    (addedToLast PeerConnection.acceptedCandidates before.connections after.connections).map
      fun candidate => candidate.value.toText
  tracks :=
    (addedToLast PeerConnection.addedTracks before.connections after.connections).map
      MediaTrack.describe
  offerOptions := addedToLast PeerConnection.offerOptions before.connections after.connections
  sent := sentOn .announced before after ++ sentOn .own before after
  notes := (after.journal.drop before.journal.length).map Note.text

end CallControl.Bench
