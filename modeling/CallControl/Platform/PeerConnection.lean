import CallControl.Failure
import CallControl.IceConfiguration
import CallControl.Platform.Event

/-! # Peer connections

A simulated peer connection records every request made of it: the offers and answers
it created, its descriptions, the candidates handed to it with what became of them,
and its tracks. It can be told to refuse remote descriptions, candidates and tracks.
-/

namespace CallControl

/-- Who listens to a peer connection. -/
inductive ConnectionAudience where
  /-- The link that negotiates over it. -/
  | link
  /-- Somebody who writes everything down. -/
  | note
  deriving Repr, DecidableEq

/-- A listener for one kind of report. -/
structure ConnectionListener where
  id : Nat
  kind : ConnectionEventKind
  audience : ConnectionAudience
  deriving Repr, DecidableEq

/-- What an offer is to contain. -/
structure OfferOptions where
  receiveAudio : Bool
  receiveVideo : Bool
  voiceActivityDetection : Bool
  deriving Repr, DecidableEq

/-- The options of an offer that asks for everything. -/
def OfferOptions.standard : OfferOptions := ⟨true, true, true⟩

/-- A candidate handed to a peer connection and whether it was taken. -/
structure CandidateRequest where
  candidate : IceCandidate
  accepted : Bool
  deriving Repr

/-- A peer connection. -/
structure PeerConnection where
  configuration : IceConfiguration
  listeners : List ConnectionListener
  nextListener : Nat
  localDescription : Option SessionDescription
  remoteDescription : Option SessionDescription
  iceState : IceState
  /-- The options of the offers created, oldest first. -/
  offerOptions : List OfferOptions
  answersCreated : Nat
  /-- The candidates handed over, oldest first. -/
  candidateRequests : List CandidateRequest
  addedTracks : List MediaTrack
  closed : Bool
  refusesRemote : Bool
  refusesTracks : Bool
  refusesCandidates : Bool
  deriving Repr

namespace PeerConnection

/-- A new peer connection. -/
def make (configuration : IceConfiguration) : PeerConnection where
  configuration
  listeners := []
  nextListener := 1
  localDescription := none
  remoteDescription := none
  iceState := .new
  offerOptions := []
  answersCreated := 0
  candidateRequests := []
  addedTracks := []
  closed := false
  refusesRemote := false
  refusesTracks := false
  refusesCandidates := false

/-- The number of offers created. -/
def offersCreated (connection : PeerConnection) : Nat := connection.offerOptions.length

/-- The candidates that were taken, oldest first. -/
def acceptedCandidates (connection : PeerConnection) : List IceCandidate :=
  (connection.candidateRequests.filter CandidateRequest.accepted).map CandidateRequest.candidate

/-- The candidates that were refused, oldest first. -/
def rejectedCandidates (connection : PeerConnection) : List IceCandidate :=
  (connection.candidateRequests.filter fun request => !request.accepted).map
    CandidateRequest.candidate

/-- A peer connection with a listener more; its id is the connection's next one. -/
def addListener (connection : PeerConnection) (kind : ConnectionEventKind)
    (audience : ConnectionAudience) : PeerConnection :=
  { connection with
    listeners := connection.listeners ++ [⟨connection.nextListener, kind, audience⟩]
    nextListener := connection.nextListener + 1 }

/-- A listener with an id is attached. -/
def hasListener (connection : PeerConnection) (id : Nat) : Bool :=
  connection.listeners.any fun listener => listener.id == id

/-- A peer connection without the listener of an id. -/
def removeListener (connection : PeerConnection) (id : Nat) : PeerConnection :=
  { connection with listeners := connection.listeners.filter fun listener => listener.id != id }

/-- Those who listen for a kind of report, in the order of registration. -/
def audience (connection : PeerConnection) (kind : ConnectionEventKind) :
    List ConnectionAudience :=
  (connection.listeners.filter fun listener => listener.kind == kind).map
    ConnectionListener.audience

/-- The body of the description with a number. -/
def descriptionBody (number : Nat) : String :=
  "v=0\r\no=sim " ++ String.ofList (Text.decimal number) ++ " 2 IN IP4 127.0.0.1\r\n"

/-- Creating an offer, which a closed peer connection refuses. -/
def createOffer (connection : PeerConnection) (options : OfferOptions) :
    Except Failure (SessionDescription × PeerConnection) :=
  if connection.closed then .error (.call (.createSessionDescription "closed"))
  else
    let created := { connection with offerOptions := connection.offerOptions ++ [options] }
    .ok (.make "offer" (descriptionBody created.offersCreated), created)

/-- Creating an answer, for which there must be a remote description. -/
def createAnswer (connection : PeerConnection) :
    Except Failure (SessionDescription × PeerConnection) :=
  if connection.remoteDescription.isNone then
    .error (.call (.createSessionDescription "no remote description"))
  else
    let created := { connection with answersCreated := connection.answersCreated + 1 }
    .ok (.make "answer" (descriptionBody created.answersCreated), created)

/-- Setting the local description. -/
def setLocal (connection : PeerConnection) (description : SessionDescription) : PeerConnection :=
  { connection with localDescription := some description }

/-- Setting the remote description. -/
def setRemote (connection : PeerConnection) (description : SessionDescription) :
    Except Failure PeerConnection :=
  if connection.refusesRemote then .error (.injected .setRemoteDescription)
  else .ok { connection with remoteDescription := some description }

/-- Why a candidate would be refused now. -/
def candidateRefusal? (connection : PeerConnection) : Option Failure :=
  if connection.refusesCandidates then some (.injected .addIceCandidate)
  else if connection.remoteDescription.isNone then
    some (.call (.addIceCandidate "no remote description"))
  else none

/-- A peer connection after a candidate was handed to it, taken or not. -/
def addCandidate (connection : PeerConnection) (candidate : IceCandidate) : PeerConnection :=
  { connection with
    candidateRequests :=
      connection.candidateRequests ++ [⟨candidate, connection.candidateRefusal?.isNone⟩] }

/-- Adding a track. -/
def addTrack (connection : PeerConnection) (track : MediaTrack) : Except Failure PeerConnection :=
  if connection.refusesTracks then .error (.injected .addTrack)
  else .ok { connection with addedTracks := connection.addedTracks ++ [track] }

/-- A peer connection with those of some tracks added that it takes. -/
def addTracks (connection : PeerConnection) (tracks : List MediaTrack) : PeerConnection :=
  tracks.foldl
    (fun current track =>
      match current.addTrack track with
      | .ok extended => extended
      | .error _ => current)
    connection

/-- A closed peer connection; closing reports nothing. -/
def close (connection : PeerConnection) : PeerConnection :=
  { connection with closed := true, iceState := .closed }

end PeerConnection

end CallControl
