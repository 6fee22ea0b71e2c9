import CallControl.Bench.Item

/-! # Steps of a bench

What a bench can be told to do. Steps name channels, and carry JSON texts and the
names of states and events as they were given: reading them is part of a step.
-/

namespace CallControl.Bench

/-- A step on the socket made last. -/
inductive SocketStep where
  | event (event : SocketEvent)
  | failSend (on : Bool)
  | send (text : String)
  | detach
  | close
  deriving Repr

/-- A step on the peer connection made last. -/
inductive ConnectionStep where
  | negotiationNeeded
  | iceCandidate (json : Option String)
  | track (track : MediaTrack)
  | iceState (name : String)
  | announceChannel (name : String)
  | refuseRemote (on : Bool)
  | refuseTracks (on : Bool)
  | refuseCandidates (on : Bool)
  | createOffer (options : OfferOptions)
  | createAnswer
  | setLocal (json : String)
  | setRemote (json : String)
  | hasRemote
  | addCandidate (json : String)
  | addTrack (track : MediaTrack)
  | createChannel (label : String)
  | listen (kind : ConnectionEventKind)
  | unlisten (id : Nat)
  | close
  deriving Repr

/-- A step on a channel. -/
inductive ChannelStep where
  | opened
  | message (text : String)
  | close
  | failSend (on : Bool)
  | send (text : String)
  | listen
  | unlisten (id : Nat)
  deriving Repr

/-- A step on the platform. -/
inductive PlatformStep where
  | refuseSockets (on : Bool)
  | connectSocket (url : String)
  /-- An event of the socket that heeds nothing. -/
  | leak (event : SocketEvent)
  | refuseConnections (on : Bool)
  /-- The dispatcher breaks off at the next item. -/
  | trap (on : Bool)
  | createConnection (json : String)
  | createChannel (label : String)
  | addLocalTrack (track : MediaTrack)
  | enableLocal (kind : MediaKind) (on : Bool)
  | enableRemote (kind : MediaKind) (on : Bool)
  | enableTrack (remote : Bool) (id : String) (on : Bool)
  deriving Repr

/-- A step on the subject. -/
inductive SubjectStep where
  | initialise
  | process (spec : ItemSpec)
  | sendEvent (name : String)
  | sendState (on : Bool)
  | cleanUp
  | drop
  | route (spec : ItemSpec)
  | pump
  | endCall
  | connectTimeout
  | setMic (on : Bool)
  | setVideo (on : Bool)
  | hangUp
  | synchronize
  | wait (milliseconds : Nat)
  deriving Repr

/-- A step of a bench. -/
inductive Step where
  | socket (step : SocketStep)
  | connection (step : ConnectionStep)
  | channel (name : String) (step : ChannelStep)
  | platform (step : PlatformStep)
  | subject (step : SubjectStep)
  | unknown
  deriving Repr

/-- What a step answers. -/
inductive Answer where
  | nothing
  | text (text : String)
  | texts (texts : List String)
  | truth (value : Bool)
  | number (value : Nat)
  /-- The kind and the flag of a track. -/
  | track (kind : MediaKind) (enabled : Bool)
  /-- How many items were routed, and the items raised meanwhile. -/
  | routed (count : Nat) (items : List ShownItem)
  | failure (failure : Failure)
  deriving Repr

/-- The answer to a request that succeeds with nothing or fails. -/
def Answer.ofUnit : Except Failure Unit → Answer
  | .ok () => .nothing
  | .error reason => .failure reason

end CallControl.Bench
