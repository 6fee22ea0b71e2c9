/-! # Failures

Why an operation did not succeed. A call's own errors name their cause
(`CallError`), a simulated platform names the fault it was told to show
(`InjectedFault`), and the remaining causes belong to readers and to providers
outside the library. Each cause has one text (`Failure.message?`).
-/

namespace CallControl

/-- The errors of a call and its parts. -/
inductive CallError where
  | mutexPoisoned (label : String)
  | actorStart (name : String)
  | invalidConfig (reason : String)
  | queueStopped (name : String)
  | notInitialized (context : String)
  | createPeerConnection (reason : String)
  | createDataChannel (reason : String)
  | createSessionDescription (reason : String)
  | addIceCandidate (reason : String)
  | dataChannelSend
  | dataChannelProtocol (reason : String)
  | socketClosed
  | socketConnect (reason : String)
  | signallingProtocol (reason : String)
  | tokenFetch (reason : String)
  | httpRequestFailed (url : String)
  | iceConfigStatus (code : UInt16)
  deriving Repr, DecidableEq

/-- The text of an error. -/
def CallError.message : CallError → String
  | .mutexPoisoned label => "Mutex poisoned: " ++ label
  | .actorStart name => "Couldn't start actor: " ++ name
  | .invalidConfig reason => "Invalid configuration: " ++ reason
  | .queueStopped name => "Work queue stopped: " ++ name
  | .notInitialized context => "Peer connection is not initialized, in: " ++ context
  | .createPeerConnection reason => "Unable to create peer connection: " ++ reason
  | .createDataChannel reason => "Unable to create data channel: " ++ reason
  | .createSessionDescription reason => "CreateSessionDescription failure: " ++ reason
  | .addIceCandidate reason => "AddIceCandidate failure: " ++ reason
  | .dataChannelSend => "Unable to send data channel message"
  | .dataChannelProtocol reason => "Data channel protocol error: " ++ reason
  | .socketClosed => "Signalling socket is closed"
  | .socketConnect reason => "Unable to connect signalling socket: " ++ reason
  | .signallingProtocol reason => "Signalling protocol error: " ++ reason
  | .tokenFetch reason => "Unable to fetch auth token: " ++ reason
  | .httpRequestFailed url => "HTTP request failed: " ++ url
  | .iceConfigStatus code =>
      "ICE config request received unexpected response status code " ++ toString code.toNat

/-- The faults that a simulated platform can be told to show. -/
inductive InjectedFault where
  | createPeerConnection
  | setRemoteDescription
  | addIceCandidate
  | addTrack
  | socketConnect
  | socketSend
  | tokenFetch
  | iceConfig
  deriving Repr, DecidableEq

/-- What a fault did not achieve. -/
def InjectedFault.subject : InjectedFault → String
  | .createPeerConnection => "Create peer connection"
  | .setRemoteDescription => "Set remote description"
  | .addIceCandidate => "Add ICE candidate"
  | .addTrack => "Add track"
  | .socketConnect => "Socket connect"
  | .socketSend => "Socket send"
  | .tokenFetch => "Token fetch"
  | .iceConfig => "ICE config fetch"

/-- The text of a fault. -/
def InjectedFault.message (fault : InjectedFault) : String :=
  "Simulation: Intentional: " ++ fault.subject ++ " failed"

/-- Why an operation did not succeed. -/
inductive Failure where
  | call (error : CallError)
  | injected (fault : InjectedFault)
  /-- A JSON text was rejected. -/
  | malformedJson
  /-- The body of an ICE configuration was rejected. -/
  | malformedIceConfig
  /-- A name stands for none of the values it should name. -/
  | unknownName
  /-- A cause outside the library, with what led to it, outermost first. -/
  | described (causes : List String)
  /-- The operation broke off. -/
  | crashed
  deriving Repr, DecidableEq

/-- The text of a failure, if it has one. -/
def Failure.message? : Failure → Option String
  | .call error => some error.message
  | .injected fault => some fault.message
  | .malformedJson => none
  | .malformedIceConfig => some "invalid ICE config body"
  | .unknownName => some "Matching variant not found"
  | .described causes => some (": ".intercalate causes)
  | .crashed => none

/-- The text of a failure inside the text of another one. -/
def Failure.summary (failure : Failure) : String :=
  failure.message?.getD ""

end CallControl
