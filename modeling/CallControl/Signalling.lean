import CallControl.Config
import CallControl.Parts
import CallControl.RelayFrame

/-! # Signalling over the relay

The link to the relay sends the token when its socket opens and signals when it is
asked to, and raises an item for each frame that concerns the call and for the
closing of the socket. Cleaning up mutes the link first, so nothing is raised from
then on, and closes the socket without hearing of it.
-/

namespace CallControl.Parts

/-- Raises an item from the relay's side, unless the link is muted. -/
def raiseFromRelay (parts : Parts) (item : WorkItem) : Parts :=
  if parts.relay.muted then parts
  else { parts with platform := parts.platform.dispatch item }

/-- Sends a text on a socket; a refusal changes nothing. -/
def sendOnSocket (parts : Parts) (socket : HeldSocket) (text : String) : Parts :=
  match socket with
  | .simulated id =>
      parts.modifySocket id fun held =>
        match held.send text with
        | .ok sent => sent
        | .error _ => held
  | _ => parts

/-- The token that the link asks for, or why there is none. -/
def fetchToken (parts : Parts) : Except Failure String × Parts :=
  let (outcome, tokens) := parts.platform.tokens.fetch
  (outcome, { parts with platform := { parts.platform with tokens } })

/-- What the link does with the token it asked for: it is sent. Without a token the socket
stays open all the same. -/
def greet (parts : Parts) (socket : HeldSocket) : Except Failure String → Parts
  | .ok token => parts.sendOnSocket socket token
  | .error .crashed => { parts with platform := { parts.platform with crashed := true } }
  | .error _ => parts

/-- The link after its socket opened, if nothing else happens until the token is sent. -/
def relayOpened (parts : Parts) (socket : HeldSocket) : Parts :=
  let (outcome, asked) := parts.fetchToken
  asked.greet socket outcome

/-- The link after a frame was delivered: every frame counts, and those that ask for
an item raise it. -/
def relayDelivered (parts : Parts) (text : String) : Parts :=
  let counted := { parts with
    relay := { parts.relay with received := parts.relay.received + 1 } }
  match RelayFrame.decode? text with
  | some item => counted.raiseFromRelay (.peer item)
  | none => counted

/-- The link after an event of its socket. -/
def relayHeard (parts : Parts) (socket : HeldSocket) : SocketEvent → Parts
  | .opened => parts.relayOpened socket
  | .message text => parts.relayDelivered text
  | .closed _ _ => parts.raiseFromRelay (.coordinator .closedSignaller)
  | .error _ => parts

/-- Sends a signal over the relay, if the link still holds its socket. -/
def sendSignal (parts : Parts) (signal : Signal) : Parts :=
  parts.sendOnSocket parts.relay.socket signal.toText

/-- The link muted and its socket detached, closed and let go of. -/
def cleanUpRelay (parts : Parts) : Parts :=
  let muted := { parts with relay := { parts.relay with socket := .absent, muted := true } }
  match parts.relay.socket with
  | .simulated id =>
      muted.modifySocket id fun socket =>
        let detached := socket.detach
        if detached.closed then detached else detached.shut
  | _ => muted

/-- A link over a socket that heeds nothing. -/
def connectUnheeding (parts : Parts) : Parts :=
  { parts with
    platform := { parts.platform with hasUnheeding := true }
    relay := ⟨.unheeding, false, 0⟩ }

/-- A link over a new socket to a line's address, or why it could not be connected. -/
def connectRelay (parts : Parts) (config : Config) (line : String) : Except Failure Parts :=
  let url := config.lineUrl line
  match parts.platform.connectSocket url .link with
  | .error failure => .error (.call (.socketConnect (url ++ ": " ++ failure.summary)))
  | .ok (id, platform) => .ok { parts with platform, relay := ⟨.simulated id, false, 0⟩ }

end CallControl.Parts
