/-! # Lifecycle and flags of a call

A call rings, connects, is connected and ends, in that order and perhaps skipping
stages. Beside its stage a call shows four flags: whether the microphone and the
camera of either side are on.
-/

namespace CallControl

/-- The stage of a call. -/
inductive Lifecycle where
  /-- Waiting for the peer to join or to send an offer. -/
  | ringing
  /-- The peer is there and offer and answer are on their way. -/
  | connecting
  /-- There is a working path and media flows. -/
  | connected
  /-- The call is over. -/
  | ended
  deriving Repr, DecidableEq

namespace Lifecycle

/-- The title of a stage. -/
def title : Lifecycle → String
  | .ringing => "Ringing"
  | .connecting => "Connecting"
  | .connected => "Connected"
  | .ended => "Ended"

/-- The position of a stage in the order of stages. -/
def rank : Lifecycle → Nat
  | .ringing => 0
  | .connecting => 1
  | .connected => 2
  | .ended => 3

end Lifecycle

/-- The microphone and camera flags that a call shows. -/
structure CallFlags where
  peerMic : Bool
  peerVideo : Bool
  myMic : Bool
  myVideo : Bool
  deriving Repr, DecidableEq

/-- The flags as four digits. -/
def CallFlags.digits (flags : CallFlags) : String :=
  let digit (flag : Bool) : String := if flag then "1" else "0"
  digit flags.peerMic ++ digit flags.peerVideo ++ digit flags.myMic ++ digit flags.myVideo

end CallControl
