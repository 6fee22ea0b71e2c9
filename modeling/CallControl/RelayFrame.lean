import CallControl.WorkItem

/-! # Frames from the relay

The relay delivers objects with an event and perhaps a message. Four events concern
a call: the peer has joined, and the three kinds of negotiation message, which must
be objects (`RelayFrame.item?`). Everything else is none of a call's business.
-/

namespace CallControl

open CallControl.Json

/-- A frame delivered by the relay. -/
structure RelayFrame where
  event : String
  message : Json
  deriving Repr

namespace RelayFrame

/-- The frame of a text; a missing message is null. -/
def parse? (text : String) : Option RelayFrame :=
  (Document.parse? text).bind fun document =>
    match fields? ["event", "message"] document with
    | some [event, message] =>
        (required string? event).bind fun event =>
          (orDefault .null (ofDocument? fieldDepth) message).map fun message =>
            ⟨event, message⟩
    | _ => none

/-- The item a frame asks for. -/
def item? (frame : RelayFrame) : Option PeerItem :=
  if frame.event = "user_joined" then some .userJoined
  else if frame.message.isObject then
    if frame.event = "webrtc_offer" then some (.webrtcOffer ⟨frame.message⟩)
    else if frame.event = "webrtc_acceptance" then some (.webrtcAcceptance ⟨frame.message⟩)
    else if frame.event = "webrtc_candidate" then some (.webrtcCandidate ⟨frame.message⟩)
    else none
  else none

/-- The item that a text from the relay asks for. -/
def decode? (text : String) : Option PeerItem :=
  (parse? text).bind item?

end RelayFrame

end CallControl
