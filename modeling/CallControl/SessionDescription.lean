import CallControl.Json.Writer
import CallControl.Redaction.Redact

/-! # Session descriptions and candidates

Two kinds of JSON value pass between the peers unread: session descriptions and ICE
candidates. Only their texts for public view look inside, at a few string members,
and those texts are redacted.
-/

namespace CallControl

open CallControl.Redaction

/-- A session description: an offer or an answer as a peer connection made it. -/
structure SessionDescription where
  value : Json
  deriving Repr

namespace SessionDescription

/-- A description of a type with a body. -/
def make (type body : String) : SessionDescription :=
  ⟨.object [("sdp", .string body), ("type", .string type)]⟩

/-- The type of a description. -/
def type? (description : SessionDescription) : Option String :=
  description.value.memberText? "type"

/-- The body of a description. -/
def body? (description : SessionDescription) : Option String :=
  description.value.memberText? "sdp"

/-- The text of a description for public view. -/
def display (description : SessionDescription) : String :=
  "type: " ++ description.type?.getD "?" ++ ", sdp: " ++ redact (description.body?.getD "")

end SessionDescription

/-- An ICE candidate: a network path that a peer connection found. -/
structure IceCandidate where
  value : Json
  deriving Repr

namespace IceCandidate

/-- A candidate of a media section with a line number. -/
def make (mid : String) (line : UInt32) (candidate : String) : IceCandidate :=
  ⟨.object [("candidate", .string candidate), ("sdpMLineIndex", .number (.integer line.toNat)),
    ("sdpMid", .string mid)]⟩

/-- The path of a candidate. -/
def candidate? (candidate : IceCandidate) : Option String :=
  candidate.value.memberText? "candidate"

/-- The media section of a candidate. -/
def mid? (candidate : IceCandidate) : Option String :=
  candidate.value.memberText? "sdpMid"

/-- The text of a candidate for public view. -/
def display (candidate : IceCandidate) : String :=
  redact ("sdp_mid: " ++ candidate.mid?.getD "?" ++ ", candidate: " ++
    candidate.candidate?.getD "")

end IceCandidate

end CallControl
