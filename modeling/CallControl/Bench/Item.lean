import CallControl.Platform.Basic

/-! # Items by name

A bench builds work items from their names, with a JSON text for those that carry a
value and the name of a channel for the one that carries a channel, and shows items
by their text and what they carry.
-/

namespace CallControl.Bench

/-- A description of an item to build. -/
structure ItemSpec where
  name : String
  json : String
  channel : String
  deriving Repr, DecidableEq

/-- A complaint of the bench itself. -/
def complaint (text : String) : Failure := .described [text]

/-- The items that carry a value, by name. -/
def carrier? (name : String) : Option (Json → WorkItem) :=
  if name = "webrtc_offer" then some fun value => .peer (.webrtcOffer ⟨value⟩)
  else if name = "webrtc_acceptance" then some fun value => .peer (.webrtcAcceptance ⟨value⟩)
  else if name = "webrtc_candidate" then some fun value => .peer (.webrtcCandidate ⟨value⟩)
  else if name = "offer" then some fun value => .signal (.offer ⟨value⟩)
  else if name = "acceptance" then some fun value => .signal (.acceptance ⟨value⟩)
  else if name = "candidate" then some fun value => .signal (.candidate ⟨value⟩)
  else none

/-- The items that carry nothing, by name. -/
def bare? (name : String) : Option WorkItem :=
  if name = "user_joined" then some (.peer .userJoined)
  else if name = "send_initial_state" then some (.peer .sendInitialState)
  else if name = "negotiation_needed" then some (.peer .negotiationNeeded)
  else (CoordinatorItem.ofName? name).map .coordinator

/-- The item of a name with its value read from a text. -/
def buildItem (name json : String) : Except Failure WorkItem :=
  match carrier? name with
  | some carry =>
      match Json.parse? json with
      | some value => .ok (carry value)
      | none => .error .malformedJson
  | none =>
      match bare? name with
      | some item => .ok item
      | none => .error (complaint "no such item")

/-- The channel of a name. -/
def findChannel (platform : Platform) (name : String) : Except Failure ChannelId :=
  match platform.channelNamed? name with
  | some id => .ok id
  | none => .error (complaint "no channel")

/-- The item of a description on a platform. -/
def ItemSpec.build (spec : ItemSpec) (platform : Platform) : Except Failure WorkItem :=
  if spec.name = "data_channel" then
    (findChannel platform spec.channel).map fun id => .peer (.dataChannel id)
  else buildItem spec.name spec.json

/-- An item as it is shown. -/
structure ShownItem where
  display : String
  payload : Option String
  deriving Repr, DecidableEq

/-- What an item carries, as text. -/
def payload? (channelName : ChannelId → String) : WorkItem → Option String
  | .signal signal => some signal.toText
  | .coordinator _ => none
  | .peer (.webrtcOffer description) => some description.value.toText
  | .peer (.webrtcAcceptance description) => some description.value.toText
  | .peer (.webrtcCandidate candidate) => some candidate.value.toText
  | .peer (.dataChannel id) => some (channelName id)
  | .peer _ => none

/-- An item as it is shown, with channels named. -/
def showItem (channelName : ChannelId → String) (item : WorkItem) : ShownItem :=
  ⟨item.display, payload? channelName item⟩

end CallControl.Bench
