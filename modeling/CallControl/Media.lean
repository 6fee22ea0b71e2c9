/-! # Media tracks and streams

A stream is an ordered set of tracks, and only the enabled flag of a track ever
changes. Tracks of a stream built at once keep even a repeated id; a track added
later is left out when its id is already there.
-/

namespace CallControl

/-- The kind of a track. -/
inductive MediaKind where
  | audio
  | video
  deriving Repr, DecidableEq

/-- The name of a kind. -/
def MediaKind.name : MediaKind → String
  | .audio => "audio"
  | .video => "video"

/-- A single audio or video track. -/
structure MediaTrack where
  id : String
  kind : MediaKind
  enabled : Bool
  deriving Repr, DecidableEq

/-- The text of a track. -/
def MediaTrack.describe (track : MediaTrack) : String :=
  "MediaStreamTrack(" ++ track.id ++ ", " ++ track.kind.name ++ ", enabled: " ++
    (if track.enabled then "true" else "false") ++ ")"

/-- An ordered collection of tracks. -/
structure MediaStream where
  id : String
  tracks : List MediaTrack
  deriving Repr, DecidableEq

namespace MediaStream

/-- A stream with a track added, unless a track with its id is there. -/
def add (stream : MediaStream) (track : MediaTrack) : MediaStream :=
  if stream.tracks.any fun present => present.id == track.id then stream
  else { stream with tracks := stream.tracks ++ [track] }

/-- Some track of a kind is enabled. -/
def hasEnabled (stream : MediaStream) (kind : MediaKind) : Bool :=
  stream.tracks.any fun track => track.kind == kind && track.enabled

/-- Some track is of a kind. -/
def hasKind (stream : MediaStream) (kind : MediaKind) : Bool :=
  stream.tracks.any fun track => track.kind == kind

/-- A stream with every track of a kind enabled or disabled. -/
def setEnabled (stream : MediaStream) (kind : MediaKind) (enabled : Bool) : MediaStream :=
  { stream with tracks := stream.tracks.map fun track =>
      if track.kind = kind then { track with enabled } else track }

/-- The tracks with the first one of an id enabled or disabled. -/
def setFirst (id : String) (enabled : Bool) : List MediaTrack → List MediaTrack
  | [] => []
  | track :: rest =>
      if track.id = id then { track with enabled } :: rest
      else track :: setFirst id enabled rest

/-- A stream with the first track of an id enabled or disabled. -/
def setTrackEnabled (stream : MediaStream) (id : String) (enabled : Bool) : MediaStream :=
  { stream with tracks := setFirst id enabled stream.tracks }

/-- The first track of an id. -/
def track? (stream : MediaStream) (id : String) : Option MediaTrack :=
  stream.tracks.find? fun track => track.id == id

/-- After switching the tracks of a kind, one is enabled if that was asked for and
there is a track of the kind at all. -/
theorem hasEnabled_setEnabled (stream : MediaStream) (kind : MediaKind) (enabled : Bool) :
    (stream.setEnabled kind enabled).hasEnabled kind = (stream.hasKind kind && enabled) := by
  obtain ⟨id, tracks⟩ := stream
  simp only [setEnabled, hasEnabled, hasKind, List.any_map]
  induction tracks with
  | nil => rfl
  | cons track rest ih =>
    simp only [List.any_cons, ih, Function.comp_apply]
    by_cases same : track.kind = kind
    · cases enabled <;> simp [same]
    · have unequal : (track.kind == kind) = false := beq_false_of_ne same
      simp [same, unequal]

/-- Switching the tracks of a kind leaves those of another kind alone. -/
theorem hasEnabled_setEnabled_of_ne (stream : MediaStream) {kind other : MediaKind}
    (different : other ≠ kind) (enabled : Bool) :
    (stream.setEnabled kind enabled).hasEnabled other = stream.hasEnabled other := by
  obtain ⟨id, tracks⟩ := stream
  simp only [setEnabled, hasEnabled, List.any_map]
  induction tracks with
  | nil => rfl
  | cons track rest ih =>
    simp only [List.any_cons, ih, Function.comp_apply]
    by_cases same : track.kind = kind
    · have unequal : (kind == other) = false := beq_false_of_ne (Ne.symm different)
      simp [same, unequal]
    · simp [same]

end MediaStream

end CallControl
