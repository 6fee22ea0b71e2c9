import CallControl.Proofs.DocumentTexts
import CallControl.Proofs.RecordFields
import CallControl.SideChannel

/-! # Texts on the data channel

Which texts are messages, said without a reader: a state is a JSON object that has each of its
three fields once, or the list of their values (`StateText`), and an event is its name between
white space (`EventText`). No text is both, each is read as what it is, and every other text
is refused (`PeerMessage.read_exactly`).
-/

namespace CallControl

open CallControl.Json CallControl.Text

/-! ## States -/

namespace StateReport

/-- The fields of a state are truth values. -/
inductive SaidBy : StateReport → Document → Prop
  /-- An object has each field once, in whatever order; all that is asked of its other members
  is that they have names. -/
  | object {members : List Member} {requestState micOn videoOn : Bool}
      (named : AllNamed members)
      (request : HoldsOnce members "requestState" (.scalar (.bool requestState)))
      (mic : HoldsOnce members "micOn" (.scalar (.bool micOn)))
      (video : HoldsOnce members "videoOn" (.scalar (.bool videoOn))) :
      SaidBy ⟨requestState, micOn, videoOn⟩ (.object members)
  | array (requestState micOn videoOn : Bool) :
      SaidBy ⟨requestState, micOn, videoOn⟩
        (.array [.scalar (.bool requestState), .scalar (.bool micOn), .scalar (.bool videoOn)])

private theorem required_bool?_eq_some_iff {field : Option Document} {value : Bool} :
    required bool? field = some value ↔ field = some (.scalar (.bool value)) := by
  simp only [required_eq_some_iff, bool?_eq_some_iff, exists_eq_right]

private theorem read?_eq_some_iff {document : Document} {report : StateReport} :
    read? document = some report ↔ report.SaidBy document := by
  constructor
  · intro reads
    unfold read? at reads
    split at reads
    next fields request mic video found =>
      obtain ⟨requestState, requested, reads⟩ := Option.bind_eq_some_iff.mp reads
      obtain ⟨micOn, heard, reads⟩ := Option.bind_eq_some_iff.mp reads
      obtain ⟨videoOn, seen, rfl⟩ := Option.map_eq_some_iff.mp reads
      rw [required_bool?_eq_some_iff] at requested heard seen
      subst requested heard seen
      cases document with
      | scalar value => cases found
      | array items =>
          match items, found with
          | [_, _, _], found =>
              simp only [fields?, List.length_cons, List.length_nil, positionalFields?,
                Option.map_some, Option.some.injEq, List.cons.injEq, and_true] at found
              obtain ⟨rfl, rfl, rfl⟩ := found
              exact .array ..
      | object members =>
          obtain ⟨named, unique⟩ := fields?_object_eq_some_iff.mp found
          simp only [List.forall₂_cons, uniqueMember?_eq_some_iff] at unique
          obtain ⟨request, mic, video, _⟩ := unique
          exact .object named request mic video
    next => cases reads
  · intro said
    cases said with
    | @object members requestState micOn videoOn named request mic video =>
        have found : fields? ["requestState", "micOn", "videoOn"] (.object members) =
            some [some (.scalar (.bool requestState)), some (.scalar (.bool micOn)),
              some (.scalar (.bool videoOn))] := by
          refine fields?_object_eq_some_iff.mpr ⟨named, ?_⟩
          simp only [List.forall₂_cons, uniqueMember?_eq_some_iff]
          exact ⟨request, mic, video, .nil⟩
        unfold read?
        rw [found]
        rfl
    | array requestState micOn videoOn => rfl

end StateReport

/-- A JSON text of a state. -/
def StateText (characters : List Char) (report : StateReport) : Prop :=
  ∃ document, Denotes characters document ∧ report.SaidBy document

private theorem StateReport.parse?_eq_some_iff {text : String} {report : StateReport} :
    parse? text = some report ↔ StateText text.toList report := by
  unfold parse?
  simp only [Option.bind_eq_some_iff, Json.parse?_eq_some_iff, read?_eq_some_iff, StateText]

/-! ## Events -/

/-- The name of an event between white space. -/
inductive EventText : List Char → ToggleEvent → Prop
  | name {left right : List Char} {event : ToggleEvent} (before : White left)
      (after : White right) : EventText (left ++ event.name.toList ++ right) event

namespace ToggleEvent

private theorem trimmed_name (event : ToggleEvent) : Trimmed event.name.toList := by
  have visible : (event.name.toList.all fun character => !isWhiteSpace character) = true := by
    cases event <;> rfl
  exact .of_visible fun character mem => by
    simpa using List.all_eq_true.mp visible character mem

private theorem ofName?_eq_some_iff {text : String} {event : ToggleEvent} :
    ofName? text = some event ↔ text = event.name := by
  constructor
  · intro named
    unfold ofName? at named
    have same := List.find?_some named
    exact (beq_iff_eq.mp same).symm
  · rintro rfl
    cases event <;> decide

private theorem ofName?_trim_eq_some_iff {text : String} {event : ToggleEvent} :
    ofName? (String.ofList (trim text.toList)) = some event ↔ EventText text.toList event := by
  have trims : String.ofList (trim text.toList) = event.name ↔
      trim text.toList = event.name.toList := by
    rw [← String.toList_inj, String.toList_ofList]
  rw [ofName?_eq_some_iff, trims, trim_eq_iff event.trimmed_name]
  constructor
  · rintro ⟨left, right, same, before, after⟩
    rw [same]
    exact .name before after
  · intro written
    generalize text.toList = characters at written
    obtain ⟨before, after⟩ := written
    exact ⟨_, _, rfl, before, after⟩

end ToggleEvent

/-! ## No text is both -/

private theorem isWhiteSpace_of_isJsonSpace {character : Char}
    (space : isJsonSpace character = true) :
    isWhiteSpace character = true := by
  simp only [isJsonSpace, Bool.or_eq_true, beq_iff_eq] at space
  obtain ((rfl | rfl) | rfl) | rfl := space <;> decide

private theorem head?_dropWhile_of_opening {characters : List Char} {container : Container}
    {tokens : List Token} (written : TokensText characters (.opening container :: tokens)) :
    (characters.dropWhile isWhiteSpace).head? = some '[' ∨
      (characters.dropWhile isWhiteSpace).head? = some '\x7b' := by
  cases written with
  | @next blank _ rest _ _ blanks first _ =>
      have white : White blank := fun character member =>
        isWhiteSpace_of_isJsonSpace (blanks character member)
      rw [List.append_assoc, white.dropWhile_append]
      cases first with
      | @mark mark _ marks =>
          unfold punctuation? at marks
          split at marks <;> cases marks
          · exact .inl rfl
          · exact .inr rfl

/-- The first character of a state is a bracket. -/
theorem StateText.head?_dropWhile {characters : List Char} {report : StateReport}
    (states : StateText characters report) :
    (characters.dropWhile isWhiteSpace).head? = some '[' ∨
      (characters.dropWhile isWhiteSpace).head? = some '\x7b' := by
  obtain ⟨document, written, said⟩ := states
  unfold Denotes at written
  cases said with
  | object =>
      rw [tokens_object] at written
      exact head?_dropWhile_of_opening written
  | array =>
      rw [tokens_array] at written
      exact head?_dropWhile_of_opening written

private theorem EventText.head?_dropWhile {characters : List Char} {event : ToggleEvent}
    (names : EventText characters event) :
    (characters.dropWhile isWhiteSpace).head? = some 'm' ∨
      (characters.dropWhile isWhiteSpace).head? = some 'v' := by
  obtain ⟨before, after⟩ := names
  rw [List.append_assoc, before.dropWhile_append]
  cases event with
  | micOn => exact .inl rfl
  | micOff => exact .inl rfl
  | videoOn => exact .inr rfl
  | videoOff => exact .inr rfl

/-- No text is a state and an event. -/
theorem not_stateText_and_eventText {characters : List Char} {report : StateReport}
    {event : ToggleEvent} : ¬ (StateText characters report ∧ EventText characters event) := by
  rintro ⟨states, names⟩
  obtain bracket | bracket := states.head?_dropWhile <;>
    obtain letter | letter := names.head?_dropWhile <;>
    cases bracket.symm.trans letter

/-! ## Reading -/

namespace PeerMessage

private theorem parse?_eq_state_iff {text : String} {report : StateReport} :
    parse? text = some (.state report) ↔ StateText text.toList report := by
  rw [← StateReport.parse?_eq_some_iff, parse?]
  cases StateReport.parse? text with
  | none => simp
  | some other => simp

private theorem parse?_eq_toggle_iff {text : String} {event : ToggleEvent} :
    parse? text = some (.toggle event) ↔ EventText text.toList event := by
  rw [← ToggleEvent.ofName?_trim_eq_some_iff, parse?]
  cases parsed : StateReport.parse? text with
  | none => simp
  | some report =>
      refine iff_of_false nofun fun named => ?_
      exact not_stateText_and_eventText ⟨StateReport.parse?_eq_some_iff.mp parsed,
        ToggleEvent.ofName?_trim_eq_some_iff.mp named⟩

private theorem read_eq_ok_iff {text : String} {message : PeerMessage} :
    read text = .ok message ↔ parse? text = some message := by
  unfold read
  cases parse? text <;> simp

private theorem read_eq_error_iff {text : String} {failure : Failure} :
    read text = .error failure ↔ parse? text = none ∧
      failure = .call (.dataChannelProtocol ("unknown call event: " ++ text)) := by
  unfold read
  cases parse? text <;> simp [eq_comm]

/-- Messages are read exactly. A text is a state if and only if it is a JSON text of one, and
an event if and only if it is the event's name between white space; it is never both, and
every text that is neither is refused. A state asks for its answer first, if it asks for one,
then shows the microphone and then the camera. -/
theorem read_exactly (text : String) :
    (∀ report, read text = .ok (.state report) ↔ StateText text.toList report) ∧
      (∀ event, read text = .ok (.toggle event) ↔ EventText text.toList event) ∧
      (∀ report event, ¬ (StateText text.toList report ∧ EventText text.toList event)) ∧
      (read text = .error (.call (.dataChannelProtocol ("unknown call event: " ++ text))) ↔
        (∀ report, ¬ StateText text.toList report) ∧ ∀ event, ¬ EventText text.toList event) ∧
      ∀ report : StateReport, (PeerMessage.state report).items =
        (if report.requestState then [.peer .sendInitialState] else []) ++
          [.coordinator (if report.micOn then .peerMicTurnedOn else .peerMicTurnedOff),
            .coordinator (if report.videoOn then .peerVideoTurnedOn else .peerVideoTurnedOff)] := by
  refine ⟨fun report => ?_, fun event => ?_, fun report event => not_stateText_and_eventText,
    ?_, fun report => ?_⟩
  · rw [read_eq_ok_iff, parse?_eq_state_iff]
  · rw [read_eq_ok_iff, parse?_eq_toggle_iff]
  · simp only [read_eq_error_iff, and_true, ← parse?_eq_state_iff, ← parse?_eq_toggle_iff]
    cases parsed : parse? text with
    | none => simp
    | some message =>
        cases message with
        | state report => simp
        | toggle event => simp
  · obtain ⟨requestState, micOn, videoOn⟩ := report
    cases micOn <;> cases videoOn <;> rfl

end PeerMessage

end CallControl
