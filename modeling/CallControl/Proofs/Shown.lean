import CallControl.Proofs.Asides
import CallControl.Proofs.Requests

/-! # What a view shows of a peer connection

Different properties read different parts of a peer connection and of the candidates that
are held for it. Such a part is given as a view of both, and most work leaves it alone for
one of few reasons: it does not concern peer connections at all, it concerns another one,
or it changes only what the view overlooks.
-/

namespace CallControl

/-- A change of the last element of a list. -/
theorem modify_concat {Element : Type} (elements : List Element) (last : Element)
    (change : Element → Element) :
    (elements ++ [last]).modify elements.length change = elements ++ [change last] := by
  rw [List.modify_eq_take_cons_drop (by simp)]
  simp

/-- A change of one element that a view of it does not show. -/
theorem map_modify_of_eq {Element View : Type} {view : Element → View}
    {change : Element → Element} (same : ∀ element, view (change element) = view element)
    (elements : List Element) (id : Nat) :
    (elements.modify id change).map view = elements.map view := by
  induction elements generalizing id with
  | nil => rw [List.modify_nil]
  | cons element rest ih =>
      cases id with
      | zero => rw [List.modify_zero_cons, List.map_cons, List.map_cons, same]
      | succ id => rw [List.modify_succ_cons, List.map_cons, List.map_cons, ih]

/-- What is looked up of one element stays when another view of it changes. -/
theorem elim_modify_of_eq {Element View : Type} {view : Element → View}
    {change : Element → Element} (same : ∀ element, view (change element) = view element)
    (elements : List Element) (target id : Nat) (absent : View) :
    ((elements.modify target change)[id]?).elim absent view =
      (elements[id]?).elim absent view := by
  have viewed := congrArg (·[id]?) (map_modify_of_eq same elements target)
  simp only [List.getElem?_map] at viewed
  have elim (found : Option Element) : found.elim absent view = (found.map view).getD absent := by
    cases found <;> rfl
  rw [elim, elim]
  exact congrArg (Option.getD · absent) viewed

namespace Parts

variable {View : Type}

/-- The peer connection that a link uses, and what a view shows of one. -/
def shown (parts : Parts) (view : List IceCandidate → PeerConnection → View)
    (id : ConnectionId) : Option ConnectionId × Option View :=
  (parts.peer.connection, (parts.platform.connections[id]?).map (view parts.peer.held))

section Views

variable {view : List IceCandidate → PeerConnection → View}

/-- What happens to channels is not shown by a peer connection. -/
theorem shown_of_channels {before after : Parts} (id : ConnectionId)
    (same : after.besidesChannels = before.besidesChannels) :
    after.shown view id = before.shown view id :=
  (congrArg (fun rest : Parts => rest.shown view id) same :)

/-- What happens to the relay is not shown by a peer connection. -/
theorem shown_of_relay {before after : Parts} (id : ConnectionId)
    (same : after.besidesRelay = before.besidesRelay) :
    after.shown view id = before.shown view id :=
  (congrArg (fun rest : Parts => rest.shown view id) same :)

/-- Another peer connection is changed. -/
theorem shown_modifyConnection_of_ne (parts : Parts) {id target : ConnectionId}
    (other : target ≠ id) (change : PeerConnection → PeerConnection) :
    (parts.modifyConnection target change).shown view id = parts.shown view id := by
  unfold shown
  simp only [modifyConnection, Platform.modifyConnection, List.getElem?_modify, other, ↓reduceIte]
  exact congrArg _ (congrArg _ (Option.map_id' ..))

/-- A change that the view overlooks. -/
theorem shown_modifyConnection (parts : Parts) (id target : ConnectionId)
    {change : PeerConnection → PeerConnection}
    (overlooks : ∀ connection, parts.platform.connections[target]? = some connection →
      ∀ held, view held (change connection) = view held connection) :
    (parts.modifyConnection target change).shown view id = parts.shown view id := by
  by_cases here : target = id
  · subst here
    unfold shown
    simp only [modifyConnection, Platform.modifyConnection, List.getElem?_modify, ↓reduceIte]
    cases found : parts.platform.connections[target]? with
    | none => rfl
    | some connection =>
        have kept := overlooks connection found parts.peer.held
        exact congrArg (fun view => (parts.peer.connection, some view)) kept
  · exact parts.shown_modifyConnection_of_ne here change

/-- The local tracks are not shown to whoever overlooks added tracks. -/
theorem shown_addLocalTracks (parts : Parts) (id target : ConnectionId)
    (overlooks : ∀ held connection addedTracks,
      view held { connection with addedTracks } = view held connection) :
    (parts.addLocalTracks target).shown view id = parts.shown view id := by
  unfold addLocalTracks
  split
  · refine parts.shown_modifyConnection id target ?_
    intro connection _ held
    rw [connection.addTracks_eq]
    exact overlooks held connection _
  · rfl

private theorem shown_peerHeard (parts : Parts) (id : ConnectionId) (event : ConnectionEvent) :
    (parts.peerHeard event).shown view id = parts.shown view id :=
  peerHeard_eq (·.shown view id)
    (fun current item => shown_of_channels id (besidesChannels_raiseFromPeer current item))
    (fun current channel => shown_of_channels id (besidesChannels_channelAnnounced current channel))
    (fun _ _ _ => rfl) parts event

private theorem shown_connectionEmits (parts : Parts) (id target : ConnectionId)
    (event : ConnectionEvent) (overlooks : ∀ held connection iceState,
      view held { connection with iceState } = view held connection) :
    (parts.connectionEmits target event).shown view id = parts.shown view id := by
  refine connectionEmits_eq (·.shown view id) (fun current => ?_)
    (fun current => shown_peerHeard current id event) (fun _ => rfl) parts
  refine current.shown_modifyConnection id target ?_
  intro connection _ held
  cases event with
  | iceState state => exact overlooks held connection state
  | _ => rfl

/-- Of what happens on the platform only the state of a path may be seen. -/
theorem shown_undergo (parts : Parts) (id : ConnectionId) (occurrence : Occurrence)
    (overlooks : ∀ held connection iceState,
      view held { connection with iceState } = view held connection) :
    (parts.undergo occurrence).shown view id = parts.shown view id :=
  undergo_eq (·.shown view id) (shown_of_relay id)
    (fun current target event => current.shown_connectionEmits id target event overlooks)
    (fun _ _ => shown_of_channels id (besidesChannels_openChannelNow ..))
    (fun _ _ _ => shown_of_channels id (besidesChannels_channelEmits ..))
    (fun _ _ => shown_of_channels id (besidesChannels_closeChannel ..)) parts occurrence

/-- The peer connection of a link of which a view is shown. -/
theorem connection_of_shown {parts : Parts} {id : ConnectionId} {sight : View}
    (shown : parts.shown view id = (some id, some sight)) :
    ∃ connection, parts.peer.connection = some id ∧
      parts.platform.connections[id]? = some connection ∧
      sight = view parts.peer.held connection := by
  obtain ⟨used, found⟩ := Prod.mk.inj shown
  obtain ⟨connection, present, same⟩ := Option.map_eq_some_iff.mp found
  exact ⟨connection, used, present, same.symm⟩

/-- What the peer connection in use shows. -/
theorem shown_eq {parts : Parts} {id : ConnectionId} {connection : PeerConnection}
    (used : parts.peer.connection = some id)
    (found : parts.platform.connections[id]? = some connection) :
    parts.shown view id = (some id, some (view parts.peer.held connection)) := by
  unfold shown
  rw [used, found]
  rfl

/-- A peer connection that is changed is found changed. -/
theorem getElem?_modifyConnection {parts : Parts} {id : ConnectionId} {connection : PeerConnection}
    (found : parts.platform.connections[id]? = some connection)
    (change : PeerConnection → PeerConnection) :
    (parts.modifyConnection id change).platform.connections[id]? = some (change connection) := by
  simp only [modifyConnection, Platform.modifyConnection, List.getElem?_modify_eq, found]
  rfl

/-- What the peer connection in use shows after a change of it. -/
theorem shown_modify {parts : Parts} {id : ConnectionId} (connection : PeerConnection)
    (used : parts.peer.connection = some id)
    (found : parts.platform.connections[id]? = some connection)
    (change : PeerConnection → PeerConnection) :
    (parts.modifyConnection id change).shown view id =
      (some id, some (view parts.peer.held (change connection))) :=
  shown_eq used (getElem?_modifyConnection found change)

end Views

/-- A link that was just set up uses a new peer connection. -/
theorem shown_initPeer (view : List IceCandidate → PeerConnection → View) {parts : Parts}
    {id : ConnectionId} (absent : parts.peer.connection = none)
    (used : parts.initPeer.2.peer.connection = some id) :
    ∃ configuration, parts.initPeer.2.shown view id =
      (some id, some (view parts.peer.held (linkKinds.foldl
        (fun connection kind => connection.addListener kind .link) (.make configuration)))) := by
  rcases parts.initPeer_cases with ⟨_, same, _⟩ | ⟨configuration, _, same⟩
  · rw [same] at used
    exact nomatch absent.symm.trans used
  · rw [same] at used ⊢
    cases used
    refine ⟨configuration, ?_⟩
    simp only [shown, attach, Platform.modifyConnection]
    rw [modify_concat, List.getElem?_concat_length]
    rfl

/-- A link that is set up is not set up again. -/
theorem initPeer_of_some {parts : Parts} {id : ConnectionId}
    (used : parts.peer.connection = some id) : parts.initPeer.2 = parts := by
  unfold initPeer
  rw [used]
  rfl

end Parts

end CallControl
