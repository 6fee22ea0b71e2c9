import Mathlib.Data.List.Nodup
import CallControl.Proofs.Asides

/-! # The listeners of a link, accounted for

A link to the peer remembers every listener that it has on a peer connection or a
channel, and has no other: on each channel exactly one listener for each channel
registration that names it, and on the peer connection in use exactly those that were
registered when it was created (`Parts.Accounted`). Every move of a link keeps this, so
that taking off what is remembered takes off everything.
-/

namespace CallControl

/-! ## Listeners on one channel -/

namespace DataChannel

/-- The listeners of a role on a channel, oldest first. -/
def registered (channel : DataChannel) (role : ChannelRole) : List Nat :=
  (channel.listeners.filter fun listener => listener.role == role).map ChannelListener.id

/-- The listeners are numbered in the order of registration, below the next number. -/
structure Numbered (channel : DataChannel) : Prop where
  ordered : (channel.listeners.map ChannelListener.id).Pairwise (· < ·)
  below : ∀ listener ∈ channel.listeners, listener.id < channel.nextListener

/-- The listeners that a link has on a channel: those that wait for it to open and those
that take in messages. -/
structure Carries (channel : DataChannel) (awaiting receiving : List Nat) : Prop where
  numbered : channel.Numbered
  awaiting : channel.registered .awaitOpen = awaiting
  receiving : channel.registered .peerMessages = receiving

private theorem carries_make (origin : ChannelOrigin) (label : String) :
    (make origin label).Carries [] [] :=
  ⟨⟨List.Pairwise.nil, fun _ member => (List.not_mem_nil member).elim⟩, rfl, rfl⟩

private theorem Numbered.addListener {channel : DataChannel} (numbered : channel.Numbered)
    (role : ChannelRole) : (channel.addListener role).Numbered where
  ordered := by
    simp only [DataChannel.addListener, List.map_append, List.map_cons, List.map_nil]
    refine List.pairwise_append.mpr ⟨numbered.ordered, List.pairwise_singleton _ _, ?_⟩
    intro earlier member later last
    obtain ⟨listener, inside, rfl⟩ := List.mem_map.mp member
    rw [List.mem_singleton.mp last]
    exact numbered.below listener inside
  below := by
    intro listener member
    rcases List.mem_append.mp member with inside | last
    · exact Nat.lt_succ_of_lt (numbered.below listener inside)
    · rw [List.mem_singleton.mp last]
      exact Nat.lt_succ_self _

private theorem registered_addListener (channel : DataChannel) (added role : ChannelRole) :
    (channel.addListener added).registered role =
      channel.registered role ++ if added = role then [channel.nextListener] else [] := by
  unfold registered addListener
  rw [List.filter_append, List.map_append]
  by_cases same : added = role
  · simp [same]
  · simp [same]

/-- Taking off several listeners leaves the others, in order. -/
theorem listeners_foldl_removeListener (channel : DataChannel) (ids : List Nat) :
    (ids.foldl removeListener channel).listeners =
      channel.listeners.filter fun listener => listener.id ∉ ids := by
  induction ids generalizing channel with
  | nil => simp
  | cons id rest ih =>
      rw [List.foldl_cons, ih]
      simp only [removeListener, List.filter_filter]
      apply List.filter_congr
      intro listener _
      simp only [List.mem_cons, not_or, Bool.decide_and, bne, Bool.and_comm, decide_not]
      rfl

private theorem nextListener_foldl_removeListener (channel : DataChannel) (ids : List Nat) :
    (ids.foldl removeListener channel).nextListener = channel.nextListener := by
  induction ids generalizing channel with
  | nil => rfl
  | cons id rest ih => rw [List.foldl_cons, ih, removeListener]

private theorem registered_foldl_removeListener (channel : DataChannel) (ids : List Nat)
    (role : ChannelRole) :
    (ids.foldl removeListener channel).registered role =
      (channel.registered role).filter fun id => id ∉ ids := by
  unfold registered
  rw [listeners_foldl_removeListener, List.filter_map, List.filter_filter, List.filter_filter]
  congr 1
  apply List.filter_congr
  intro listener _
  simp only [Function.comp_apply, Bool.and_comm]

private theorem Numbered.foldl_removeListener {channel : DataChannel} (numbered : channel.Numbered)
    (ids : List Nat) : (ids.foldl removeListener channel).Numbered where
  ordered := by
    rw [listeners_foldl_removeListener]
    exact numbered.ordered.sublist (List.filter_sublist.map _)
  below := by
    intro listener member
    rw [listeners_foldl_removeListener] at member
    rw [nextListener_foldl_removeListener]
    exact numbered.below listener (List.mem_filter.mp member).1

/-- A listener has one role. -/
theorem Numbered.role_unique {channel : DataChannel} (numbered : channel.Numbered) {id : Nat}
    {first second : ChannelRole} (inFirst : id ∈ channel.registered first)
    (inSecond : id ∈ channel.registered second) : first = second := by
  obtain ⟨one, oneMember, oneId⟩ := List.mem_map.mp inFirst
  obtain ⟨other, otherMember, otherId⟩ := List.mem_map.mp inSecond
  obtain ⟨oneInside, oneRole⟩ := List.mem_filter.mp oneMember
  obtain ⟨otherInside, otherRole⟩ := List.mem_filter.mp otherMember
  have distinct : (channel.listeners.map ChannelListener.id).Nodup :=
    numbered.ordered.imp Nat.ne_of_lt
  have same : one = other :=
    List.inj_on_of_nodup_map distinct oneInside otherInside (oneId.trans otherId.symm)
  rw [← eq_of_beq oneRole, ← eq_of_beq otherRole, same]

/-- Taking off the listeners of one role leaves those of another. -/
theorem Numbered.registered_foldl_other {channel : DataChannel} (numbered : channel.Numbered)
    {taken role : ChannelRole} (different : taken ≠ role) :
    ((channel.registered taken).foldl removeListener channel).registered role =
      channel.registered role := by
  rw [registered_foldl_removeListener]
  apply List.filter_eq_self.mpr
  intro id member
  apply decide_eq_true
  intro inTaken
  exact different (numbered.role_unique inTaken member)

private theorem registered_foldl_self (channel : DataChannel) (role : ChannelRole) :
    ((channel.registered role).foldl removeListener channel).registered role = [] := by
  rw [registered_foldl_removeListener]
  apply List.filter_eq_nil_iff.mpr
  intro id member
  simp only [member, not_true_eq_false, decide_false, Bool.false_eq_true, not_false_eq_true]

namespace Carries

variable {channel : DataChannel} {awaiting receiving : List Nat}

private theorem await (carries : channel.Carries awaiting receiving) :
    (channel.addListener .awaitOpen).Carries (awaiting ++ [channel.nextListener]) receiving where
  numbered := carries.numbered.addListener _
  awaiting := by rw [registered_addListener, carries.awaiting]; rfl
  receiving := by
    rw [registered_addListener, carries.receiving]
    exact List.append_nil _

private theorem receive (carries : channel.Carries awaiting receiving) :
    (channel.addListener .peerMessages).Carries awaiting
      (receiving ++ [channel.nextListener]) where
  numbered := carries.numbered.addListener _
  awaiting := by
    rw [registered_addListener, carries.awaiting]
    exact List.append_nil _
  receiving := by rw [registered_addListener, carries.receiving]; rfl

/-- Somebody else who listens to a channel does not count as the link. -/
theorem overhear (carries : channel.Carries awaiting receiving) :
    (channel.addListener .note).Carries awaiting receiving where
  numbered := carries.numbered.addListener _
  awaiting := by
    rw [registered_addListener, carries.awaiting]
    exact List.append_nil _
  receiving := by
    rw [registered_addListener, carries.receiving]
    exact List.append_nil _

/-- When each listener that waits is taken off, none is left. -/
theorem stopAwaiting (carries : channel.Carries awaiting receiving) :
    (awaiting.foldl removeListener channel).Carries [] receiving := by
  have same := carries.awaiting
  subst same
  exact ⟨carries.numbered.foldl_removeListener _, registered_foldl_self channel _,
    (carries.numbered.registered_foldl_other (by decide)).trans carries.receiving⟩

private theorem stopReceiving (carries : channel.Carries awaiting receiving) :
    (receiving.foldl removeListener channel).Carries awaiting [] := by
  have same := carries.receiving
  subst same
  exact ⟨carries.numbered.foldl_removeListener _,
    (carries.numbered.registered_foldl_other (by decide)).trans carries.awaiting,
    registered_foldl_self channel _⟩

/-- A link is not on a channel on which it has no listener. -/
theorem onlyNotes (carries : channel.Carries [] []) :
    ∀ listener ∈ channel.listeners, listener.role = .note := by
  intro listener member
  have absent (role : ChannelRole) (empty : channel.registered role = []) :
      listener.role ≠ role := by
    intro same
    have inside : listener.id ∈ channel.registered role :=
      List.mem_map_of_mem (List.mem_filter.mpr ⟨member, beq_iff_eq.mpr same⟩)
    rw [empty] at inside
    exact List.not_mem_nil inside
  cases role : listener.role with
  | awaitOpen => exact (absent .awaitOpen carries.awaiting role).elim
  | peerMessages => exact (absent .peerMessages carries.receiving role).elim
  | note => rfl

end Carries

end DataChannel

/-! ## Listeners on one peer connection -/

namespace PeerConnection

/-- The listeners of a link on a peer connection, oldest first. -/
def registered (connection : PeerConnection) : List Nat :=
  (connection.listeners.filter fun listener => listener.audience == .link).map
    ConnectionListener.id

private theorem listeners_foldl_removeListener (connection : PeerConnection) (ids : List Nat) :
    (ids.foldl removeListener connection).listeners =
      connection.listeners.filter fun listener => listener.id ∉ ids := by
  induction ids generalizing connection with
  | nil => simp
  | cons id rest ih =>
      rw [List.foldl_cons, ih]
      simp only [removeListener, List.filter_filter]
      apply List.filter_congr
      intro listener _
      simp only [List.mem_cons, not_or, Bool.decide_and, bne, Bool.and_comm, decide_not]
      rfl

/-- Taking off all that a link registered leaves it nothing. -/
theorem registered_foldl_self (connection : PeerConnection) :
    (connection.registered.foldl removeListener connection).registered = [] := by
  have gone : ∀ listener ∈
      (connection.registered.foldl removeListener connection).listeners,
      ¬ (listener.audience == .link) = true := by
    intro listener member own
    rw [listeners_foldl_removeListener] at member
    obtain ⟨inside, kept⟩ := List.mem_filter.mp member
    exact of_decide_eq_true kept
      (List.mem_map_of_mem (List.mem_filter.mpr ⟨inside, own⟩))
  unfold registered at gone ⊢
  rw [List.filter_eq_nil_iff.mpr gone, List.map_nil]

/-- Somebody else who listens to a peer connection does not count as the link. -/
theorem registered_addListener_note (connection : PeerConnection) (kind : ConnectionEventKind) :
    (connection.addListener kind .note).registered = connection.registered := by
  unfold registered addListener
  rw [List.filter_append, List.map_append]
  exact List.append_nil _

/-- A link that has no listener on a peer connection is told nothing by it. -/
theorem audience_of_registered_nil {connection : PeerConnection}
    (empty : connection.registered = []) (kind : ConnectionEventKind) :
    ∀ audience ∈ connection.audience kind, audience = .note := by
  intro audience member
  obtain ⟨listener, inside, rfl⟩ := List.mem_map.mp member
  cases own : listener.audience with
  | note => rfl
  | link =>
      have registered : listener.id ∈ connection.registered :=
        List.mem_map_of_mem (List.mem_filter.mpr
          ⟨(List.mem_filter.mp inside).1, beq_iff_eq.mpr own⟩)
      rw [empty] at registered
      exact (List.not_mem_nil registered).elim

end PeerConnection

/-! ## What a link remembers -/

/-- The listeners that some registrations name on a channel. -/
def listenersOn (id : ChannelId) (registrations : List ChannelRegistration) : List Nat :=
  (registrations.filter fun registration => registration.channel == id).map
    ChannelRegistration.listener

/-- The listeners of some registrations on a channel are those of each part of them. -/
theorem listenersOn_append (id : ChannelId) (earlier later : List ChannelRegistration) :
    listenersOn id (earlier ++ later) = listenersOn id earlier ++ listenersOn id later := by
  unfold listenersOn
  rw [List.filter_append, List.map_append]

/-- A registration names a listener on its own channel only. -/
theorem listenersOn_singleton (id channel : ChannelId) (listener : Nat) :
    listenersOn id [⟨channel, listener⟩] = if channel = id then [listener] else [] := by
  unfold listenersOn
  by_cases same : channel = id
  · simp [same]
  · simp [same]

/-- No channel beyond the last one is remembered when every remembered one exists. -/
theorem listenersOn_of_length_le {channels : List DataChannel}
    {registrations : List ChannelRegistration}
    (present : ∀ registration ∈ registrations, registration.channel < channels.length)
    {id : ChannelId} (beyond : channels.length ≤ id) : listenersOn id registrations = [] := by
  unfold listenersOn
  rw [List.filter_eq_nil_iff.mpr, List.map_nil]
  intro registration member same
  have inside := present registration member
  rw [eq_of_beq same] at inside
  exact absurd inside (Nat.not_lt.mpr beyond)

/-- The channels carry what is remembered and nothing else of the link. -/
structure ChannelsAccounted (channels : List DataChannel) (pending : List ChannelRegistration)
    (adopted : Option ChannelRegistration) : Prop where
  carried : ∀ (id : ChannelId) (channel : DataChannel), channels[id]? = some channel →
    channel.Carries (listenersOn id pending) (listenersOn id adopted.toList)
  pendingPresent : ∀ registration ∈ pending, registration.channel < channels.length
  adoptedPresent : ∀ registration ∈ adopted.toList, registration.channel < channels.length

/-- The peer connection in use carries what is remembered; every other one carries
nothing of the link and is closed. -/
structure ConnectionsAccounted (connections : List PeerConnection)
    (current : Option ConnectionId) (registrations : List Nat) : Prop where
  attached : ∀ (id : ConnectionId) (connection : PeerConnection),
    connections[id]? = some connection →
      connection.registered = if current = some id then registrations else []
  spent : ∀ (id : ConnectionId) (connection : PeerConnection),
    connections[id]? = some connection → current ≠ some id → connection.closed = true
  present : ∀ id, current = some id → id < connections.length

/-- A link that remembers nothing, as it is without a peer connection. -/
def PeerLink.AtRest (link : PeerLink) : Prop :=
  link.registrations = [] ∧ link.held = [] ∧ link.adopted = none ∧ link.pending = [] ∧
    link.connected = false

namespace ChannelsAccounted

variable {channels : List DataChannel} {pending : List ChannelRegistration}
  {adopted : Option ChannelRegistration}

/-- One channel is changed together with what is remembered of it. -/
theorem modify (accounted : ChannelsAccounted channels pending adopted) (target : ChannelId)
    {change : DataChannel → DataChannel} {pending' : List ChannelRegistration}
    {adopted' : Option ChannelRegistration}
    (there : ∀ channel, channels[target]? = some channel →
      channel.Carries (listenersOn target pending) (listenersOn target adopted.toList) →
        (change channel).Carries (listenersOn target pending')
          (listenersOn target adopted'.toList))
    (elsewhere : ∀ id, id ≠ target → listenersOn id pending' = listenersOn id pending ∧
      listenersOn id adopted'.toList = listenersOn id adopted.toList)
    (pendingPresent : ∀ registration ∈ pending', registration.channel < channels.length)
    (adoptedPresent : ∀ registration ∈ adopted'.toList, registration.channel < channels.length) :
    ChannelsAccounted (channels.modify target change) pending' adopted' where
  carried := by
    intro id channel found
    rw [List.getElem?_modify] at found
    obtain ⟨earlier, foundEarlier, rfl⟩ := Option.map_eq_some_iff.mp found
    have carries := accounted.carried id earlier foundEarlier
    by_cases same : target = id
    · subst same
      simpa only [↓reduceIte] using there earlier foundEarlier carries
    · obtain ⟨samePending, sameAdopted⟩ := elsewhere id (Ne.symm same)
      simpa only [same, ↓reduceIte, samePending, sameAdopted] using carries
  pendingPresent := by simpa only [List.length_modify] using pendingPresent
  adoptedPresent := by simpa only [List.length_modify] using adoptedPresent

/-- A change of a channel that keeps its listeners. -/
theorem modify_of_listeners (accounted : ChannelsAccounted channels pending adopted)
    (target : ChannelId) {change : DataChannel → DataChannel}
    (kept : ∀ channel : DataChannel, (change channel).listeners = channel.listeners ∧
      (change channel).nextListener = channel.nextListener) :
    ChannelsAccounted (channels.modify target change) pending adopted := by
  refine accounted.modify target ?_ (fun _ _ => ⟨rfl, rfl⟩) accounted.pendingPresent
    accounted.adoptedPresent
  intro channel _ carries
  obtain ⟨listeners, next⟩ := kept channel
  refine ⟨⟨?_, ?_⟩, ?_, ?_⟩
  · rw [listeners]
    exact carries.numbered.ordered
  · rw [listeners, next]
    exact carries.numbered.below
  · rw [← carries.awaiting, DataChannel.registered, listeners]
    rfl
  · rw [← carries.receiving, DataChannel.registered, listeners]
    rfl

/-- A new channel carries nothing. -/
theorem add (accounted : ChannelsAccounted channels pending adopted) (origin : ChannelOrigin)
    (label : String) :
    ChannelsAccounted (channels ++ [.make origin label]) pending adopted where
  carried := by
    intro id channel found
    rcases Nat.lt_or_ge id channels.length with inside | beyond
    · rw [List.getElem?_append_left inside] at found
      exact accounted.carried id channel found
    · rw [listenersOn_of_length_le accounted.pendingPresent beyond,
        listenersOn_of_length_le accounted.adoptedPresent beyond]
      rw [List.getElem?_append_right beyond] at found
      have made : channel = .make origin label :=
        List.mem_singleton.mp (List.mem_of_getElem? found)
      subst made
      exact DataChannel.carries_make origin label
  pendingPresent := by
    intro registration member
    rw [List.length_append]
    exact Nat.lt_add_right _ (accounted.pendingPresent registration member)
  adoptedPresent := by
    intro registration member
    rw [List.length_append]
    exact Nat.lt_add_right _ (accounted.adoptedPresent registration member)

/-- Waiting for a channel to open. -/
theorem await (accounted : ChannelsAccounted channels pending adopted) {target : ChannelId}
    {channel : DataChannel} (found : channels[target]? = some channel) :
    ChannelsAccounted (channels.modify target (·.addListener .awaitOpen))
      (pending ++ [⟨target, channel.nextListener⟩]) adopted := by
  refine accounted.modify target ?_ ?_ ?_ accounted.adoptedPresent
  · intro current foundCurrent carries
    have same : current = channel := Option.some.inj (foundCurrent.symm.trans found)
    subst same
    rw [listenersOn_append, listenersOn_singleton, if_pos rfl]
    exact carries.await
  · intro id different
    refine ⟨?_, rfl⟩
    rw [listenersOn_append, listenersOn_singleton, if_neg (Ne.symm different), List.append_nil]
  · intro registration member
    rcases List.mem_append.mp member with earlier | last
    · exact accounted.pendingPresent registration earlier
    · rw [List.mem_singleton.mp last]
      exact (List.getElem?_eq_some_iff.mp found).1

/-- Taking in the messages on a channel, when none is in use. -/
theorem receive (accounted : ChannelsAccounted channels pending none) {target : ChannelId}
    {channel : DataChannel} (found : channels[target]? = some channel) :
    ChannelsAccounted (channels.modify target (·.addListener .peerMessages)) pending
      (some ⟨target, channel.nextListener⟩) := by
  refine accounted.modify target ?_ ?_ accounted.pendingPresent ?_
  · intro current foundCurrent carries
    have same : current = channel := Option.some.inj (foundCurrent.symm.trans found)
    subst same
    rw [Option.toList_some, listenersOn_singleton, if_pos rfl]
    exact carries.receive
  · intro id different
    refine ⟨rfl, ?_⟩
    rw [Option.toList_some, listenersOn_singleton, if_neg (Ne.symm different)]
    rfl
  · intro registration member
    rw [Option.toList_some, List.mem_singleton] at member
    subst member
    exact (List.getElem?_eq_some_iff.mp found).1

/-- No longer taking in the messages on the channel in use. -/
theorem release {registration : ChannelRegistration}
    (accounted : ChannelsAccounted channels pending (some registration)) :
    ChannelsAccounted
      (channels.modify registration.channel (·.removeListener registration.listener)) pending
      none := by
  refine accounted.modify registration.channel ?_ ?_ accounted.pendingPresent ?_
  · intro channel _ carries
    have named : listenersOn registration.channel (some registration).toList =
        [registration.listener] :=
      (listenersOn_singleton _ _ _).trans (if_pos rfl)
    rw [named] at carries
    exact carries.stopReceiving
  · intro id different
    refine ⟨rfl, ?_⟩
    exact ((listenersOn_singleton _ _ _).trans (if_neg (Ne.symm different))).symm
  · intro other member
    exact (List.not_mem_nil member).elim

end ChannelsAccounted

end CallControl
