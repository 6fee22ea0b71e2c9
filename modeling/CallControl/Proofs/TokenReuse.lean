import CallControl.TokenCache

/-! # Tokens handed out again

A cache serves requests for a token one after the other, over any provider: it may hand out
tokens, fail in any way, or break off. What each request comes to follows from what came of
the requests before it (`Handout.Follows`): the token that was fetched last is handed out
again while it is valid, otherwise the provider is asked once, and nobody is served after a
provider broke off. In the order of time no token is handed out that is too old, and no two
are fetched within the time that one is valid (`TokenCache.served_by_rule`).
-/

namespace CallControl

/-- A request for a token: when it is made, and when a provider that is asked has answered. -/
structure TokenRequest where
  askedAt : Nat
  answeredAt : Nat

/-- Time does not go back, neither while a request is served nor between two requests. -/
def InTimeOrder (requests : List TokenRequest) : Prop :=
  (requests.flatMap fun request => [request.askedAt, request.answeredAt]).Pairwise (· ≤ ·)

instance (requests : List TokenRequest) : Decidable (InTimeOrder requests) :=
  inferInstanceAs (Decidable (List.Pairwise (· ≤ ·) _))

/-- What came of a request. -/
structure Handout where
  request : TokenRequest
  /-- What the provider gave, once for each time it was asked. -/
  fetched : List (Except Failure String)
  answer : Except Failure String

namespace Handout

/-- The provider broke off while it was asked. -/
def Breaks (handout : Handout) : Prop := .error .crashed ∈ handout.fetched

/-- The token that was fetched for a request, as issued when the provider had answered. -/
def issued? (handout : Handout) : Option IssuedToken :=
  match handout.fetched with
  | [.ok text] => some ⟨text, handout.request.answeredAt⟩
  | _ => none

end Handout

/-- A provider broke off in the past. -/
def Broken (past : List Handout) : Prop := ∃ earlier ∈ past, earlier.Breaks

private theorem broken_append (past : List Handout) (handout : Handout) :
    Broken (past ++ [handout]) ↔ Broken past ∨ handout.Breaks := by
  simp [Broken, or_and_right, exists_or]

/-- The token that was fetched last. -/
def lastFetched? (past : List Handout) : Option IssuedToken :=
  (past.filterMap Handout.issued?).getLast?

/-- What an outcome of the provider is to whoever made the request: only a failure is put into
words of its own. -/
def passedOn : Except Failure String → Except Failure String
  | .ok text => .ok text
  | .error .crashed => .error .crashed
  | .error failure => .error (.call (.tokenFetch failure.summary))

/-- What a request comes to after others. -/
structure Handout.Follows (validity : Nat) (past : List Handout) (handout : Handout) : Prop where
  /-- Nobody is served once the provider broke off. -/
  refused : Broken past →
    handout.fetched = [] ∧ handout.answer = .error (.call (.mutexPoisoned "cached-token"))
  /-- The last token is handed out again while it is valid. -/
  reused : ¬ Broken past → ∀ issued, lastFetched? past = some issued →
    handout.request.askedAt ≤ issued.issuedAt + validity →
      handout.fetched = [] ∧ handout.answer = .ok issued.text
  /-- Otherwise the provider is asked once. -/
  fetches : ¬ Broken past →
    (∀ issued, lastFetched? past = some issued →
      issued.issuedAt + validity < handout.request.askedAt) →
      ∃ outcome, handout.fetched = [outcome] ∧ handout.answer = passedOn outcome

/-! ## What the rule entails -/

private theorem passedOn_eq_ok_iff {outcome : Except Failure String} {text : String} :
    passedOn outcome = .ok text ↔ outcome = .ok text := by
  cases outcome with
  | ok given => rfl
  | error failure => cases failure <;> simp [passedOn]

private theorem Handout.issued?_eq_some_iff {handout : Handout} {issued : IssuedToken} :
    handout.issued? = some issued ↔
      handout.fetched = [.ok issued.text] ∧ handout.request.answeredAt = issued.issuedAt := by
  obtain ⟨text, issuedAt⟩ := issued
  unfold Handout.issued?
  split <;> simp_all

private theorem lastFetched?_append (past : List Handout) (handout : Handout) :
    lastFetched? (past ++ [handout]) = handout.issued?.or (lastFetched? past) := by
  unfold lastFetched?
  cases issued : handout.issued? with
  | none => simp [issued]
  | some token => simp [issued]

private theorem exists_of_lastFetched? {past : List Handout} {issued : IssuedToken}
    (last : lastFetched? past = some issued) :
    ∃ source ∈ past, source.fetched = [.ok issued.text] ∧
      source.request.answeredAt = issued.issuedAt := by
  obtain ⟨source, mem, kept⟩ := List.mem_filterMap.mp (List.mem_of_getLast? last)
  exact ⟨source, mem, Handout.issued?_eq_some_iff.mp kept⟩

/-- The token that was fetched last is no older than any other one. -/
theorem lastFetched?_of_fetched (before : List Handout) {source : Handout}
    {between : List Handout} {text : String} (fetched : source.fetched = [.ok text])
    (order : ∀ later ∈ between, source.request.answeredAt ≤ later.request.answeredAt) :
    ∃ issued, lastFetched? (before ++ source :: between) = some issued ∧
      source.request.answeredAt ≤ issued.issuedAt := by
  have own : source.issued? = some ⟨text, source.request.answeredAt⟩ :=
    Handout.issued?_eq_some_iff.mpr ⟨fetched, rfl⟩
  have last : lastFetched? (before ++ source :: between) =
      some ((lastFetched? between).getD ⟨text, source.request.answeredAt⟩) := by
    simp [lastFetched?, own, List.getLast?_cons]
  cases since : lastFetched? between with
  | none => exact ⟨_, last.trans (by rw [since]), Nat.le_refl _⟩
  | some issued =>
      obtain ⟨later, mem, -, issuedAt⟩ := exists_of_lastFetched? since
      exact ⟨issued, last.trans (by rw [since]; rfl), issuedAt ▸ order later mem⟩

namespace Handout.Follows

variable {validity : Nat} {past : List Handout} {handout : Handout}

/-- One of the three ways to serve a request applies. -/
theorem cases (follows : handout.Follows validity past) :
    (Broken past ∧ handout.fetched = [] ∧
      handout.answer = .error (.call (.mutexPoisoned "cached-token"))) ∨
    (¬ Broken past ∧ ∃ issued, lastFetched? past = some issued ∧
      handout.request.askedAt ≤ issued.issuedAt + validity ∧
      handout.fetched = [] ∧ handout.answer = .ok issued.text) ∨
    (¬ Broken past ∧ (∀ issued, lastFetched? past = some issued →
      issued.issuedAt + validity < handout.request.askedAt) ∧
      ∃ outcome, handout.fetched = [outcome] ∧ handout.answer = passedOn outcome) := by
  by_cases broken : Broken past
  · exact .inl ⟨broken, follows.refused broken⟩
  by_cases valid : ∃ issued, lastFetched? past = some issued ∧
      handout.request.askedAt ≤ issued.issuedAt + validity
  · obtain ⟨issued, last, young⟩ := valid
    exact .inr (.inl ⟨broken, issued, last, young, follows.reused broken issued last young⟩)
  · have expired : ∀ issued, lastFetched? past = some issued →
        issued.issuedAt + validity < handout.request.askedAt := fun issued last =>
      Nat.lt_of_not_le fun young => valid ⟨issued, last, young⟩
    exact .inr (.inr ⟨broken, expired, follows.fetches broken expired⟩)

/-- A token that is handed out was fetched for this request or not too long before it. -/
theorem recent (follows : handout.Follows validity past)
    (order : handout.request.askedAt ≤ handout.request.answeredAt) {text : String}
    (given : handout.answer = .ok text) :
    ∃ source ∈ past ++ [handout], source.fetched = [.ok text] ∧
      handout.request.askedAt ≤ source.request.answeredAt + validity := by
  obtain ⟨-, -, answer⟩ | ⟨-, issued, last, young, -, answer⟩ |
    ⟨-, -, outcome, fetched, answer⟩ := follows.cases
  · cases given.symm.trans answer
  · cases given.symm.trans answer
    obtain ⟨source, mem, fetched, issuedAt⟩ := exists_of_lastFetched? last
    exact ⟨source, List.mem_append_left _ mem, fetched, issuedAt ▸ young⟩
  · rw [passedOn_eq_ok_iff.mp (answer.symm.trans given)] at fetched
    exact ⟨handout, List.mem_append_right _ (List.mem_singleton_self _), fetched, by omega⟩

/-- After a failure that the provider came back from, the next request asks again. -/
theorem retries {next : Handout} (follows : handout.Follows validity past)
    (followed : next.Follows validity (past ++ [handout]))
    (order : handout.request.askedAt ≤ next.request.askedAt) {failure : Failure}
    (failed : handout.fetched = [.error failure]) (unharmed : failure ≠ .crashed) :
    ∃ outcome, next.fetched = [outcome] ∧ next.answer = passedOn outcome := by
  have unissued : lastFetched? (past ++ [handout]) = lastFetched? past := by
    simp [lastFetched?_append, Handout.issued?, failed]
  obtain ⟨-, nothing, -⟩ | ⟨-, -, -, -, nothing, -⟩ | ⟨unbroken, expired, -⟩ := follows.cases
  · simp [failed] at nothing
  · simp [failed] at nothing
  · refine followed.fetches ?_ fun issued last => ?_
    · simp [broken_append, unbroken, Handout.Breaks, failed, Ne.symm unharmed]
    · exact Nat.lt_of_lt_of_le (expired issued (unissued ▸ last)) order

/-- While a token is valid the provider is not asked for another one. -/
theorem apart {before between : List Handout} {source : Handout} {text : String}
    (follows : handout.Follows validity (before ++ source :: between))
    (fetched : source.fetched = [.ok text])
    (order : ∀ later ∈ between, source.request.answeredAt ≤ later.request.answeredAt)
    (asks : handout.fetched ≠ []) :
    source.request.answeredAt + validity < handout.request.askedAt := by
  obtain ⟨issued, last, newest⟩ := lastFetched?_of_fetched before fetched order
  obtain ⟨-, nothing, -⟩ | ⟨-, -, -, -, nothing, -⟩ | ⟨-, expired, -⟩ := follows.cases
  · exact absurd nothing asks
  · exact absurd nothing asks
  · have old := expired issued last
    omega

end Handout.Follows

/-- What holds of a request among those before it and after it. -/
structure Handout.WellServed (validity : Nat) (before : List Handout) (handout : Handout)
    (after : List Handout) : Prop where
  follows : handout.Follows validity before
  /-- No token is handed out that is too old. -/
  recent : ∀ text, handout.answer = .ok text →
    ∃ source ∈ before ++ [handout], source.fetched = [.ok text] ∧
      handout.request.askedAt ≤ source.request.answeredAt + validity
  /-- A failure is not kept: the next request asks the provider again. -/
  retries : ∀ failure, handout.fetched = [.error failure] → failure ≠ .crashed →
    ∀ next rest, after = next :: rest →
      ∃ outcome, next.fetched = [outcome] ∧ next.answer = passedOn outcome
  /-- Whenever the provider is asked after it gave a token, that token has expired, all the
  more so when the provider answers. -/
  apart : ∀ text, handout.fetched = [.ok text] → ∀ later ∈ after, later.fetched ≠ [] →
    handout.request.answeredAt + validity < later.request.askedAt ∧
      later.request.askedAt ≤ later.request.answeredAt
  /-- Nobody is served after the provider broke off. -/
  refuses : handout.Breaks → ∀ later ∈ after,
    later.fetched = [] ∧ later.answer = .error (.call (.mutexPoisoned "cached-token"))

/-- Requests in the order of time, seen from one of them. -/
theorem InTimeOrder.split {before after : List TokenRequest} {request : TokenRequest}
    (order : InTimeOrder (before ++ request :: after)) :
    request.askedAt ≤ request.answeredAt ∧ ∀ later ∈ after,
      request.answeredAt ≤ later.askedAt ∧ later.askedAt ≤ later.answeredAt := by
  simp only [InTimeOrder, List.flatMap_append, List.flatMap_cons, List.pairwise_append,
    List.pairwise_cons, List.mem_append, List.mem_flatMap] at order
  obtain ⟨-, ⟨⟨own, -⟩, rest, apart⟩, -⟩ := order
  refine ⟨own _ (List.mem_singleton_self _), fun later mem => ⟨?_, ?_⟩⟩
  · exact apart _ (by simp) _ ⟨later, mem, by simp⟩
  · obtain ⟨between, after, rfl⟩ := List.append_of_mem mem
    simp only [List.flatMap_append, List.flatMap_cons, List.pairwise_append, List.pairwise_cons,
      List.mem_append] at rest
    exact rest.2.1.1.1 _ (List.mem_singleton_self _)

/-- Requests that are served by the rule in the order of time are well served. -/
theorem wellServed_of_follows {validity : Nat} {handouts : List Handout}
    (order : InTimeOrder (handouts.map Handout.request))
    (follows : ∀ before handout after, handouts = before ++ handout :: after →
      handout.Follows validity before)
    {before after : List Handout} {handout : Handout}
    (served : handouts = before ++ handout :: after) :
    handout.WellServed validity before after := by
  subst served
  rw [List.map_append, List.map_cons] at order
  obtain ⟨asked, later_order⟩ := order.split
  have at_later {later : Handout} (mem : later ∈ after) :=
    later_order _ (List.mem_map_of_mem mem)
  have own := follows before handout after rfl
  refine ⟨own, fun text => own.recent asked, ?_, ?_, ?_⟩
  · rintro failure failed unharmed next rest rfl
    have next_follows := follows (before ++ [handout]) next rest (by simp)
    have next_order := (at_later (List.mem_cons_self ..)).1
    exact own.retries next_follows (by omega) failed unharmed
  · intro text fetched later mem asks
    obtain ⟨between, rest, rfl⟩ := List.append_of_mem mem
    have later_follows := follows (before ++ handout :: between) later rest (by simp)
    refine ⟨later_follows.apart fetched (fun middle among => ?_) asks, (at_later mem).2⟩
    have middle_order := at_later (List.mem_append_left _ among)
    omega
  · intro breaks later mem
    obtain ⟨between, rest, rfl⟩ := List.append_of_mem mem
    have later_follows := follows (before ++ handout :: between) later rest (by simp)
    exact later_follows.refused ⟨handout, by simp, breaks⟩

namespace TokenCache

variable {Provider : Type} (fetch : Provider → Except Failure String × Provider)

/-! ## Requests one after the other -/

/-- A provider whose outcomes are written down. -/
def watched (provider : Provider × List (Except Failure String)) :
    Except Failure String × Provider × List (Except Failure String) :=
  let (outcome, asked) := fetch provider.1
  (outcome, asked, provider.2 ++ [outcome])

/-- What comes of a request, and the cache and the provider after it. -/
def serve (cache : TokenCache) (provider : Provider) (request : TokenRequest) :
    Handout × TokenCache × Provider :=
  let (answer, settled, asked, fetched) :=
    cache.get (watched fetch) request.askedAt request.answeredAt (provider, [])
  (⟨request, fetched, answer⟩, settled, asked)

/-- What comes of requests. -/
def serveAll : TokenCache → Provider → List TokenRequest → List Handout
  | _, _, [] => []
  | cache, provider, request :: rest =>
      let (handout, settled, asked) := cache.serve fetch provider request
      handout :: serveAll settled asked rest

private theorem serveAll_cons (cache : TokenCache) (provider : Provider) (request : TokenRequest)
    (rest : List TokenRequest) :
    serveAll fetch cache provider (request :: rest) =
      (cache.serve fetch provider request).1 ::
        serveAll fetch (cache.serve fetch provider request).2.1
          (cache.serve fetch provider request).2.2 rest := rfl

/-- Writing outcomes down changes neither the answer nor what is left behind. -/
theorem serve_eq (cache : TokenCache) (provider : Provider) (request : TokenRequest) :
    ((cache.serve fetch provider request).1.answer, (cache.serve fetch provider request).2) =
      cache.get fetch request.askedAt request.answeredAt provider := by
  unfold serve get
  cases cache.cell.read with
  | error failure => rfl
  | ok value =>
      cases cache.fresh? request.askedAt with
      | none => rfl
      | some issued => rfl

/-- All that can come of a request. -/
inductive Serves (cache : TokenCache) (request : TokenRequest) : Handout → TokenCache → Prop
  | refuse (poisoned : cache.cell.poisoned = true) :
      Serves cache request
        ⟨request, [], .error (.call (.mutexPoisoned cache.cell.label))⟩ cache
  | reuse {issued : IssuedToken} (sound : cache.cell.poisoned = false)
      (kept : cache.cell.value = some issued)
      (valid : request.askedAt ≤ issued.issuedAt + cache.validity) :
      Serves cache request ⟨request, [], .ok issued.text⟩ cache
  | fetch (outcome : Except Failure String) (sound : cache.cell.poisoned = false)
      (expired : ∀ issued, cache.cell.value = some issued →
        issued.issuedAt + cache.validity < request.askedAt) :
      Serves cache request ⟨request, [outcome], passedOn outcome⟩
        (cache.settle request.answeredAt outcome).2

private theorem settle_fst (cache : TokenCache) (fetchedAt : Nat)
    (outcome : Except Failure String) :
    (cache.settle fetchedAt outcome).1 = passedOn outcome := by
  cases outcome with
  | ok text => rfl
  | error failure => cases failure <;> rfl

/-- A failure leaves the cache as it is, with the token that had expired. -/
theorem settle_failed (cache : TokenCache) (fetchedAt : Nat) {failure : Failure}
    (failed : failure ≠ .crashed) : (cache.settle fetchedAt (.error failure)).2 = cache := by
  cases failure with
  | crashed => exact absurd rfl failed
  | _ => rfl

private theorem serves_serve (cache : TokenCache) (provider : Provider) (request : TokenRequest) :
    Serves cache request (cache.serve fetch provider request).1
      (cache.serve fetch provider request).2.1 := by
  unfold serve get
  cases poisoned : cache.cell.poisoned with
  | true =>
      have refused : cache.cell.read = .error (.call (.mutexPoisoned cache.cell.label)) :=
        if_pos poisoned
      rw [refused]
      exact .refuse poisoned
  | false =>
      have opened : cache.cell.read = .ok cache.cell.value := if_neg (by simp [poisoned])
      rw [opened]
      cases fresh : cache.fresh? request.askedAt with
      | some issued =>
          obtain ⟨kept, valid⟩ := Option.filter_eq_some_iff.mp fresh
          have young := of_decide_eq_true valid
          exact .reuse poisoned kept (by omega)
      | none =>
          have expired : ∀ issued, cache.cell.value = some issued →
              issued.issuedAt + cache.validity < request.askedAt := by
            intro issued kept
            have old := Option.filter_eq_none_iff.mp fresh issued kept
            simp only [decide_eq_true_eq] at old
            omega
          have served := Serves.fetch (fetch provider).1 poisoned expired
          rw [← settle_fst cache request.answeredAt] at served
          exact served

/-! ## What a cache remembers -/

/-- A cache stands for the requests it has served: it is poisoned if a provider broke off, and
holds the token that was fetched last. -/
structure Remembers (validity : Nat) (cache : TokenCache) (past : List Handout) : Prop where
  validity : cache.validity = validity
  label : cache.cell.label = "cached-token"
  poisoned : cache.cell.poisoned = true ↔ Broken past
  value : cache.cell.value = lastFetched? past

private theorem remembers_empty (validity : Nat) : Remembers validity (empty validity) [] where
  validity := rfl
  label := rfl
  poisoned := by simp [empty, GuardedCell.make, Broken]
  value := rfl

/-- A request for which nothing was fetched leaves the memory as it is. -/
theorem Remembers.append_quiet {validity : Nat} {cache : TokenCache} {past : List Handout}
    (remembers : Remembers validity cache past) (request : TokenRequest)
    (answer : Except Failure String) :
    Remembers validity cache (past ++ [⟨request, [], answer⟩]) where
  validity := remembers.validity
  label := remembers.label
  poisoned := by simp [broken_append, remembers.poisoned, Handout.Breaks]
  value := remembers.value.trans (lastFetched?_append past ⟨request, [], answer⟩).symm

/-- What was fetched is remembered as the provider gave it. -/
theorem Remembers.append_fetched {validity : Nat} {cache : TokenCache} {past : List Handout}
    (remembers : Remembers validity cache past) (sound : cache.cell.poisoned = false)
    (request : TokenRequest) (outcome : Except Failure String) :
    Remembers validity (cache.settle request.answeredAt outcome).2
      (past ++ [⟨request, [outcome], passedOn outcome⟩]) := by
  have unbroken : ¬ Broken past := by simp [← remembers.poisoned, sound]
  have broken := broken_append past ⟨request, [outcome], passedOn outcome⟩
  have last := lastFetched?_append past ⟨request, [outcome], passedOn outcome⟩
  -- a token takes the place of the last one, a failure leaves it there though it has expired
  cases outcome with
  | ok text =>
      exact ⟨remembers.validity, remembers.label,
        by simp [broken, unbroken, settle, GuardedCell.put, sound, Handout.Breaks], last.symm⟩
  | error failure =>
      by_cases crashed : failure = .crashed
      · subst crashed
        exact ⟨remembers.validity, remembers.label,
          by simp [broken, settle, GuardedCell.poison, Handout.Breaks],
          remembers.value.trans last.symm⟩
      · rw [settle_failed cache request.answeredAt crashed]
        exact ⟨remembers.validity, remembers.label,
          by simp [broken, unbroken, sound, Handout.Breaks, Ne.symm crashed],
          remembers.value.trans last.symm⟩

/-- One request is served by the rule, and the cache remembers it. -/
theorem Serves.follows {validity : Nat} {cache settled : TokenCache} {past : List Handout}
    {request : TokenRequest} {handout : Handout} (serves : Serves cache request handout settled)
    (remembers : Remembers validity cache past) :
    handout.Follows validity past ∧ Remembers validity settled (past ++ [handout]) := by
  cases serves with
  | refuse poisoned =>
      have broken := remembers.poisoned.mp poisoned
      exact ⟨⟨fun _ => ⟨rfl, by rw [remembers.label]⟩, (absurd broken ·), (absurd broken ·)⟩,
        remembers.append_quiet ..⟩
  | reuse sound kept valid =>
      rw [remembers.validity] at valid
      rw [remembers.value] at kept
      refine ⟨⟨fun broken => ?_, fun _ issued last _ => ?_, fun _ expired => ?_⟩,
        remembers.append_quiet ..⟩
      · exact absurd (remembers.poisoned.mpr broken) (by simp [sound])
      · cases kept.symm.trans last
        exact ⟨rfl, rfl⟩
      · exact absurd (expired _ kept) (Nat.not_lt.mpr valid)
  | fetch outcome sound expired =>
      rw [remembers.validity, remembers.value] at expired
      refine ⟨⟨fun broken => ?_, fun _ issued last valid => ?_, fun _ _ => ⟨outcome, rfl, rfl⟩⟩,
        remembers.append_fetched sound request outcome⟩
      · exact absurd (remembers.poisoned.mpr broken) (by simp [sound])
      · exact absurd (expired issued last) (Nat.not_lt.mpr valid)

/-- All requests are served by the rule. -/
theorem Remembers.serveAll_follows {validity : Nat} {cache : TokenCache} {past : List Handout}
    (remembers : Remembers validity cache past) {provider : Provider}
    {requests : List TokenRequest} {before after : List Handout} {handout : Handout}
    (served : serveAll fetch cache provider requests = before ++ handout :: after) :
    handout.Follows validity (past ++ before) := by
  induction requests generalizing cache provider past before with
  | nil => simp [serveAll] at served
  | cons request rest ih =>
      -- the past that the cache remembers grows by the request that was served first
      rw [serveAll_cons] at served
      obtain ⟨follows, remembers'⟩ := (serves_serve fetch cache provider request).follows remembers
      cases before with
      | nil =>
          cases (List.cons.inj served).1
          simpa using follows
      | cons first before =>
          obtain ⟨rfl, rest_eq⟩ := List.cons.inj served
          simpa using ih remembers' rest_eq

private theorem serveAll_requests (cache : TokenCache) (provider : Provider)
    (requests : List TokenRequest) :
    (serveAll fetch cache provider requests).map Handout.request = requests := by
  induction requests generalizing cache provider with
  | nil => rfl
  | cons request rest ih => exact congrArg (request :: ·) (ih ..)

/-- Whatever a provider does, in the order of time each request to a new cache is served by
the rule: while the token that was fetched last is valid it is handed out again and the provider
is not asked, otherwise it is asked once, what it gives is kept if it is a token, and a failure
is put into words and forgotten. No token that is handed out is too old, none is fetched before
the last one has expired, and after the provider broke off every request fails. -/
theorem served_by_rule (validity : Nat) (provider : Provider) {requests : List TokenRequest}
    (order : InTimeOrder requests) :
    (serveAll fetch (empty validity) provider requests).map Handout.request = requests ∧
    ∀ before handout after,
      serveAll fetch (empty validity) provider requests = before ++ handout :: after →
        handout.WellServed validity before after := by
  have in_order := serveAll_requests fetch (empty validity) provider requests
  refine ⟨in_order, fun before handout after served => ?_⟩
  rw [← in_order] at order
  exact wellServed_of_follows order
    (fun earlier _ _ served => (remembers_empty validity).serveAll_follows fetch served) served

/-- A token is handed out up to the moment it expires and no longer, a failure is followed by
another attempt, and a provider that breaks off is not asked again. -/
theorem served_by_rule_until_broken :
    let fetch (script : List (Except Failure String)) :=
      (script.headD (.error .crashed), script.tail)
    let script := [.ok "fresh", .error .malformedJson, .error .crashed]
    let requests : List TokenRequest := [⟨0, 1⟩, ⟨11, 11⟩, ⟨12, 12⟩, ⟨13, 14⟩, ⟨15, 16⟩]
    let handouts : List Handout :=
      [⟨⟨0, 1⟩, [.ok "fresh"], .ok "fresh"⟩, ⟨⟨11, 11⟩, [], .ok "fresh"⟩,
        ⟨⟨12, 12⟩, [.error .malformedJson],
          .error (.call (.tokenFetch Failure.malformedJson.summary))⟩,
        ⟨⟨13, 14⟩, [.error .crashed], .error .crashed⟩,
        ⟨⟨15, 16⟩, [], .error (.call (.mutexPoisoned "cached-token"))⟩]
    InTimeOrder requests ∧ serveAll fetch (empty 10) script requests = handouts ∧
      ∀ before handout after, handouts = before ++ handout :: after →
        handout.WellServed 10 before after := by
  intro fetch script requests handouts
  have order : InTimeOrder requests := by decide
  have served : serveAll fetch (empty 10) script requests = handouts := rfl
  exact ⟨order, served, served ▸ (served_by_rule fetch 10 script order).2⟩

end TokenCache

end CallControl
