import CallControl.GuardedCell

/-! # Cached tokens

A cache hands out the last bearer token again while it is valid. It asks its provider
at most once per request, keeps only successes, and is poisoned by a provider that
breaks off (`TokenCache.get`).
-/

namespace CallControl

/-- A token with the time at which it was fetched. -/
structure IssuedToken where
  text : String
  issuedAt : Nat
  deriving Repr, DecidableEq

/-- A cache that hands out a token for some time after it was fetched. -/
structure TokenCache where
  validity : Nat
  cell : GuardedCell (Option IssuedToken)
  deriving Repr

namespace TokenCache

/-- A cache without a token. -/
def empty (validity : Nat) : TokenCache := ⟨validity, .make "cached-token" none⟩

/-- The token that may still be handed out. -/
def fresh? (cache : TokenCache) (now : Nat) : Option IssuedToken :=
  cache.cell.value.filter fun issued => now - issued.issuedAt ≤ cache.validity

/-- The cache after its provider was asked, and the answer to the request. -/
def settle (cache : TokenCache) (fetchedAt : Nat) :
    Except Failure String → Except Failure String × TokenCache
  | .ok text => (.ok text, { cache with cell := cache.cell.put (some ⟨text, fetchedAt⟩) })
  | .error .crashed => (.error .crashed, { cache with cell := cache.cell.poison })
  | .error failure => (.error (.call (.tokenFetch failure.summary)), cache)

/-- A request at a time. Only when no fresh token is at hand the provider is asked,
and its token counts as issued when the provider has answered. -/
def get {Provider : Type} (fetch : Provider → Except Failure String × Provider)
    (now fetchedAt : Nat) (cache : TokenCache) (provider : Provider) :
    Except Failure String × TokenCache × Provider :=
  match cache.cell.read with
  | .error failure => (.error failure, cache, provider)
  | .ok _ =>
      match cache.fresh? now with
      | some issued => (.ok issued.text, cache, provider)
      | none =>
          let (outcome, asked) := fetch provider
          let (answer, settled) := cache.settle fetchedAt outcome
          (answer, settled, asked)

end TokenCache

end CallControl
