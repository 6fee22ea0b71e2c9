import CallControl.Platform.TokenScript
import CallControl.TokenCache

/-! # Scripts for guarded cells and token caches

A cell is changed by holders that add to it and may break off; a cache is asked for
tokens with pauses in between. Time at a cache passes in microseconds: one for each
request, so that no two requests fall together, and a little over three thousand for
a pause.
-/

namespace CallControl.Bench

/-- A holder of a cell: what it adds and whether it breaks off. -/
structure Holder where
  amount : Int64
  breaksOff : Bool
  deriving Repr, DecidableEq

/-- What each of some holders of a cell is answered. -/
def runHolders (cell : GuardedCell Int64) : List Holder → List (Except Failure Int64)
  | [] => []
  | holder :: rest =>
      let (result, next) := cell.change (· + holder.amount) holder.breaksOff
      result :: runHolders next rest

/-- What a cell with a label is answered from its beginning. -/
def runCellScript (label : String) (holders : List Holder) : List (Except Failure Int64) :=
  runHolders (.make label 0) holders

/-- A step at a cache. -/
inductive CacheStep where
  | get
  | pause
  deriving Repr, DecidableEq

/-- The provider behind a cache: a fixed token or a script. -/
inductive CacheProvider where
  | fixed (token : String)
  | script (script : TokenScript)
  deriving Repr

namespace CacheProvider

/-- One call of a provider. -/
def fetch : CacheProvider → Except Failure String × CacheProvider
  | .fixed token => (.ok token, .fixed token)
  | .script answers =>
      let (outcome, next) := answers.fetch
      (outcome, .script next)

/-- How often a script was called. -/
def calls : CacheProvider → Nat
  | .fixed _ => 0
  | .script answers => answers.calls

end CacheProvider

/-- What a request is answered, and how often the provider was called so far. -/
structure CacheReport where
  result : Except Failure String
  calls : Nat

/-- The reports of the requests among some steps. -/
def runCache (now : Nat) (cache : TokenCache) (provider : CacheProvider) :
    List CacheStep → List CacheReport
  | [] => []
  | .pause :: rest => runCache (now + 3001) cache provider rest
  | .get :: rest =>
      let (result, next, asked) := cache.get CacheProvider.fetch now now provider
      ⟨result, asked.calls⟩ :: runCache (now + 1) next asked rest

/-- The reports of a cache with a validity in milliseconds from its beginning. -/
def runCacheScript (validity : Nat) (provider : CacheProvider) (steps : List CacheStep) :
    List CacheReport :=
  runCache 0 (.empty (validity * 1000)) provider steps

end CallControl.Bench
