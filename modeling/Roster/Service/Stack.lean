import Roster.Log.Event
import Roster.Redis.Client
import Roster.Service.Cached

/-!
# The service as it is set

Which cache stands in front of a service is a matter of settings: none, a local tier alone, or a local
tier in front of a Redis server.

* `CachePlan.ofSettings` says which cache the settings ask for, and `CachePlan.layered` is that cache.
* `stacked` is a service behind a cache, if there is one.
-/

namespace Roster.Service

open Roster.Cache Roster.Log Roster.Text Roster.Time

/-- What a cache is made of. -/
structure CachePlan where
  sizing : Sizing
  ttl : Duration
  timeout : Duration
  remote : Option Redis.Client
  deriving DecidableEq, Repr

namespace CachePlan

/-- The cache that settings ask for. The remote tier is looked at only if there is a cache at all. -/
def ofSettings (cache : CacheSettings) (redis : RedisSettings) : Except Failure (Option CachePlan) :=
  if !cache.enabled then .ok none
  else
    let plan (remote : Option Redis.Client) : CachePlan :=
      ⟨⟨cache.maxCost, cache.numCounters, cache.bufferItems⟩, cache.ttl, cache.remoteTimeout, remote⟩
    if !redis.enabled then .ok (some (plan none))
    else match Redis.Client.ofSettings redis with
      | .error e => .error e
      | .ok client => .ok (some (plan (some client)))

/-- The local tier of a new cache. -/
def near (p : CachePlan) : Local := .ofSizing p.sizing

/-- The cache, given the servers behind the addresses. -/
def layered {ρ : Type} (server : Redis.Address → Redis.Server ρ) (p : CachePlan) : Layered ρ :=
  ⟨p.remote.map fun client => client.tier (server client.address), p.ttl, p.timeout⟩

/-- The event that a cache has been made, or that there is none. -/
def event (plan : Option CachePlan) : Event :=
  .info "strata_service::bootstrap" <| match plan with
    | none => "User cache disabled"
    | some p =>
      let cost := "max_cost=" ++ String.ofList (decimal p.sizing.maxCost)
      if p.remote.isSome then
        "User cache: local " ++ cost ++ " + redis ttl=" ++ String.ofList (decimal p.ttl.toSeconds) ++ "s"
      else "User cache: local only, " ++ cost

end CachePlan

/-- A service without a cache in the state of one with a cache. -/
def uncached {σ ρ : Type} (behind : UserService σ) : UserService (CachedState σ ρ) where
  run op s := ((behind.run op s.behind).1, { s with behind := (behind.run op s.behind).2 })
  transact body s :=
    ((behind.transact body s.behind).1, { s with behind := (behind.transact body s.behind).2 })

/-- A service behind a cache, if there is one. -/
def stacked {σ ρ : Type} (behind : UserService σ) : Option (Layered ρ) → UserService (CachedState σ ρ)
  | some cache => cached behind cache
  | none => uncached behind

end Roster.Service
