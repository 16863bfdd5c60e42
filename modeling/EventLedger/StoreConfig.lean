import EventLedger.Backoff

/-!
# Settings of a store

How often and how fast an update is tried again after a conflict, how many passes upgrading may
take, and how long a stream stays in the cache.

## Main definitions

* `StoreConfig`, `StoreConfig.decode` — the settings, and how they are read from JSON.
-/

namespace EventLedger

/-- The settings of a store. -/
structure StoreConfig where
  /-- Retries of an update after conflicts. -/
  maxConflictRetries : Nat := 5
  /-- The delays before them. -/
  backoff : BackoffSetting := .exponential 10 500
  /-- Passes that upgrading one event may take. -/
  maxUpgradePasses : Nat := 16
  /-- Seconds that a stream stays in the cache. -/
  cacheSeconds : Nat := 60
  deriving DecidableEq, Repr, Inhabited

namespace StoreConfig

/-- The fields of the settings, each of which may be left out. -/
def shape : RecordShape :=
  { name := "struct AggregateStoreConfig"
    fields := [("max_concurrency_retries", Json.check (Json.readWord Json.word32)),
      ("backoff", Json.check BackoffSetting.decode),
      ("max_upgrade_iterations", Json.check (Json.readWord Json.size64)),
      ("cache_ttl_secs", Json.check (Json.readWord Json.word64))]
    optional := true }

/-- The settings that a value describes; what it leaves out has its default. -/
def decode (j : Json) : Except DecodeError StoreConfig := do
  let fields ← shape.read j
  let standard : StoreConfig := {}
  let retries ← Json.fieldOr fields "max_concurrency_retries" (Json.readWord Json.word32)
    standard.maxConflictRetries
  let backoff ← Json.fieldOr fields "backoff" BackoffSetting.decode standard.backoff
  let passes ← Json.fieldOr fields "max_upgrade_iterations" (Json.readWord Json.size64)
    standard.maxUpgradePasses
  let seconds ← Json.fieldOr fields "cache_ttl_secs" (Json.readWord Json.word64)
    standard.cacheSeconds
  pure ⟨retries, backoff, passes, seconds⟩

end StoreConfig

end EventLedger
