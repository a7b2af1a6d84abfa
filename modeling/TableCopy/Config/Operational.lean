import TableCopy.Duration
import TableCopy.Error

/-!
# Operational constants

Limits that are fixed for a run and never computed from the tables: connections,
pool sizes, batch and page sizes.
-/

namespace TableCopy

structure OperationalConfig where
  /-- Requests in flight per client; each side has its own client. -/
  maxConnections : Nat
  /-- Preferred core size of both pools. -/
  corePoolSize : Nat
  /-- Idle time after which threads above the core leave. -/
  keepAliveMillis : Nat
  batchWriteSize : Nat
  /-- Most items of one page; unset leaves it to the service. -/
  scanPageLimit : Option Int
  deriving DecidableEq, Repr

namespace OperationalConfig

/-- The constants of a machine with the given number of processors. -/
def defaults (processors : Nat) : OperationalConfig where
  maxConnections := 200
  corePoolSize := processors * 4
  keepAliveMillis := 60000
  batchWriteSize := 25
  scanPageLimit := none

/-- The keep-alive in nanoseconds. -/
def keepAlive (config : OperationalConfig) : Nat := Duration.ofMillis config.keepAliveMillis

/-- Reject constants that the service or the pools cannot work with. -/
def validate (config : OperationalConfig) : Except CopyError Unit :=
  if config.maxConnections = 0 then
    .error (.invalidParameter "max_connections must be at least 1")
  else if config.corePoolSize = 0 then
    .error (.invalidParameter "executor_core_pool_size must be at least 1")
  else if config.batchWriteSize < 1 ∨ 25 < config.batchWriteSize then
    .error (.invalidParameter
      ("batch_write_size must be within 1..=25, got " ++ toString config.batchWriteSize))
  else .ok ()

theorem validate_eq_ok_iff (config : OperationalConfig) :
    config.validate = .ok () ↔
      1 ≤ config.maxConnections ∧ 1 ≤ config.corePoolSize ∧
        1 ≤ config.batchWriteSize ∧ config.batchWriteSize ≤ 25 := by
  unfold validate
  split
  · simp; omega
  · split
    · simp; omega
    · split
      · simp; omega
      · simp; omega

end OperationalConfig
end TableCopy
