-- The circuit breaker of one provider. After enough failures in a row it opens
-- and rejects calls; after a while it lets calls through again on trial.
import FeedSearch.Time.Span

namespace FeedSearch

open Time

/-- A time of the running clock, in nanoseconds since it started. -/
abbrev Instant := Nat

/-! ## State -/

inductive BreakerState where
  | closed
  | opened
  | halfOpen
  deriving DecidableEq, Repr, Inhabited

def BreakerState.name : BreakerState → String
  | .closed => "closed"
  | .opened => "open"
  | .halfOpen => "half-open"

/-- The state as a number: 0 closed, 1 half open, 2 open. -/
def BreakerState.gauge : BreakerState → Nat
  | .closed => 0
  | .halfOpen => 1
  | .opened => 2

/-- How many failures in a row open a breaker, and how long it stays open. -/
structure BreakerConfig where
  maxFailures : UInt32
  resetTimeout : Span
  deriving DecidableEq, Repr

def BreakerConfig.standard : BreakerConfig := { maxFailures := 5, resetTimeout := .ofSeconds 30 }

structure Breaker where
  state : BreakerState
  failures : Nat
  successes : Nat
  lastFailure : Option Instant
  deriving DecidableEq, Repr

namespace Breaker

/-- A new breaker. -/
def fresh : Breaker := { state := .closed, failures := 0, successes := 0, lastFailure := none }

instance : Inhabited Breaker := ⟨fresh⟩

/-! ## Operations -/

/-- Successes on trial that close the breaker again. -/
def trialSuccesses : Nat := 2

/-- Whether the time for which an open breaker rejects calls is over. -/
def cooledDown (c : BreakerConfig) (b : Breaker) (now : Instant) : Bool :=
  match b.lastFailure with
  | none => true
  | some failed => c.resetTimeout.toNanos ≤ now - failed

/-- Whether a call may start. An open breaker that has cooled down goes on trial with it. -/
def enter (c : BreakerConfig) (b : Breaker) (now : Instant) : Bool × Breaker :=
  match b.state with
  | .opened =>
    if b.cooledDown c now then (true, { b with state := .halfOpen, failures := 0, successes := 0 })
    else (false, b)
  | _ => (true, b)

/-- Failures are counted in 32 bits and stop at the largest count. -/
def oneMore (failures : Nat) : Nat := min (failures + 1) Number.maxCount32

/-- A call has failed. -/
def onFailure (c : BreakerConfig) (b : Breaker) (now : Instant) : Breaker :=
  let b := { b with failures := oneMore b.failures, lastFailure := some now }
  match b.state with
  | .halfOpen => { b with state := .opened, failures := 1, successes := 0 }
  | .closed => if c.maxFailures.toNat ≤ b.failures then { b with state := .opened } else b
  | .opened => b

/-- A call has succeeded. -/
def onSuccess (b : Breaker) : Breaker :=
  match b.state with
  | .halfOpen =>
    if trialSuccesses ≤ b.successes + 1 then
      { b with state := .closed, failures := 0, successes := 0 }
    else { b with failures := 0, successes := b.successes + 1 }
  | .opened => { b with state := .closed, failures := 0, successes := 0 }
  | .closed => { b with failures := 0 }

/-- Closes the breaker and clears its counts. The time of the last failure stays. -/
def reset (b : Breaker) : Breaker := { b with state := .closed, failures := 0, successes := 0 }

end Breaker

end FeedSearch
