import Mathlib.Data.List.AList

/-!
# Metrics and rate limiting

The counters of `zo-tunnel-server/src/metrics.rs` and its rate limiter. The counters are
`AtomicU64`, whose `fetch_add` and `fetch_sub` wrap, as the operations on `UInt64` do. An `Instant`
is a number of nanoseconds.
-/

namespace ZoTunnel

/-- A point on the monotonic clock, in nanoseconds. -/
abbrev Instant := ℕ

/-- `now.duration_since(start).as_secs()`, which is zero when `start` is later. -/
def secsSince (now start : Instant) : ℕ := (now - start) / 1000000000

/-- Server-wide metrics. -/
structure Metrics where
  totalRequests : UInt64
  activeConnections : UInt64
  totalConnections : UInt64
  failedAuth : UInt64
  rateLimited : UInt64
  deriving DecidableEq, Repr

/-- `Metrics::new`. -/
def Metrics.new : Metrics := ⟨0, 0, 0, 0, 0⟩

/-- Simple per-key sliding-window rate limiter: the start of a key's window, and how many requests
the window has admitted. -/
structure RateLimiter where
  maxPerSecond : UInt32
  counters : AList fun _ : String => Instant × UInt32

/-- `RateLimiter::new`. -/
def RateLimiter.new (maxPerSecond : UInt32) : RateLimiter := ⟨maxPerSecond, ∅⟩

/-- Whether the request is allowed, and the limiter after it. -/
def RateLimiter.check (limiter : RateLimiter) (key : String) (now : Instant) :
    Bool × RateLimiter :=
  if limiter.maxPerSecond = 0 then (true, limiter)
  else
    let (windowStart, count) := (limiter.counters.lookup key).getD (now, 0)
    if secsSince now windowStart ≥ 1 then
      (true, { limiter with counters := limiter.counters.insert key (now, 1) })
    else if count < limiter.maxPerSecond then
      (true, { limiter with counters := limiter.counters.insert key (windowStart, count + 1) })
    else
      (false, { limiter with counters := limiter.counters.insert key (windowStart, count) })

/-- A check leaves a limiter with no limit as it is. -/
theorem RateLimiter.check_of_zero {limiter : RateLimiter} (h : limiter.maxPerSecond = 0)
    (key : String) (now : Instant) : limiter.check key now = (true, limiter) := by
  unfold check
  rw [if_pos h]

/-- A check adds its key to the table, whether it admits the request or not. -/
theorem RateLimiter.mem_check {limiter : RateLimiter} (h : limiter.maxPerSecond ≠ 0)
    (key : String) (now : Instant) (k : String) :
    k ∈ (limiter.check key now).2.counters ↔ k = key ∨ k ∈ limiter.counters := by
  unfold check
  rw [if_neg h]
  dsimp only
  split_ifs <;> exact AList.mem_insert _

end ZoTunnel
