import Mathlib.Algebra.Order.Group.Nat
import ZoTunnel.Lib.FixedWindow
import ZoTunnel.Lib.Run
import ZoTunnel.Server.Metrics

/-!
# What the rate limiter guarantees

Runs of `RateLimiter::check` at non-decreasing instants, with a record of the answers. The limiter
keeps one window for each key, which starts over with the first call that comes a second or more
after its start, and then forgets what it admitted before. `Recalls` ties a key's window to the
calls that were admitted.

No call is refused without reason (`throttled_justly`): a full window began less than a second ago.
The other direction, the sliding window of the limiter's own description, fails at a restart.
`CountsWindows` says what the limiter admits in terms of the instants of the calls: the first of
each window that these fall into. So the sliding window holds when these windows are apart, and
`within_limit_iff` proves that it holds for no other instants.
-/

namespace ZoTunnel

open Transition

/-- A second, in nanoseconds. -/
def second : ℕ := 1000000000

/-- A call of `check` with a key, at an instant. -/
structure CheckCall where
  key : String
  now : Instant
  deriving DecidableEq, Repr

/-- A limiter, the instant of the last call, and the calls so far with their answers, latest first.
-/
structure LimiterRun where
  limiter : RateLimiter
  clock : Instant
  answered : List (CheckCall × Bool)

/-- A new limiter that was not called. -/
def LimiterRun.new (maxPerSecond : UInt32) : LimiterRun := ⟨.new maxPerSecond, 0, []⟩

/-- The instants of the calls with this key that were answered with true. -/
def LimiterRun.admitted (r : LimiterRun) (key : String) : List Instant :=
  (r.answered.filter fun a => a.1.key = key && a.2).map fun a => a.1.now

/-- One call, which is no earlier than the last one. -/
def checkStep (r : LimiterRun) (c : CheckCall) : Option LimiterRun :=
  if r.clock ≤ c.now then
    let (answer, limiter) := r.limiter.check c.key c.now
    some ⟨limiter, c.now, (c, answer) :: r.answered⟩
  else none

/-- The window that a call with this key is counted in, with the calls it has admitted before. -/
def RateLimiter.window (limiter : RateLimiter) (key : String) (now : Instant) : Instant × UInt32 :=
  let (windowStart, count) := (limiter.counters.lookup key).getD (now, 0)
  if secsSince now windowStart ≥ 1 then (now, 0) else (windowStart, count)

/-- No half-open interval of one second has more than `maxPerSecond` admitted calls of one key. -/
def WithinLimit (r : LimiterRun) : Prop :=
  ∀ key, Sliding.AtMost r.limiter.maxPerSecond.toNat second (r.admitted key)

/-- The instants of the calls with this key, in their order. -/
def instantsOf (key : String) (calls : List CheckCall) : List Instant :=
  (calls.filter fun c => c.key = key).map fun c => c.now

/-- The calls so far, in their order. -/
def LimiterRun.calls (r : LimiterRun) : List CheckCall := (r.answered.map fun a => a.1).reverse

/-- The windows that the calls with this key fall into so far, latest first. -/
def LimiterRun.windows (r : LimiterRun) (key : String) : List (Sliding.Window Instant) :=
  Sliding.windows second (instantsOf key r.calls)

/-- A call is refused only when there is a limit, and when as many calls with its key were admitted
in the second up to it. -/
def RefusedJustly (r : LimiterRun) (c : CheckCall) (r' : LimiterRun) : Prop :=
  r'.answered.head? = some (c, false) →
    0 < r.limiter.maxPerSecond ∧ r.limiter.maxPerSecond.toNat ≤
      (r.admitted c.key).countP fun t => t ≤ c.now ∧ c.now < t + second

/-- A window, as it is stored for a key, counts the admitted calls from its start on, and there is
none from a second after its start on. -/
structure WindowCounts (maxPerSecond : UInt32) (clock : Instant) (admitted : List Instant)
    (window : Instant × UInt32) : Prop where
  started : window.1 ≤ clock
  count_le : window.2 ≤ maxPerSecond
  count_eq : window.2.toNat = admitted.countP fun t => window.1 ≤ t
  recent : ∀ t ∈ admitted, t < window.1 + second

/-- What the limiter's entry for a key says about the calls that were admitted. -/
structure Recalls (r : LimiterRun) (key : String) : Prop where
  past : ∀ t ∈ r.admitted key, t ≤ r.clock
  absent : r.limiter.counters.lookup key = none → r.admitted key = []
  present : ∀ window, r.limiter.counters.lookup key = some window →
    WindowCounts r.limiter.maxPerSecond r.clock (r.admitted key) window

/-- A call is answered by the limiter, and recorded. -/
theorem checkStep_eq (r : LimiterRun) (c : CheckCall) :
    checkStep r c = if r.clock ≤ c.now then
      some ⟨(r.limiter.check c.key c.now).2, c.now,
        (c, (r.limiter.check c.key c.now).1) :: r.answered⟩
    else none := rfl

/-- A second has passed when the difference is at least a second. -/
theorem secsSince_ge_one (now start : ℕ) : secsSince now start ≥ 1 ↔ start + second ≤ now := by
  unfold secsSince second
  omega

/-- A check by the call's window: it is admitted if the window has room, and counted then. -/
theorem RateLimiter.check_eq {limiter : RateLimiter} (h : limiter.maxPerSecond ≠ 0) (key : String)
    (now : Instant) :
    limiter.check key now =
      if (limiter.window key now).2 < limiter.maxPerSecond then
        (true, ⟨limiter.maxPerSecond, limiter.counters.insert key
          ((limiter.window key now).1, (limiter.window key now).2 + 1)⟩)
      else
        (false, ⟨limiter.maxPerSecond,
          limiter.counters.insert key (limiter.window key now)⟩) := by
  have hpos : (0 : UInt32) < limiter.maxPerSecond := UInt32.pos_iff_ne_zero.mpr h
  unfold check window
  rw [if_neg h]
  dsimp only
  by_cases hsecond : secsSince now ((limiter.counters.lookup key).getD (now, 0)).1 ≥ 1
  · simp only [if_pos hsecond, if_pos hpos, UInt32.zero_add]
  · simp only [if_neg hsecond]

/-- A check leaves the limit as it is. -/
theorem RateLimiter.check_maxPerSecond (limiter : RateLimiter) (key : String) (now : Instant) :
    (limiter.check key now).2.maxPerSecond = limiter.maxPerSecond := by
  unfold check
  dsimp only
  split_ifs <;> rfl

/-- A check leaves the entries of other keys as they are. -/
theorem RateLimiter.check_lookup_ne (limiter : RateLimiter) {key k : String} (h : k ≠ key)
    (now : Instant) :
    (limiter.check key now).2.counters.lookup k = limiter.counters.lookup k := by
  unfold check
  dsimp only
  split_ifs
  · rfl
  all_goals exact AList.lookup_insert_ne h

/-- A call's window began before the call, less than a second ago, and counts the calls that were
admitted since. -/
theorem Recalls.window {r : LimiterRun} {c : CheckCall} (h : Recalls r c.key)
    (hclock : r.clock ≤ c.now) :
    WindowCounts r.limiter.maxPerSecond c.now (r.admitted c.key) (r.limiter.window c.key c.now) ∧
      c.now < (r.limiter.window c.key c.now).1 + second := by
  have hnew : c.now < c.now + second := Nat.lt_add_of_pos_right (by decide)
  unfold RateLimiter.window
  cases hlookup : r.limiter.counters.lookup c.key with
  | none =>
    have hnone := h.absent hlookup
    have hcounts : WindowCounts r.limiter.maxPerSecond c.now (r.admitted c.key) (c.now, 0) := by
      rw [hnone]
      exact ⟨le_rfl, UInt32.zero_le, rfl, by simp⟩
    simp only [Option.getD_none, ite_self]
    exact ⟨hcounts, hnew⟩
  | some window =>
    obtain ⟨hstarted, hle, heq, hrecent⟩ := h.present window hlookup
    dsimp only [Option.getD_some]
    by_cases hsecond : secsSince c.now window.1 ≥ 1
    · -- The window starts over, after all calls that it has admitted.
      have hover : window.1 + second ≤ c.now := (secsSince_ge_one c.now window.1).mp hsecond
      have hbefore : ∀ t ∈ r.admitted c.key, t < c.now := fun t ht =>
        lt_of_lt_of_le (hrecent t ht) hover
      have hzero : (r.admitted c.key).countP (fun t => c.now ≤ t) = 0 := by
        rw [List.countP_eq_zero]
        intro t ht
        simpa using hbefore t ht
      rw [if_pos hsecond]
      refine ⟨⟨le_rfl, UInt32.zero_le, hzero.symm, ?_⟩, hnew⟩
      exact fun t ht => lt_trans (hbefore t ht) hnew
    · have hwithin : c.now < window.1 + second := by
        rw [← not_le]
        exact fun hover => hsecond ((secsSince_ge_one c.now window.1).mpr hover)
      rw [if_neg hsecond]
      exact ⟨⟨le_trans hstarted hclock, hle, heq, hrecent⟩, hwithin⟩

/-- A call that its window has room for is counted in it. -/
theorem WindowCounts.admit {maxPerSecond : UInt32} {now : Instant} {admitted : List Instant}
    {window : Instant × UInt32} (h : WindowCounts maxPerSecond now admitted window)
    (hroom : window.2 < maxPerSecond) (hwithin : now < window.1 + second) :
    WindowCounts maxPerSecond now (now :: admitted) (window.1, window.2 + 1) := by
  obtain ⟨hstarted, hle, heq, hrecent⟩ := h
  have hlt : window.2.toNat < maxPerSecond.toNat := UInt32.lt_iff_toNat_lt.mp hroom
  have hbound : maxPerSecond.toNat < 2 ^ 32 := UInt32.toNat_lt_size maxPerSecond
  have hsucc : (window.2 + 1).toNat = window.2.toNat + 1 := by
    rw [UInt32.toNat_add]
    exact Nat.mod_eq_of_lt (by simp; omega)
  refine ⟨hstarted, ?_, ?_, ?_⟩
  · rw [UInt32.le_iff_toNat_le, hsucc]
    omega
  · rw [hsucc, heq, List.countP_cons, if_pos (by simpa using hstarted)]
  · intro t ht
    rcases List.mem_cons.mp ht with rfl | ht
    · exact hwithin
    · exact hrecent t ht

/-- What a call does: it is admitted exactly if its window has room, and its key's entry is the
window with the call in it. -/
theorem checkStep_cases {r r' : LimiterRun} {c : CheckCall} (hmax : r.limiter.maxPerSecond ≠ 0)
    (h : checkStep r c = some r') :
    r.clock ≤ c.now ∧ r'.clock = c.now ∧
      r'.limiter.maxPerSecond = r.limiter.maxPerSecond ∧
      (∀ key ≠ c.key, r'.admitted key = r.admitted key ∧
        r'.limiter.counters.lookup key = r.limiter.counters.lookup key) ∧
      ((r.limiter.window c.key c.now).2 < r.limiter.maxPerSecond ∧
        r'.answered = (c, true) :: r.answered ∧
        r'.admitted c.key = c.now :: r.admitted c.key ∧
        r'.limiter.counters.lookup c.key = some ((r.limiter.window c.key c.now).1,
          (r.limiter.window c.key c.now).2 + 1) ∨
      ¬ (r.limiter.window c.key c.now).2 < r.limiter.maxPerSecond ∧
        r'.answered = (c, false) :: r.answered ∧
        r'.admitted c.key = r.admitted c.key ∧
        r'.limiter.counters.lookup c.key = some (r.limiter.window c.key c.now)) := by
  unfold checkStep at h
  split_ifs at h with hclock
  rw [RateLimiter.check_eq hmax] at h
  -- The call is recorded under its own key only.
  have hother : ∀ (key : String) (answer : Bool) (limiter : RateLimiter), key ≠ c.key →
      (LimiterRun.mk limiter c.now ((c, answer) :: r.answered)).admitted key = r.admitted key := by
    intro key answer limiter hne
    simp [LimiterRun.admitted, Ne.symm hne]
  by_cases hroom : (r.limiter.window c.key c.now).2 < r.limiter.maxPerSecond
  · rw [if_pos hroom] at h
    obtain rfl := Option.some.inj h
    refine ⟨hclock, rfl, rfl, fun key hne => ⟨hother key _ _ hne, AList.lookup_insert_ne hne⟩, ?_⟩
    refine .inl ⟨hroom, rfl, ?_, AList.lookup_insert _⟩
    simp [LimiterRun.admitted]
  · rw [if_neg hroom] at h
    obtain rfl := Option.some.inj h
    refine ⟨hclock, rfl, rfl, fun key hne => ⟨hother key _ _ hne, AList.lookup_insert_ne hne⟩, ?_⟩
    refine .inr ⟨hroom, rfl, ?_, AList.lookup_insert _⟩
    simp [LimiterRun.admitted]

/-- A new limiter remembers that nothing was admitted. -/
theorem Recalls.new (maxPerSecond : UInt32) (key : String) :
    Recalls (.new maxPerSecond) key := by
  refine ⟨?_, fun _ => rfl, ?_⟩
  · intro t ht
    cases ht
  · intro window hwindow
    have hempty : (RateLimiter.new maxPerSecond).counters.lookup key = none :=
      AList.lookup_empty key
    rw [LimiterRun.new, hempty] at hwindow
    cases hwindow

/-- A key that has an entry is recalled by it. -/
theorem Recalls.of_window {r : LimiterRun} {key : String} {window : Instant × UInt32}
    (hlookup : r.limiter.counters.lookup key = some window)
    (hpast : ∀ t ∈ r.admitted key, t ≤ r.clock)
    (hcounts : WindowCounts r.limiter.maxPerSecond r.clock (r.admitted key) window) :
    Recalls r key := by
  refine ⟨hpast, fun hnone => ?_, fun window' hwindow' => ?_⟩
  · rw [hlookup] at hnone
    cases hnone
  · rw [hlookup] at hwindow'
    exact Option.some.inj hwindow' ▸ hcounts

/-- Every call keeps what the entries say about the calls that were admitted. -/
theorem Recalls.step {r r' : LimiterRun} {c : CheckCall} (hmax : r.limiter.maxPerSecond ≠ 0)
    (h : ∀ key, Recalls r key) (hstep : checkStep r c = some r') (key : String) :
    Recalls r' key := by
  obtain ⟨hclock, hclock', hmax', hother, hkey⟩ := checkStep_cases hmax hstep
  have hpast : ∀ key, ∀ t ∈ r.admitted key, t ≤ c.now := fun key t ht =>
    le_trans ((h key).past t ht) hclock
  by_cases hk : key = c.key
  · subst hk
    obtain ⟨hcounts, hwithin⟩ := (h c.key).window hclock
    rcases hkey with ⟨hroom, -, hadmitted, hlookup⟩ | ⟨-, -, hadmitted, hlookup⟩
    · -- The call is admitted, and counted in its window.
      apply Recalls.of_window hlookup
      · rw [hadmitted, hclock']
        exact List.forall_mem_cons.mpr ⟨le_rfl, hpast c.key⟩
      · rw [hadmitted, hclock', hmax']
        exact hcounts.admit hroom hwithin
    · apply Recalls.of_window hlookup
      · rw [hadmitted, hclock']
        exact hpast c.key
      · rw [hadmitted, hclock', hmax']
        exact hcounts
  · obtain ⟨hadmitted, hlookup⟩ := hother key hk
    refine ⟨?_, ?_, ?_⟩
    · rw [hadmitted, hclock']
      exact hpast key
    · rw [hadmitted, hlookup]
      exact (h key).absent
    · intro window hwindow
      rw [hlookup] at hwindow
      obtain ⟨hstarted, hle, heq, hrecent⟩ := (h key).present window hwindow
      rw [hadmitted, hclock', hmax']
      exact ⟨le_trans hstarted hclock, hle, heq, hrecent⟩

/-- What the limiter does with the calls of a key: it admits the first `maxPerSecond` of each window
that their instants fall into, and its entry is the last window with the number of these. -/
structure CountsWindows (r : LimiterRun) (key : String) : Prop where
  sorted : (instantsOf key r.calls).Pairwise (· ≤ ·)
  past : ∀ t ∈ instantsOf key r.calls, t ≤ r.clock
  admitted_eq : r.admitted key =
    Sliding.admitted r.limiter.maxPerSecond.toNat (r.windows key)
  entry_eq : (r.limiter.counters.lookup key).map (Prod.map id UInt32.toNat) =
    (r.windows key).head?.map fun w =>
      (w.start, (w.counted r.limiter.maxPerSecond.toNat).length)

/-- The instants of calls and one more. -/
theorem instantsOf_concat (key : String) (calls : List CheckCall) (c : CheckCall) :
    instantsOf key (calls ++ [c]) =
      if c.key = key then instantsOf key calls ++ [c.now] else instantsOf key calls := by
  unfold instantsOf
  by_cases hk : c.key = key <;> simp [hk]

/-- The instants of a run's calls and one more. -/
theorem LimiterRun.calls_cons {r' r : LimiterRun} {c : CheckCall} {answer : Bool}
    (h : r'.answered = (c, answer) :: r.answered) : r'.calls = r.calls ++ [c] := by
  unfold LimiterRun.calls
  rw [h, List.map_cons, List.reverse_cons]

/-- The window that a call is counted in, by the windows that the calls before it fell into. -/
theorem CountsWindows.window {r : LimiterRun} {key : String} (h : CountsWindows r key)
    (now : Instant) :
    Prod.map id UInt32.toNat (r.limiter.window key now) =
      match (r.windows key).head? with
      | none => (now, 0)
      | some w => if w.start + second ≤ now then (now, 0)
        else (w.start, (w.counted r.limiter.maxPerSecond.toNat).length) := by
  have hentry := h.entry_eq
  unfold RateLimiter.window
  cases hhead : (r.windows key).head? with
  | none =>
    rw [hhead, Option.map_none, Option.map_eq_none_iff] at hentry
    rw [hentry]
    simp
  | some w =>
    rw [hhead, Option.map_some, Option.map_eq_some_iff] at hentry
    obtain ⟨⟨start, count⟩, hlookup, heq⟩ := hentry
    obtain ⟨rfl, hcount⟩ := Prod.mk.inj heq
    rw [hlookup]
    dsimp only [Option.getD_some, id]
    rw [if_congr (secsSince_ge_one now w.start) rfl rfl, ← hcount]
    by_cases hover : w.start + second ≤ now
    · rw [if_pos hover, if_pos hover]
      rfl
    · rw [if_neg hover, if_neg hover]
      rfl

/-- A new limiter has seen no instants. -/
theorem CountsWindows.new (maxPerSecond : UInt32) (key : String) :
    CountsWindows (.new maxPerSecond) key := by
  refine ⟨List.Pairwise.nil, ?_, rfl, ?_⟩
  · intro t ht
    cases ht
  · have hempty : (RateLimiter.new maxPerSecond).counters.lookup key = none :=
      AList.lookup_empty key
    rw [LimiterRun.new, hempty]
    rfl

/-- The windows' limit is not zero. -/
theorem toNat_pos {maxPerSecond : UInt32} (h : maxPerSecond ≠ 0) : 0 < maxPerSecond.toNat :=
  UInt32.lt_iff_toNat_lt.mp (UInt32.pos_iff_ne_zero.mpr h)

/-- A call's window has no room exactly if the call falls into the last of the windows before it,
and that one is full. -/
theorem CountsWindows.full_iff {r : LimiterRun} {key : String} (h : CountsWindows r key)
    (hmax : r.limiter.maxPerSecond ≠ 0) (now : Instant) :
    ¬ (r.limiter.window key now).2 < r.limiter.maxPerSecond ↔
      ∃ w ∈ (r.windows key).head?, now < w.start + second ∧
        r.limiter.maxPerSecond.toNat ≤ (w.counted r.limiter.maxPerSecond.toNat).length := by
  have hpos := toNat_pos hmax
  have hcount : (r.limiter.window key now).2.toNat =
      (Prod.map id UInt32.toNat (r.limiter.window key now)).2 := rfl
  rw [UInt32.lt_iff_toNat_lt, hcount, h.window now]
  cases (r.windows key).head? with
  | none => simp; omega
  | some w =>
    dsimp only
    split_ifs with hover
    · have hnot : ¬ now < w.start + second := not_lt.mpr hover
      simp [hnot]
      omega
    · have hlt : now < w.start + second := not_le.mp hover
      simp [hlt]

/-- The entry of a call's key is the last of the windows, with the call in it. -/
theorem CountsWindows.entry {r : LimiterRun} {key : String} (h : CountsWindows r key)
    (hmax : r.limiter.maxPerSecond ≠ 0) (now : Instant) :
    some (if (r.limiter.window key now).2.toNat < r.limiter.maxPerSecond.toNat then
        ((r.limiter.window key now).1, (r.limiter.window key now).2.toNat + 1)
      else ((r.limiter.window key now).1, (r.limiter.window key now).2.toNat)) =
      (Sliding.extend second now (r.windows key)).head?.map fun w =>
        (w.start, (w.counted r.limiter.maxPerSecond.toNat).length) := by
  have hpos := toNat_pos hmax
  have hfirst : ((Sliding.Window.mk now []).counted r.limiter.maxPerSecond.toNat).length = 1 := by
    simp [Sliding.Window.counted, Sliding.Window.times]
    omega
  have hstart : (r.limiter.window key now).1 =
      (Prod.map id UInt32.toNat (r.limiter.window key now)).1 := rfl
  have hcount : (r.limiter.window key now).2.toNat =
      (Prod.map id UInt32.toNat (r.limiter.window key now)).2 := rfl
  have hwindow := h.window now
  rw [hcount, hstart]
  generalize Prod.map id UInt32.toNat (r.limiter.window key now) = window at hwindow
  subst hwindow
  cases r.windows key with
  | nil => simp [Sliding.extend, hfirst, hpos]
  | cons w ws =>
    by_cases hover : w.start + second ≤ now
    · simp [Sliding.extend_cons, hover, hfirst, hpos]
    · by_cases hroom : (w.counted r.limiter.maxPerSecond.toNat).length <
          r.limiter.maxPerSecond.toNat
      · simp [Sliding.extend_cons, hover, Sliding.Window.counted_concat, hroom]
      · simp [Sliding.extend_cons, hover, Sliding.Window.counted_concat, hroom]

/-- Every call keeps the windows counted. -/
theorem CountsWindows.step {r r' : LimiterRun} {c : CheckCall} (hmax : r.limiter.maxPerSecond ≠ 0)
    (h : ∀ key, CountsWindows r key) (hstep : checkStep r c = some r') (key : String) :
    CountsWindows r' key := by
  obtain ⟨hclock, hclock', hmax', hother, hkey⟩ := checkStep_cases hmax hstep
  have hcalls : r'.calls = r.calls ++ [c] := by
    rcases hkey with ⟨-, hanswered, -⟩ | ⟨-, hanswered, -⟩
    · exact LimiterRun.calls_cons hanswered
    · exact LimiterRun.calls_cons hanswered
  have hpast : ∀ key, ∀ t ∈ instantsOf key r.calls, t ≤ c.now := fun key t ht =>
    le_trans ((h key).past t ht) hclock
  have hinstants := instantsOf_concat key r.calls c
  rw [← hcalls] at hinstants
  by_cases hk : key = c.key
  · subst hk
    rw [if_pos rfl] at hinstants
    have hwindows : r'.windows c.key = Sliding.extend second c.now (r.windows c.key) := by
      unfold LimiterRun.windows
      rw [hinstants, Sliding.windows_concat]
    have hadmit := Sliding.admitted_extend (toNat_pos hmax) second c.now (r.windows c.key)
    have hentry := (h c.key).entry hmax c.now
    have hfull := (h c.key).full_iff hmax c.now
    refine ⟨?_, ?_, ?_, ?_⟩
    · rw [hinstants]
      refine List.pairwise_append.mpr ⟨(h c.key).sorted, List.pairwise_singleton _ _, ?_⟩
      intro t ht u hu
      rw [List.mem_singleton.mp hu]
      exact hpast c.key t ht
    · rw [hinstants, hclock']
      exact List.forall_mem_append.mpr ⟨hpast c.key, by simp⟩
    · rw [hmax', hwindows, hadmit, ← (h c.key).admitted_eq]
      rcases hkey with ⟨hroom, -, hadmitted, -⟩ | ⟨hnone, -, hadmitted, -⟩
      · rw [hadmitted, if_neg fun h => hfull.mpr h hroom]
      · rw [hadmitted, if_pos (hfull.mp hnone)]
    · rw [hmax', hwindows, ← hentry]
      rcases hkey with ⟨hroom, -, -, hlookup⟩ | ⟨hnone, -, -, hlookup⟩
      · -- The count stays below the limit, so adding one does not wrap.
        have hlt : (r.limiter.window c.key c.now).2.toNat < r.limiter.maxPerSecond.toNat :=
          UInt32.lt_iff_toNat_lt.mp hroom
        have hbound : r.limiter.maxPerSecond.toNat < 2 ^ 32 := UInt32.toNat_lt_size _
        have hsucc : ((r.limiter.window c.key c.now).2 + 1).toNat =
            (r.limiter.window c.key c.now).2.toNat + 1 := by
          rw [UInt32.toNat_add]
          exact Nat.mod_eq_of_lt (by simp; omega)
        rw [hlookup, if_pos hlt, ← hsucc]
        rfl
      · rw [hlookup, if_neg fun hlt => hnone (UInt32.lt_iff_toNat_lt.mpr hlt)]
        rfl
  · rw [if_neg (Ne.symm hk)] at hinstants
    have hwindows : r'.windows key = r.windows key := by
      unfold LimiterRun.windows
      rw [hinstants]
    obtain ⟨hadmitted, hlookup⟩ := hother key hk
    refine ⟨?_, ?_, ?_, ?_⟩
    · rw [hinstants]
      exact (h key).sorted
    · rw [hinstants, hclock']
      exact hpast key
    · rw [hadmitted, hmax', hwindows]
      exact (h key).admitted_eq
    · rw [hlookup, hmax', hwindows]
      exact (h key).entry_eq

/-- The sliding window holds of the calls so far exactly if the windows that their instants fall
into are apart. -/
theorem withinLimit_iff {r : LimiterRun} (hmax : r.limiter.maxPerSecond ≠ 0)
    (h : ∀ key, CountsWindows r key) :
    WithinLimit r ↔ ∀ key, Sliding.Spaced r.limiter.maxPerSecond.toNat second (r.windows key) := by
  refine forall_congr' fun key => ?_
  rw [(h key).admitted_eq]
  exact Sliding.atMost_admitted_iff (by decide) (toNat_pos hmax) (h key).sorted

/-- A call does not make up for calls that were too many. -/
theorem withinLimit_of_step {r r' : LimiterRun} {c : CheckCall}
    (hmax : r.limiter.maxPerSecond ≠ 0) (hstep : checkStep r c = some r')
    (hwithin : WithinLimit r') : WithinLimit r := by
  obtain ⟨-, -, hmax', hother, hkey⟩ := checkStep_cases hmax hstep
  intro key
  have hbound := hwithin key
  rw [hmax'] at hbound
  by_cases hk : key = c.key
  · subst hk
    rcases hkey with ⟨-, -, hadmitted, -⟩ | ⟨-, -, hadmitted, -⟩
    · rw [hadmitted] at hbound
      exact hbound.of_cons
    · rwa [hadmitted] at hbound
  · rwa [(hother key hk).1] at hbound

/-- Calls at non-decreasing instants are all answered. -/
theorem exists_exec_checkStep {calls : List CheckCall}
    (hsorted : calls.Pairwise fun c c' => c.now ≤ c'.now) {r : LimiterRun}
    (hclock : ∀ c ∈ calls, r.clock ≤ c.now) :
    ∃ r', exec checkStep r calls = some r' ∧ r'.calls = r.calls ++ calls := by
  induction calls generalizing r with
  | nil => exact ⟨r, rfl, (List.append_nil _).symm⟩
  | cons c calls ih =>
    obtain ⟨hlater, hrest⟩ := List.pairwise_cons.mp hsorted
    have hstep := checkStep_eq r c
    rw [if_pos (hclock c List.mem_cons_self)] at hstep
    obtain ⟨r', hrun, hcalls⟩ := ih hrest (r := ⟨(r.limiter.check c.key c.now).2, c.now,
      (c, (r.limiter.check c.key c.now).1) :: r.answered⟩) hlater
    refine ⟨r', exec_cons.mpr ⟨_, hstep, hrun⟩, ?_⟩
    rw [hcalls, LimiterRun.calls_cons rfl, List.append_assoc, List.singleton_append]

/-- The sliding window holds along exactly the sequences of calls whose instants are such that, for
each key, the windows they fall into are apart. -/
theorem within_limit_iff (maxPerSecond : UInt32) (hmax : maxPerSecond ≠ 0)
    (calls : List CheckCall) (hsorted : calls.Pairwise fun c c' => c.now ≤ c'.now) :
    Visits checkStep WithinLimit (.new maxPerSecond) calls ↔
      ∀ key, Sliding.Spaced maxPerSecond.toNat second
        (Sliding.windows second (instantsOf key calls)) := by
  obtain ⟨r, hrun, hcalls⟩ := exists_exec_checkStep hsorted (r := .new maxPerSecond)
    fun c _ => Nat.zero_le c.now
  have hsame : ∀ s c s', s.limiter.maxPerSecond = maxPerSecond → checkStep s c = some s' →
      s'.limiter.maxPerSecond = maxPerSecond := by
    rintro s c s' rfl hstep
    exact (checkStep_cases hmax hstep).2.2.1
  obtain ⟨hr, hcounts⟩ := exec_invariant (I := fun s => s.limiter.maxPerSecond = maxPerSecond ∧
      ∀ key, CountsWindows s key) (fun s c s' hs hstep =>
        ⟨hsame s c s' hs.1 hstep, CountsWindows.step (hs.1 ▸ hmax) hs.2 hstep⟩)
    ⟨rfl, CountsWindows.new maxPerSecond⟩ hrun
  have hiff := withinLimit_iff (hr ▸ hmax) hcounts
  unfold LimiterRun.windows at hiff
  rw [hr, hcalls] at hiff
  constructor
  · exact fun hvisits => hiff.mp (hvisits.last hrun)
  · intro hspaced
    refine visits_of_last hsame (fun s c s' hs hstep => ?_) rfl hrun (hiff.mpr hspaced)
    exact withinLimit_of_step (hs ▸ hmax) hstep

/-- Four calls of one key: two in its first window, and two right after the window starts over. -/
def burst : List CheckCall :=
  [⟨"app", 0⟩, ⟨"app", 900000000⟩, ⟨"app", 1000000000⟩, ⟨"app", 1100000000⟩]

/-- The calls of `burst` with a limit of two. -/
theorem within_limit_burst :
    (2 : UInt32) ≠ 0 ∧ burst.Pairwise (fun c c' => c.now ≤ c'.now) ∧
      (Visits checkStep WithinLimit (.new 2) burst ↔ ∀ key, Sliding.Spaced (2 : UInt32).toNat second
        (Sliding.windows second (instantsOf key burst))) :=
  ⟨by decide, by decide, within_limit_iff 2 (by decide) burst (by decide)⟩

/-- With a limit of two, three calls are admitted in the second that begins at 0.9 s. -/
theorem three_in_a_second : ¬ Visits checkStep WithinLimit (.new 2) burst := by
  intro h
  obtain ⟨r, hr⟩ : ∃ r, exec checkStep (.new 2) burst = some r := Option.isSome_iff_exists.mp rfl
  have hadmitted : (exec checkStep (.new 2) burst).map
      (fun r => (r.limiter.maxPerSecond, r.admitted "app")) =
        some (2, [1100000000, 1000000000, 900000000, 0]) := by decide
  rw [hr, Option.map_some, Option.some.injEq, Prod.mk.injEq] at hadmitted
  have hbound := h.last hr "app" 900000000
  rw [hadmitted.1, hadmitted.2] at hbound
  revert hbound
  decide

/-- A call is refused only with reason. -/
theorem refusedJustly_step {r r' : LimiterRun} {c : CheckCall}
    (h : r.limiter.maxPerSecond ≠ 0 → ∀ key, Recalls r key)
    (hstep : checkStep r c = some r') : RefusedJustly r c r' := by
  intro hfalse
  by_cases hmax : r.limiter.maxPerSecond = 0
  · -- Without a limit, the answer is true.
    unfold checkStep at hstep
    rw [RateLimiter.check_of_zero hmax] at hstep
    split_ifs at hstep
    obtain rfl := Option.some.inj hstep
    simp at hfalse
  · obtain ⟨hclock, -, -, -, hkey⟩ := checkStep_cases hmax hstep
    obtain ⟨hcounts, hwithin⟩ := (h hmax c.key).window hclock
    rcases hkey with ⟨-, hanswered, -⟩ | ⟨hfull, -, -, -⟩
    · rw [hanswered] at hfalse
      simp at hfalse
    · refine ⟨UInt32.pos_iff_ne_zero.mpr hmax, ?_⟩
      have hle : r.limiter.maxPerSecond ≤ (r.limiter.window c.key c.now).2 :=
        UInt32.not_lt.mp hfull
      calc r.limiter.maxPerSecond.toNat
        _ ≤ (r.limiter.window c.key c.now).2.toNat := UInt32.le_iff_toNat_le.mp hle
        _ = (r.admitted c.key).countP fun t => (r.limiter.window c.key c.now).1 ≤ t :=
          hcounts.count_eq
        _ ≤ _ := by
          refine List.countP_mono_left fun t ht hsince => ?_
          have hstart : (r.limiter.window c.key c.now).1 ≤ t := of_decide_eq_true hsince
          have hpast : t ≤ c.now := le_trans ((h hmax c.key).past t ht) hclock
          have hrecent : c.now < t + second :=
            lt_of_lt_of_le hwithin (Nat.add_le_add_right hstart second)
          exact decide_eq_true ⟨hpast, hrecent⟩

/-- What a call does to the limiter depends on the entry of its own key only. -/
theorem RateLimiter.check_congr {limiter limiter' : RateLimiter} {key : String}
    (hmax : limiter.maxPerSecond = limiter'.maxPerSecond)
    (hlookup : limiter.counters.lookup key = limiter'.counters.lookup key) (now : Instant) :
    (limiter.check key now).1 = (limiter'.check key now).1 ∧
      (limiter.check key now).2.counters.lookup key =
        (limiter'.check key now).2.counters.lookup key := by
  unfold check
  rw [hmax, hlookup]
  dsimp only
  split_ifs
  · exact ⟨rfl, hlookup⟩
  all_goals exact ⟨rfl, by rw [AList.lookup_insert, AList.lookup_insert]⟩

/-- Two limiters that agree on a key give the same answers to it, when one is asked about the calls
with that key only. -/
theorem answers_filter {key : String} {calls : List CheckCall} {r s r' : LimiterRun}
    (hmax : r.limiter.maxPerSecond = s.limiter.maxPerSecond)
    (hlookup : r.limiter.counters.lookup key = s.limiter.counters.lookup key)
    (hclock : s.clock ≤ r.clock) (hanswered : s.answered = r.answered.filter (·.1.key = key))
    (h : exec checkStep r calls = some r') :
    ∃ s', exec checkStep s (calls.filter (·.key = key)) = some s' ∧
      s'.answered = r'.answered.filter (·.1.key = key) := by
  induction calls generalizing r s with
  | nil =>
    obtain rfl : r = r' := by simpa [exec] using h
    exact ⟨s, rfl, hanswered⟩
  | cons c calls ih =>
    obtain ⟨t, ht, hrun⟩ := exec_cons.mp h
    rw [checkStep_eq] at ht
    split_ifs at ht with hnow
    obtain rfl := Option.some.inj ht
    by_cases hk : c.key = key
    · -- Both are asked.
      subst hk
      obtain ⟨hanswer, hentry⟩ := RateLimiter.check_congr hmax hlookup c.now
      have hstep : checkStep s c = some ⟨(s.limiter.check c.key c.now).2, c.now,
          (c, (s.limiter.check c.key c.now).1) :: s.answered⟩ := by
        rw [checkStep_eq, if_pos (le_trans hclock hnow)]
      have hmax' : (r.limiter.check c.key c.now).2.maxPerSecond =
          (s.limiter.check c.key c.now).2.maxPerSecond := by
        rw [RateLimiter.check_maxPerSecond, RateLimiter.check_maxPerSecond, hmax]
      have hanswered' : (c, (s.limiter.check c.key c.now).1) :: s.answered =
          ((c, (r.limiter.check c.key c.now).1) :: r.answered).filter (·.1.key = c.key) := by
        simp [hanswered, hanswer]
      obtain ⟨s', hs', hfilter⟩ := ih (s := ⟨(s.limiter.check c.key c.now).2, c.now,
          (c, (s.limiter.check c.key c.now).1) :: s.answered⟩)
        hmax' hentry (le_refl c.now) hanswered' hrun
      refine ⟨s', ?_, hfilter⟩
      rw [List.filter_cons, if_pos (by simp)]
      exact exec_cons.mpr ⟨_, hstep, hs'⟩
    · -- Only the first one is, about another key.
      rw [List.filter_cons, if_neg (by simpa using hk)]
      refine ih ?_ ?_ (le_trans hclock hnow) ?_ hrun
      · rw [RateLimiter.check_maxPerSecond]
        exact hmax
      · rw [RateLimiter.check_lookup_ne _ (Ne.symm hk)]
        exact hlookup
      · rw [List.filter_cons, if_neg (by simpa using hk)]
        exact hanswered

/-- No call is refused without reason, and the answers to a key do not depend on the calls with
other keys. -/
theorem throttled_justly (maxPerSecond : UInt32) (calls : List CheckCall) :
    Steps checkStep RefusedJustly (.new maxPerSecond) calls ∧
      ∀ (key : String) (r : LimiterRun), exec checkStep (.new maxPerSecond) calls = some r →
        ∃ r', exec checkStep (.new maxPerSecond) (calls.filter (·.key = key)) = some r' ∧
          r'.answered = r.answered.filter (·.1.key = key) := by
  constructor
  · refine (holds_of_meets (I := fun r => r.limiter.maxPerSecond ≠ 0 → ∀ key, Recalls r key)
      (C := fun _ _ => True) ?_ (fun _ => Recalls.new maxPerSecond)
      (Steps.of_forall (fun _ _ _ _ => trivial) _)).1
    intro r c r' hrecalls _ hstep
    refine ⟨fun hmax' => ?_, refusedJustly_step hrecalls hstep⟩
    have hmax : r.limiter.maxPerSecond ≠ 0 := by
      rw [checkStep_eq] at hstep
      split_ifs at hstep
      obtain rfl := Option.some.inj hstep
      rwa [RateLimiter.check_maxPerSecond] at hmax'
    exact Recalls.step hmax (hrecalls hmax) hstep
  · intro key r hrun
    exact answers_filter rfl rfl le_rfl rfl hrun

end ZoTunnel
