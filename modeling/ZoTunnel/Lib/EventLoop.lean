import Mathlib.Data.List.Count
import Mathlib.Logic.Function.Basic

/-!
# The event loop of a page

A script in a browser runs one handler at a time. A handler runs to its first `await`, and the rest
of it is a job, which runs when what it waits for is there. `EventLoop` has the intervals that run
and the jobs, and the operations of a page on them.

A page that polls keeps the id of its interval in a variable. `Polls` says that the variable and the
intervals agree: no interval is lost, and none runs twice. A page that locks a control while a
request is under way keeps a flag. `Occupied` says that the flag and the jobs agree.
-/

/-- The intervals and the jobs of a page: `κ` is what an interval does, and `ι` what a job does. -/
structure EventLoop (κ ι : Type*) where
  /-- The id of the next interval. -/
  next : ℕ
  /-- The intervals that run. -/
  intervals : ℕ → Option κ
  /-- What is waited for. -/
  jobs : List ι

namespace EventLoop

variable {κ ι : Type*}

/-- The loop of a page that is loaded. An id is positive. -/
def new : EventLoop κ ι := ⟨1, fun _ => none, []⟩

variable (loop : EventLoop κ ι)

/-- `setInterval`: the id is `loop.next`. -/
def setInterval (k : κ) : EventLoop κ ι :=
  { loop with
    next := loop.next + 1
    intervals := Function.update loop.intervals loop.next (some k) }

/-- `clearInterval`. -/
def clearInterval (id : ℕ) : EventLoop κ ι :=
  { loop with intervals := Function.update loop.intervals id none }

/-- A handler waits, and the rest of it is a job. -/
def await (job : ι) : EventLoop κ ι := { loop with jobs := job :: loop.jobs }

/-- A job goes on. -/
def settle [DecidableEq ι] (job : ι) : EventLoop κ ι := { loop with jobs := loop.jobs.erase job }

/-! ## Intervals -/

/-- The variable holds the id of the interval that does `k`, when there is one, and there is no
other. -/
structure Polls (k : κ) (handle : Option ℕ) (loop : EventLoop κ ι) : Prop where
  running : ∀ id, loop.intervals id = some k ↔ handle = some id
  fresh : ∀ id, loop.next ≤ id → loop.intervals id = none

variable {loop} {k k' : κ} {handle : Option ℕ}

/-- A page that is loaded does not poll. -/
theorem polls_new : Polls k none (new : EventLoop κ ι) :=
  ⟨fun _ => ⟨nofun, nofun⟩, fun _ _ => rfl⟩

/-- The interval that is set is the only one when there was none. -/
theorem Polls.setInterval (h : Polls k none loop) :
    Polls k (some loop.next) (loop.setInterval k) := by
  refine ⟨fun id => ?_, fun id hid => ?_⟩
  · unfold EventLoop.setInterval
    dsimp only
    rcases eq_or_ne id loop.next with rfl | hne
    · rw [Function.update_self]
      exact ⟨fun _ => rfl, fun _ => rfl⟩
    · have hold := h.running id
      rw [Function.update_of_ne hne, hold]
      constructor
      · nofun
      · exact fun heq => absurd (Option.some.inj heq).symm hne
  · have hlt : loop.next + 1 ≤ id := hid
    have hne : id ≠ loop.next := by omega
    unfold EventLoop.setInterval
    dsimp only
    rw [Function.update_of_ne hne]
    exact h.fresh id (by omega)

/-- There is none when the interval is cleared whose id the variable holds. -/
theorem Polls.clearInterval {id : ℕ} (h : Polls k (some id) loop) :
    Polls k none (loop.clearInterval id) := by
  refine ⟨fun id' => ?_, fun id' hid' => ?_⟩
  · unfold EventLoop.clearInterval
    dsimp only
    rw [Function.update_apply]
    split_ifs with heq
    · exact ⟨nofun, nofun⟩
    · rw [h.running id']
      constructor
      · exact fun hsome => absurd (Option.some.inj hsome).symm heq
      · nofun
  · unfold EventLoop.clearInterval
    dsimp only
    rw [Function.update_apply, h.fresh id' hid', ite_self]

/-- An interval that does something else may be set. -/
theorem Polls.setInterval_of_ne (h : Polls k handle loop) (hne : k' ≠ k) :
    Polls k handle (loop.setInterval k') := by
  refine ⟨fun id => ?_, fun id hid => ?_⟩
  · unfold EventLoop.setInterval
    dsimp only
    rcases eq_or_ne id loop.next with rfl | hid
    · have hnone := h.running loop.next
      rw [h.fresh _ (Nat.le_refl _)] at hnone
      rw [Function.update_self, ← hnone]
      constructor
      · exact fun heq => absurd (Option.some.inj heq) hne
      · nofun
    · rw [Function.update_of_ne hid]
      exact h.running id
  · have hlt : loop.next + 1 ≤ id := hid
    have hne : id ≠ loop.next := by omega
    unfold EventLoop.setInterval
    dsimp only
    rw [Function.update_of_ne hne]
    exact h.fresh id (by omega)

/-- An interval that does something else, or that does not run, may be cleared. -/
theorem Polls.clearInterval_of_ne {id : ℕ} (h : Polls k handle loop)
    (hne : loop.intervals id ≠ some k) : Polls k handle (loop.clearInterval id) := by
  refine ⟨fun id' => ?_, fun id' hid' => ?_⟩
  · unfold EventLoop.clearInterval
    dsimp only
    rcases eq_or_ne id' id with rfl | hid
    · rw [Function.update_self, ← h.running id']
      exact ⟨nofun, fun hsome => absurd hsome hne⟩
    · rw [Function.update_of_ne hid]
      exact h.running id'
  · unfold EventLoop.clearInterval
    dsimp only
    rw [Function.update_apply, h.fresh id' hid', ite_self]

/-- The jobs do not matter. -/
theorem Polls.of_jobs (h : Polls k handle loop) (jobs : List ι) :
    Polls k handle { loop with jobs } :=
  ⟨h.running, h.fresh⟩

/-! ## Jobs -/

/-- There is one job of a kind if the flag is set, and else none. -/
def Occupied (p : ι → Bool) (flag : Bool) (loop : EventLoop κ ι) : Prop :=
  loop.jobs.countP p = flag.toNat

variable {p : ι → Bool} {flag : Bool} {job : ι}

/-- A job of the kind begins, and the flag is set. -/
theorem Occupied.await (h : Occupied p false loop) (hjob : p job = true) :
    Occupied p true (loop.await job) := by
  unfold Occupied EventLoop.await at *
  dsimp only
  rw [List.countP_cons_of_pos hjob, h]
  rfl

/-- A job of another kind begins. -/
theorem Occupied.await_of_ne (h : Occupied p flag loop) (hjob : p job = false) :
    Occupied p flag (loop.await job) := by
  unfold Occupied EventLoop.await at *
  dsimp only
  rw [List.countP_cons_of_neg (by simp [hjob]), h]

variable [DecidableEq ι]

/-- When a job of the kind goes on, the flag was set, and it can be reset. -/
theorem Occupied.settle (h : Occupied p flag loop) (hmem : job ∈ loop.jobs) (hjob : p job = true) :
    flag = true ∧ Occupied p false (loop.settle job) := by
  unfold Occupied EventLoop.settle at *
  dsimp only
  have hpos : 0 < loop.jobs.countP p := List.countP_pos_iff.mpr ⟨job, hmem, hjob⟩
  have herase := List.countP_erase p loop.jobs job
  cases flag with
  | false =>
    rw [h] at hpos
    exact absurd hpos (by decide)
  | true =>
    rw [if_pos ⟨hmem, hjob⟩, h] at herase
    exact ⟨rfl, herase⟩

/-- A job of another kind goes on. -/
theorem Occupied.settle_of_ne (h : Occupied p flag loop) (hjob : p job = false) :
    Occupied p flag (loop.settle job) := by
  unfold Occupied EventLoop.settle at *
  dsimp only
  have herase := List.countP_erase p loop.jobs job
  rw [if_neg (by simp [hjob])] at herase
  rw [herase, h]
  omega

end EventLoop
