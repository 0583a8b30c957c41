import Mathlib.Algebra.Group.Nat.Defs
import Mathlib.Data.List.Basic

/-!
# Exponential backoff

A task that makes one attempt after another and waits in between. The attempts of a history are
listed with the newest first, each with the wait that follows it. `BacksOff` is what the waits after
failures are for: within any number of failures in a row, up to the newest attempt of the history or
of any earlier one, they never decrease, the last of `n` of them is at least `2^(n-1)`, and all
waits are at most a cap.

The lemmas say which waits a new attempt can be followed by: any up to the cap after a success, any
positive one after the first failure, and double the last wait after a further failure. A wait that
starts again at one after a second failure breaks the backoff.
-/

namespace Backoff

/-- An attempt, and the wait after it. -/
structure Attempt where
  failed : Bool
  wait : ℕ
  deriving DecidableEq, Repr

/-- The waits of a history back off, up to a cap. -/
structure BacksOff (cap : ℕ) (history : List Attempt) : Prop where
  bounded : ∀ a ∈ history, a.wait ≤ cap
  grows : ∀ newer a l older, history = newer ++ a :: (l ++ older) →
    (∀ x ∈ a :: l, x.failed = true) →
      (a :: l).Pairwise (fun x y => y.wait ≤ x.wait) ∧ min (2^l.length) cap ≤ a.wait

variable {cap : ℕ} {history : List Attempt} {a b : Attempt}

/-- A task that has made no attempt yet. -/
theorem BacksOff.nil (cap : ℕ) : BacksOff cap [] :=
  ⟨nofun, fun newer a l older h => by simp at h⟩

/-- A history backs off when its rest does, and the failures in a row up to its newest attempt do.
-/
theorem BacksOff.cons (h : BacksOff cap history) (hle : a.wait ≤ cap)
    (hnew : ∀ l older, history = l ++ older → (∀ x ∈ a :: l, x.failed = true) →
      (a :: l).Pairwise (fun x y => y.wait ≤ x.wait) ∧ min (2^l.length) cap ≤ a.wait) :
    BacksOff cap (a :: history) := by
  refine ⟨fun x hx => ?_, fun newer x l older heq hfailed => ?_⟩
  · rcases List.mem_cons.mp hx with rfl | hx
    · exact hle
    · exact h.bounded x hx
  · cases newer with
    | nil =>
      obtain ⟨rfl, hrest⟩ := List.cons.inj heq
      exact hnew l older hrest hfailed
    | cons y newer =>
      obtain ⟨-, hrest⟩ := List.cons.inj heq
      exact h.grows newer x l older hrest hfailed

/-- Any wait up to the cap can follow a success. -/
theorem BacksOff.cons_success (h : BacksOff cap history) (ha : a.failed = false)
    (hle : a.wait ≤ cap) : BacksOff cap (a :: history) := by
  refine h.cons hle fun l older _ hfailed => ?_
  have hfailed := hfailed a List.mem_cons_self
  rw [ha] at hfailed
  cases hfailed

/-- Any positive wait up to the cap can follow the first failure after a success. -/
theorem BacksOff.cons_first (h : BacksOff cap history) (hpos : 0 < a.wait) (hle : a.wait ≤ cap)
    (hhead : ∀ x, history.head? = some x → x.failed = false) : BacksOff cap (a :: history) := by
  refine h.cons hle fun l older heq hfailed => ?_
  cases l with
  | nil => exact ⟨List.pairwise_singleton _ _, Nat.le_trans (Nat.min_le_left _ _) hpos⟩
  | cons x l =>
    have hsuccess := hhead x (by rw [heq]; rfl)
    rw [hfailed x (List.mem_cons_of_mem _ List.mem_cons_self)] at hsuccess
    cases hsuccess

/-- Double the wait, up to the cap, can follow any further attempt. -/
theorem BacksOff.cons_double (h : BacksOff cap (b :: history)) (hpos : 0 < a.wait)
    (ha : a.wait = min (2 * b.wait) cap) : BacksOff cap (a :: b :: history) := by
  refine h.cons (by omega) fun l older heq hfailed => ?_
  cases l with
  | nil => exact ⟨List.pairwise_singleton _ _, Nat.le_trans (Nat.min_le_left _ _) hpos⟩
  | cons x l =>
    obtain ⟨rfl, hrest⟩ := List.cons.inj heq
    -- The failures up to the one before, which the new wait doubles.
    obtain ⟨hsorted, hlow⟩ := h.grows [] b l older (by rw [hrest]; rfl)
      fun y hy => hfailed y (List.mem_cons_of_mem _ hy)
    have hcap := h.bounded b List.mem_cons_self
    have hge : b.wait ≤ a.wait := by omega
    refine ⟨List.pairwise_cons.mpr ⟨fun y hy => ?_, hsorted⟩, ?_⟩
    · rcases List.mem_cons.mp hy with rfl | hy
      · exact hge
      · exact Nat.le_trans ((List.pairwise_cons.mp hsorted).1 y hy) hge
    · rw [List.length_cons, Nat.pow_succ]
      omega

end Backoff
