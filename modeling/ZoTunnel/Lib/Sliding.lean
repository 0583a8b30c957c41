import Mathlib.Algebra.Order.Monoid.Defs
import Mathlib.Data.Finset.Max

/-!
# Sliding windows

Events at points of a linearly ordered time, counted in half-open intervals of one length `d`.
`AtMost n d` says that no such interval has more than `n` of them. A limiter only has to look back
from each event: `atMost_cons_iff` says that a newest event keeps the bound exactly when fewer than
`n` of the earlier ones are less than `d` before it.
-/

namespace Sliding

variable {α : Type*} [AddCommMonoid α] [LinearOrder α] [IsOrderedCancelAddMonoid α]

/-- The number of times in the half-open interval of length `d` that begins at `a`. -/
def countFrom (d a : α) (times : List α) : ℕ := times.countP fun t => a ≤ t ∧ t < a + d

/-- The number of times that are less than `d` before `now`. -/
def recent (d now : α) (times : List α) : ℕ := times.countP fun t => now < t + d

/-- No half-open interval of length `d` has more than `n` of the times. -/
def AtMost (n : ℕ) (d : α) (times : List α) : Prop := ∀ a, countFrom d a times ≤ n

omit [IsOrderedCancelAddMonoid α] in
/-- No interval has any of no times. -/
theorem AtMost.nil (n : ℕ) (d : α) : AtMost n d [] := fun _ => Nat.zero_le n

omit [IsOrderedCancelAddMonoid α] in
/-- Without its newest time, the bound holds, too. -/
theorem AtMost.of_cons {n : ℕ} {d now : α} {times : List α} (h : AtMost n d (now :: times)) :
    AtMost n d times := by
  intro a
  have hle : countFrom d a times ≤ countFrom d a (now :: times) := by
    unfold countFrom
    rw [List.countP_cons]
    exact Nat.le_add_right _ _
  exact le_trans hle (h a)

/-- The times in an interval that reaches up to `now` are recent. -/
theorem countFrom_le_recent {d a now : α} (hnow : now < a + d) (times : List α) :
    countFrom d a times ≤ recent d now times := by
  refine List.countP_mono_left fun t _ ht => ?_
  have hbounds : a ≤ t ∧ t < a + d := of_decide_eq_true ht
  have hlt : now < t + d := lt_of_lt_of_le hnow (add_le_add_left hbounds.1 d)
  exact decide_eq_true hlt

/-- Some interval has `now` and all recent times in it. -/
theorem exists_recent_le_countFrom {d now : α} (hd : 0 < d) {times : List α}
    (hpast : ∀ t ∈ times, t ≤ now) :
    ∃ a, a ≤ now ∧ now < a + d ∧ recent d now times ≤ countFrom d a times := by
  -- It begins at the earliest of them.
  let candidates : Finset α := insert now (times.filter fun t => now < t + d).toFinset
  obtain ⟨a, ha, hmin⟩ := candidates.exists_min_image id ⟨now, Finset.mem_insert_self _ _⟩
  have hafter : now < a + d := by
    rcases Finset.mem_insert.mp ha with rfl | ha
    · exact lt_add_of_pos_right a hd
    · exact of_decide_eq_true (List.mem_filter.mp (List.mem_toFinset.mp ha)).2
  refine ⟨a, hmin now (Finset.mem_insert_self _ _), hafter, ?_⟩
  refine List.countP_mono_left fun t ht hrecent => decide_eq_true ⟨?_, ?_⟩
  · refine hmin t (Finset.mem_insert_of_mem (List.mem_toFinset.mpr ?_))
    exact List.mem_filter.mpr ⟨ht, hrecent⟩
  · exact lt_of_le_of_lt (hpast t ht) hafter

/-- A newest time keeps the bound exactly when fewer than `n` of the others are recent. -/
theorem atMost_cons_iff {n : ℕ} {d now : α} (hd : 0 < d) {times : List α}
    (hpast : ∀ t ∈ times, t ≤ now) :
    AtMost n d (now :: times) ↔ AtMost n d times ∧ recent d now times < n := by
  have hcons : ∀ a, countFrom d a (now :: times) =
      countFrom d a times + if a ≤ now ∧ now < a + d then 1 else 0 := by
    intro a
    unfold countFrom
    rw [List.countP_cons]
    simp only [decide_eq_true_eq]
  constructor
  · intro h
    constructor
    · intro a
      have hle := h a
      rw [hcons a] at hle
      omega
    · obtain ⟨a, hbefore, hafter, hrecent⟩ := exists_recent_le_countFrom hd hpast
      have hle := h a
      rw [hcons a, if_pos ⟨hbefore, hafter⟩] at hle
      omega
  · rintro ⟨h, hroom⟩ a
    rw [hcons a]
    split_ifs with hin
    · have hle := countFrom_le_recent hin.2 times
      omega
    · exact h a

end Sliding
