import Mathlib.Data.Set.Card

/-!
# Gauges

A gauge is a wrapping 64-bit counter that is meant to read how many holders a thing has: it is
incremented when somebody takes hold of the thing, and decremented when one lets it go.
`Gauge.Reads` says that it does. Each operation on the counter goes with one on the set of the
holders, and a holder that disappears without a decrement leaves the counter wrong.
-/

namespace Gauge

variable {ι : Type*} {n : UInt64} {holders : Set ι} {i : ι}

/-- The counter reads the number of the holders. -/
def Reads (n : UInt64) (holders : Set ι) : Prop := holders.Finite ∧ n.toNat = holders.ncard

/-- A counter wraps below zero when it is decremented at zero. -/
def Wraps (before after : UInt64) : Prop := before = 0 ∧ after = before - 1

/-- A counter that does not change does not wrap. -/
theorem not_wraps_self (n : UInt64) : ¬ Wraps n n := by
  rintro ⟨rfl, h⟩
  cases h

/-- A counter that is incremented does not wrap below zero. -/
theorem not_wraps_add (n : UInt64) : ¬ Wraps n (n + 1) := by
  rintro ⟨rfl, h⟩
  cases h

/-- A counter that is set to zero does not wrap. -/
theorem not_wraps_zero (n : UInt64) : ¬ Wraps n 0 := by
  rintro ⟨rfl, h⟩
  cases h

/-- A counter at zero reads that nobody holds the thing. -/
theorem Reads.empty : Reads 0 (∅ : Set ι) :=
  ⟨Set.finite_empty, by rw [Set.ncard_empty]; rfl⟩

/-- A new holder is counted, as long as the counter has room for one. -/
theorem Reads.acquire (h : Reads n holders) (hi : i ∉ holders) (hroom : holders.ncard + 1 < 2^64) :
    Reads (n + 1) (insert i holders) := by
  refine ⟨h.1.insert i, ?_⟩
  have hcard : (insert i holders).ncard = holders.ncard + 1 := Set.ncard_insert_of_notMem hi h.1
  have hone : (1 : UInt64).toNat = 1 := rfl
  rw [hcard, UInt64.toNat_add, h.2, hone, Nat.mod_eq_of_lt hroom]

/-- With no room left, a new holder makes the counter wrong. -/
theorem Reads.overflow (hi : i ∉ holders) (hfull : 2^64 ≤ holders.ncard + 1)
    (h : Reads n holders) : ¬ Reads (n + 1) (insert i holders) := by
  rintro ⟨-, heq⟩
  have hcard : (insert i holders).ncard = holders.ncard + 1 := Set.ncard_insert_of_notMem hi h.1
  have hlt : (n + 1).toNat < 2^64 := UInt64.toNat_lt _
  omega

/-- The counter of a thing that somebody holds is not zero. -/
theorem Reads.pos (h : Reads n holders) (hi : i ∈ holders) : 0 < n.toNat := by
  rw [h.2, Set.ncard_pos h.1]
  exact ⟨i, hi⟩

/-- A holder that lets go is no longer counted. -/
theorem Reads.release (h : Reads n holders) (hi : i ∈ holders) : Reads (n - 1) (holders \ {i}) := by
  refine ⟨h.1.subset Set.sdiff_subset, ?_⟩
  have hpos := h.pos hi
  have hcard : (holders \ {i}).ncard + 1 = holders.ncard :=
    Set.ncard_sdiff_singleton_add_one hi h.1
  have hone : (1 : UInt64).toNat = 1 := rfl
  have hlt : n.toNat < 2^64 := UInt64.toNat_lt _
  have hle : (1 : UInt64) ≤ n := UInt64.le_iff_toNat_le.mpr hpos
  rw [UInt64.toNat_sub_of_le _ _ hle, hone]
  have heq := h.2
  omega

/-- A holder that lets go does not make the counter wrap. -/
theorem Reads.not_wraps (h : Reads n holders) (hi : i ∈ holders) (after : UInt64) :
    ¬ Wraps n after := by
  rintro ⟨rfl, -⟩
  exact absurd (h.pos hi) (by simp)

/-- A holder that disappears with no decrement leaves the counter wrong. -/
theorem Reads.leak (h : Reads n holders) (hi : i ∈ holders) : ¬ Reads n (holders \ {i}) := by
  rintro ⟨-, heq⟩
  have hcard : (holders \ {i}).ncard + 1 = holders.ncard :=
    Set.ncard_sdiff_singleton_add_one hi h.1
  have hread := h.2
  omega

end Gauge
