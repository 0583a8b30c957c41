import Mathlib.Logic.Function.Basic

/-!
# Exclusive leases by name

A table in which a party takes a free name, and gives a name up by the name alone. Nothing checks on
release that the party releasing is the one that holds the name. The table is sound all the same
when a party only ever releases the name that it holds, and `Table.agree` is the invariant that says
so: who owns a name and which name a party holds are the same relation.

The invariant is a field of the table, so the operations carry its proof: `acquire` asks that the
name is free and that the party holds none, `release` that the party holds the name.
-/

namespace Lease

/-- Names `κ` leased to parties `ο`, each name to one party at most, and each party one name. -/
structure Table (κ ο : Type*) where
  /-- The party that owns a name. -/
  owner : κ → Option ο
  /-- The name that a party holds. -/
  holds : ο → Option κ
  /-- A party owns the name that it holds, and holds the name that it owns. -/
  agree : ∀ k o, owner k = some o ↔ holds o = some k

variable {κ ο : Type*}

/-- The table with no leases. -/
def Table.empty : Table κ ο := ⟨fun _ => none, fun _ => none, by simp⟩

variable [DecidableEq κ] [DecidableEq ο]

/-- Lease a free name to a party that holds none. -/
def Table.acquire (t : Table κ ο) (k : κ) (o : ο) (hk : t.owner k = none)
    (ho : t.holds o = none) : Table κ ο where
  owner := Function.update t.owner k (some o)
  holds := Function.update t.holds o (some k)
  agree k' o' := by
    -- Away from `k` and `o` nothing changes, and neither had a lease before.
    have hagree := t.agree k' o'
    rcases eq_or_ne k' k with rfl | hk'
    · rcases eq_or_ne o' o with rfl | ho'
      · simp
      · rw [Function.update_self, Function.update_of_ne ho', ← hagree, hk]
        simp [ho'.symm]
    · rcases eq_or_ne o' o with rfl | ho'
      · rw [Function.update_of_ne hk', Function.update_self, hagree, ho]
        simp [hk'.symm]
      · rw [Function.update_of_ne hk', Function.update_of_ne ho', hagree]

/-- Give up a name, by a party that holds it. -/
def Table.release (t : Table κ ο) (k : κ) (o : ο) (h : t.holds o = some k) : Table κ ο where
  owner := Function.update t.owner k none
  holds := Function.update t.holds o none
  agree k' o' := by
    -- Away from `k` and `o` nothing changes, and they had the lease of each other.
    have hagree := t.agree k' o'
    have hk := (t.agree k o).mpr h
    rcases eq_or_ne k' k with rfl | hk'
    · rcases eq_or_ne o' o with rfl | ho'
      · simp
      · rw [Function.update_self, Function.update_of_ne ho', ← hagree, hk]
        simp [ho'.symm]
    · rcases eq_or_ne o' o with rfl | ho'
      · rw [Function.update_of_ne hk', Function.update_self, hagree, h]
        simp [hk'.symm]
      · rw [Function.update_of_ne hk', Function.update_of_ne ho', hagree]

end Lease
