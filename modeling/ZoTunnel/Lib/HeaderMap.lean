import Mathlib.Data.List.Nodup

/-!
# Header maps

The headers of an HTTP message: names in lower case, each with the values that it came with, in
their order. `insert` puts one value in place of all that the name has. A name that is new comes
last, and the others keep their places.
-/

/-- Names with their values. A name is there once, with one value at least. -/
structure HeaderMap (V : Type) where
  entries : List (String × List V)
  nodup : (entries.map Prod.fst).Nodup
  nonempty : ∀ e ∈ entries, e.2 ≠ []

namespace HeaderMap

variable {V : Type}

/-- All values of a name. -/
def getAll (m : HeaderMap V) (name : String) : List V := (m.entries.lookup name).getD []

/-- The first value of a name. -/
def get (m : HeaderMap V) (name : String) : Option V := (m.getAll name).head?

/-- Put one value in place of those of a name, or a new entry at the end. -/
def insertEntry (name : String) (v : V) : List (String × List V) → List (String × List V)
  | [] => [(name, [v])]
  | e :: es => if e.1 = name then (name, [v]) :: es else e :: insertEntry name v es

/-- The names stay, and the one inserted is among them. -/
theorem map_fst_insertEntry (name : String) (v : V) (es : List (String × List V)) :
    (insertEntry name v es).map Prod.fst =
      if name ∈ es.map Prod.fst then es.map Prod.fst else es.map Prod.fst ++ [name] := by
  induction es with
  | nil => simp [insertEntry]
  | cons e es ih =>
    unfold insertEntry
    by_cases he : e.1 = name
    · simp [he]
    · have hmem : name ∈ (e :: es).map Prod.fst ↔ name ∈ es.map Prod.fst := by
        rw [List.map_cons, List.mem_cons, or_iff_right (Ne.symm he)]
      rw [if_neg he, List.map_cons, ih]
      split_ifs with hin hcons
      · rfl
      · exact absurd (hmem.mpr hin) hcons
      · exact absurd (hmem.mp ‹_›) hin
      · rfl

/-- Put a value in place of all values of a name. -/
def insert (m : HeaderMap V) (name : String) (v : V) : HeaderMap V where
  entries := insertEntry name v m.entries
  nodup := by
    rw [map_fst_insertEntry]
    split_ifs with h
    · exact m.nodup
    · rw [← List.concat_eq_append]
      exact m.nodup.concat h
  nonempty := by
    have hne : ∀ es : List (String × List V), (∀ e ∈ es, e.2 ≠ []) →
        ∀ e ∈ insertEntry name v es, e.2 ≠ [] := by
      intro es
      induction es with
      | nil => simp [insertEntry]
      | cons e es ih =>
        intro hes
        obtain ⟨he, hrest⟩ := List.forall_mem_cons.mp hes
        unfold insertEntry
        split_ifs
        · exact List.forall_mem_cons.mpr ⟨List.cons_ne_nil v [], hrest⟩
        · exact List.forall_mem_cons.mpr ⟨he, ih hrest⟩
    exact hne m.entries m.nonempty

/-- A lookup is decided by the name of the first entry, or goes on behind it. -/
theorem lookup_cons_ite (name : String) (e : String × List V) (es : List (String × List V)) :
    (e :: es).lookup name = if name = e.1 then some e.2 else es.lookup name := by
  rw [List.lookup_cons]
  by_cases h : name = e.1
  · simp [h]
  · simp [h, beq_false_of_ne h]

/-- The values of a name after an insertion, among the entries. -/
theorem lookup_insertEntry (name name' : String) (v : V) (es : List (String × List V)) :
    (insertEntry name v es).lookup name' = if name' = name then some [v] else es.lookup name' := by
  induction es with
  | nil =>
    unfold insertEntry
    rw [lookup_cons_ite]
  | cons e es ih =>
    unfold insertEntry
    by_cases he : e.1 = name
    · rw [if_pos he, lookup_cons_ite, lookup_cons_ite, he]
      split_ifs <;> rfl
    · rw [if_neg he, lookup_cons_ite, ih, lookup_cons_ite]
      split_ifs with hname hnew
      · exact absurd (hname.symm.trans hnew) he
      all_goals rfl

/-- The name has the one value that was inserted. -/
@[simp]
theorem getAll_insert_self (m : HeaderMap V) (name : String) (v : V) :
    (m.insert name v).getAll name = [v] := by
  unfold getAll insert
  rw [lookup_insertEntry, if_pos rfl, Option.getD_some]

/-- The other names keep their values. -/
@[simp]
theorem getAll_insert_of_ne {name name' : String} (h : name' ≠ name) (m : HeaderMap V) (v : V) :
    (m.insert name v).getAll name' = m.getAll name' := by
  unfold getAll insert
  rw [lookup_insertEntry, if_neg h]

end HeaderMap
