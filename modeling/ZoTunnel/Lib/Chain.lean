import Mathlib.Data.List.Nodup
import Mathlib.Logic.Function.Basic

/-!
# Chains of successors

Following a partial function `next` from element to element. `Path next a l` says that the walk from
`a` visits the elements of `l` in this order, and that it ends there. There is at most one such `l`,
and it repeats no element, so a walk that ends is a walk without a loop.

`AllEnd.update_some_iff` says which change of one successor keeps every walk finite: `s` may get the
successor `e` exactly when the walk from `e` ends and does not come through `s`.
-/

namespace Chain

variable {α : Type*}

/-- The walk from an element visits the elements of a list, and ends. -/
inductive Path (next : α → Option α) : α → List α → Prop where
  /-- The walk ends at an element with no successor. -/
  | last {a : α} (h : next a = none) : Path next a [a]
  /-- The walk goes on to the successor. -/
  | cons {a b : α} {l : List α} (h : next a = some b) (hl : Path next b l) : Path next a (a :: l)

/-- The walk from every element ends. -/
def AllEnd (next : α → Option α) : Prop := ∀ a, ∃ l, Path next a l

variable {next next' : α → Option α} {a b s e : α} {l l' : List α}

/-- A walk has one path. -/
theorem Path.unique (h : Path next a l) (h' : Path next a l') : l = l' := by
  induction h generalizing l' with
  | last hnone =>
    cases h' with
    | last => rfl
    | cons hsome => rw [hnone] at hsome; cases hsome
  | cons hsome _ ih =>
    cases h' with
    | last hnone => rw [hnone] at hsome; cases hsome
    | cons hsome' hl' =>
      obtain rfl := Option.some.inj (hsome.symm.trans hsome')
      rw [ih hl']

/-- A walk visits the element that it starts from. -/
theorem Path.mem_head (h : Path next a l) : a ∈ l := by
  cases h <;> exact List.mem_cons_self

/-- The walk from an element on the path is the rest of the path. -/
theorem Path.of_mem (h : Path next a l) (hb : b ∈ l) :
    ∃ l', Path next b l' ∧ l'.length ≤ l.length := by
  induction h with
  | last hnone =>
    obtain rfl := List.mem_singleton.mp hb
    exact ⟨_, .last hnone, Nat.le_refl _⟩
  | cons hsome hl ih =>
    rcases List.mem_cons.mp hb with rfl | hb
    · exact ⟨_, .cons hsome hl, Nat.le_refl _⟩
    · obtain ⟨l', hl', hlen⟩ := ih hb
      exact ⟨l', hl', by rw [List.length_cons]; omega⟩

/-- A walk that ends visits no element twice. -/
theorem Path.nodup (h : Path next a l) : l.Nodup := by
  induction h with
  | last => exact List.nodup_singleton _
  | @cons a _ l hsome hl ih =>
    refine List.nodup_cons.mpr ⟨fun ha => ?_, ih⟩
    -- A second visit would start the whole path again, in fewer elements.
    obtain ⟨l', hl', hlen⟩ := hl.of_mem ha
    obtain rfl := (Path.cons hsome hl).unique hl'
    rw [List.length_cons] at hlen
    omega

/-- Between two elements that are each other's successor the walk does not end. -/
theorem not_path_of_cycle (hab : next a = some b) (hba : next b = some a) : ¬ Path next a l := by
  intro h
  cases h with
  | last hnone => rw [hab] at hnone; cases hnone
  | cons hsome hl =>
    obtain rfl := Option.some.inj (hab.symm.trans hsome)
    have hnodup := (Path.cons hab hl).nodup
    cases hl with
    | last hnone => rw [hba] at hnone; cases hnone
    | cons hsome' hl' =>
      obtain rfl := Option.some.inj (hba.symm.trans hsome')
      have ha := hl'.mem_head
      exact (List.nodup_cons.mp hnodup).1 (List.mem_cons_of_mem _ ha)

/-- Only the successors of the elements on the path matter. -/
theorem Path.congr (h : Path next a l) (heq : ∀ b ∈ l, next' b = next b) : Path next' a l := by
  induction h with
  | @last a hnone => exact .last ((heq a List.mem_cons_self).trans hnone)
  | @cons a _ l hsome hl ih =>
    exact .cons ((heq a List.mem_cons_self).trans hsome)
      (ih fun c hc => heq c (List.mem_cons_of_mem _ hc))

variable [DecidableEq α]

/-- A path that does not come through `s` stays when the successor of `s` changes. -/
theorem Path.update (h : Path next a l) (hs : s ∉ l) (v : Option α) :
    Path (Function.update next s v) a l :=
  h.congr fun _ hb => Function.update_of_ne (ne_of_mem_of_not_mem hb hs) v next

/-- When every walk ends, and the walk from `s` ends with its new successor, every walk still
ends. -/
theorem AllEnd.update (h : AllEnd next) {v : Option α}
    (hs : Path (Function.update next s v) s l') : AllEnd (Function.update next s v) := by
  intro a
  obtain ⟨l, hl⟩ := h a
  -- The walk is the old one, unless it comes to `s` and goes on with the new one from there.
  induction hl with
  | @last a hnone =>
    rcases eq_or_ne a s with rfl | hne
    · exact ⟨l', hs⟩
    · exact ⟨[a], .last (by rw [Function.update_of_ne hne, hnone])⟩
  | @cons a _ l hsome hl ih =>
    rcases eq_or_ne a s with rfl | hne
    · exact ⟨l', hs⟩
    · obtain ⟨l'', hl''⟩ := ih
      exact ⟨a :: l'', .cons (by rw [Function.update_of_ne hne, hsome]) hl''⟩

/-- Every walk still ends when an element loses its successor. -/
theorem AllEnd.update_none (h : AllEnd next) (s : α) : AllEnd (Function.update next s none) :=
  h.update (.last (Function.update_self ..))

/-- When every walk ends, and `s` gets the successor `e`, every walk still ends exactly if the walk
from `e` does not come through `s`. -/
theorem AllEnd.update_some_iff (h : AllEnd next) :
    AllEnd (Function.update next s (some e)) ↔ ∃ l, Path next e l ∧ s ∉ l := by
  constructor
  · intro hall
    obtain ⟨l, hl⟩ := hall s
    cases hl with
    | last hnone => rw [Function.update_self] at hnone; cases hnone
    | @cons _ b l hsome hl =>
      rw [Function.update_self] at hsome
      obtain rfl := Option.some.inj hsome
      -- The walk from `s` goes to `e` first, and does not come back.
      have hs := (List.nodup_cons.mp (Path.cons (by rw [Function.update_self]) hl).nodup).1
      exact ⟨l, hl.congr fun c hc =>
        (Function.update_of_ne (ne_of_mem_of_not_mem hc hs) _ next).symm, hs⟩
  · rintro ⟨l, hl, hs⟩
    exact h.update (.cons (Function.update_self ..) (hl.update hs _))

end Chain
