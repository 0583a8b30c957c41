import Mathlib.Data.List.Basic

/-!
# Runs of a transition function

A transition system is a function `step : σ → α → Option σ`. A label `α` names one atomic step of
one of the parties, with every choice of the environment in it, and `none` says that the label is
not enabled. A run is a list of labels taken in order, so a statement about all lists of labels is a
statement about all interleavings.

`Visits P` says that a property holds in every state of a run, `Steps Q` that one holds of every
step, and `Meets C` that every step is taken in a state that satisfies a condition on it. The rule
`holds_of_meets` proves the first two from the third by an inductive invariant, and
`holds_iff_meets` characterizes exactly the runs along which a property holds: a condition under
which the invariant is preserved, and without which the property fails in the next state.
`visits_lt_iff` does the same for a bound on a counter, by the number of steps (`taken`) that
advance it.
-/

namespace Transition

variable {σ α : Type*} (step : σ → α → Option σ)

/-- The state after the labels of a run, or `none` when one of them is not enabled in its turn. -/
def exec : σ → List α → Option σ
  | s, [] => some s
  | s, a :: as => (step s a).bind fun s' => exec s' as

/-- `P` holds in every state of the run from `s`, the first one included. A label that is not
enabled ends the run. -/
def Visits (P : σ → Prop) : σ → List α → Prop
  | s, [] => P s
  | s, a :: as => P s ∧ ∀ s', step s a = some s' → Visits P s' as

/-- `Q` relates the states before and after every step of the run from `s`. -/
def Steps (Q : σ → α → σ → Prop) : σ → List α → Prop
  | _, [] => True
  | s, a :: as => ∀ s', step s a = some s' → Q s a s' ∧ Steps Q s' as

/-- Every step of the run from `s` is taken in a state that satisfies its condition `C`. -/
def Meets (C : σ → α → Prop) : σ → List α → Prop :=
  Steps step fun s a _ => C s a

/-- The run leads from `s` to `t`, and all its steps meet their condition `C`. -/
def Leads (C : σ → α → Prop) (s : σ) (as : List α) (t : σ) : Prop :=
  exec step s as = some t ∧ Meets step C s as

/-- How many steps the run from `s` takes with a label in `p`, up to a label that is not enabled. -/
def taken (p : α → Bool) : σ → List α → ℕ
  | _, [] => 0
  | s, a :: as =>
    match step s a with
    | some s' => (if p a then 1 else 0) + taken p s' as
    | none => 0

/-- Whether a property of the steps holds along a run can be computed. -/
instance Steps.decidable (Q : σ → α → σ → Prop) [∀ s a s', Decidable (Q s a s')] :
    ∀ s as, Decidable (Steps step Q s as)
  | _, [] => .isTrue trivial
  | s, a :: as =>
    match h : step s a with
    | none => .isTrue fun _ ht => absurd (h.symm.trans ht) nofun
    | some t =>
      have := Steps.decidable Q t as
      decidable_of_iff (Q s a t ∧ Steps step Q t as) <| by
        refine ⟨fun hQ u hu => ?_, fun hQ => hQ t h⟩
        rwa [← Option.some.inj (h.symm.trans hu)]

@[inherit_doc Steps.decidable]
instance Meets.decidable (C : σ → α → Prop) [∀ s a, Decidable (C s a)] (s : σ) (as : List α) :
    Decidable (Meets step C s as) :=
  Steps.decidable step (fun s a _ => C s a) s as

variable {step}

/-- A run that is a step and then a run. -/
theorem exec_cons {s s' : σ} {a : α} {as : List α} :
    exec step s (a :: as) = some s' ↔ ∃ t, step s a = some t ∧ exec step t as = some s' :=
  Option.bind_eq_some_iff

/-- Runs compose. -/
theorem exec_append {s t u : σ} {as bs : List α} (h : exec step s as = some t)
    (h' : exec step t bs = some u) : exec step s (as ++ bs) = some u := by
  induction as generalizing s with
  | nil =>
    obtain rfl : s = t := by simpa [exec] using h
    exact h'
  | cons a as ih =>
    obtain ⟨r, hr, hrun⟩ := exec_cons.mp h
    exact exec_cons.mpr ⟨r, hr, ih hrun⟩

/-- A property of the steps holds along a run that is two runs. -/
theorem Steps.append {Q : σ → α → σ → Prop} {s t : σ} {as bs : List α} (h : Steps step Q s as)
    (hrun : exec step s as = some t) (h' : Steps step Q t bs) : Steps step Q s (as ++ bs) := by
  induction as generalizing s with
  | nil =>
    obtain rfl : s = t := by simpa [exec] using hrun
    exact h'
  | cons a as ih =>
    intro u hu
    obtain ⟨r, hr, hrun⟩ := exec_cons.mp hrun
    obtain rfl : r = u := Option.some.inj (hr.symm.trans hu)
    exact ⟨(h r hr).1, ih (h r hr).2 hrun⟩

/-- A property of every step holds of the last one. -/
theorem Steps.last {Q : σ → α → σ → Prop} {s t u : σ} {as : List α} {a : α}
    (h : Steps step Q s (as ++ [a])) (hrun : exec step s as = some t) (ht : step t a = some u) :
    Q t a u := by
  induction as generalizing s with
  | nil =>
    obtain rfl : s = t := by simpa [exec] using hrun
    exact (h u ht).1
  | cons b as ih =>
    obtain ⟨r, hr, hrun⟩ := exec_cons.mp hrun
    exact ih (h r hr).2 hrun

/-- Runs whose steps meet their condition compose. -/
theorem Leads.append {C : σ → α → Prop} {s t u : σ} {as bs : List α} (h : Leads step C s as t)
    (h' : Leads step C t bs u) : Leads step C s (as ++ bs) u :=
  ⟨exec_append h.1 h'.1, Steps.append h.2 h.1 h'.2⟩

/-- A property of every step with one of these labels holds along a run of them. -/
theorem Steps.of_forall {Q : σ → α → σ → Prop} {as : List α} (h : ∀ a ∈ as, ∀ s s', Q s a s')
    (s : σ) : Steps step Q s as := by
  induction as generalizing s with
  | nil => trivial
  | cons a as ih =>
    intro t _
    exact ⟨h a List.mem_cons_self s t, ih (fun b hb => h b (List.mem_cons_of_mem _ hb)) t⟩

/-- A property of every state holds in the first one. -/
theorem Visits.head {P : σ → Prop} {s : σ} {as : List α} (h : Visits step P s as) : P s := by
  cases as with
  | nil => exact h
  | cons a as => exact h.1

/-- A property of every state holds in the one that the run ends in. -/
theorem Visits.last {P : σ → Prop} {s s' : σ} {as : List α} (h : Visits step P s as)
    (hrun : exec step s as = some s') : P s' := by
  induction as generalizing s with
  | nil =>
    obtain rfl : s = s' := by simpa [exec] using hrun
    exact h
  | cons a as ih =>
    obtain ⟨t, ht, hrun⟩ := exec_cons.mp hrun
    exact ih (h.2 t ht) hrun

/-- A weaker property holds along the same run. -/
theorem Visits.mono {P P' : σ → Prop} {s : σ} {as : List α} (h : Visits step P s as)
    (hP : ∀ s, P s → P' s) : Visits step P' s as := by
  induction as generalizing s with
  | nil => exact hP s h
  | cons a as ih => exact ⟨hP s h.1, fun t ht => ih (h.2 t ht)⟩

/-- Two properties that hold along a run hold together. -/
theorem Visits.and {P P' : σ → Prop} {s : σ} {as : List α} (h : Visits step P s as)
    (h' : Visits step P' s as) : Visits step (fun s => P s ∧ P' s) s as := by
  induction as generalizing s with
  | nil => exact ⟨h, h'⟩
  | cons a as ih => exact ⟨⟨h.1, h'.1⟩, fun t ht => ih (h.2 t ht) (h'.2 t ht)⟩

/-- An invariant that each step which meets its condition preserves, and a property of these steps,
hold along every run whose steps all meet theirs. -/
theorem holds_of_meets {I : σ → Prop} {Q : σ → α → σ → Prop} {C : σ → α → Prop}
    (hstep : ∀ s a s', I s → C s a → step s a = some s' → I s' ∧ Q s a s') {s : σ} {as : List α}
    (hs : I s) (h : Meets step C s as) : Steps step Q s as ∧ Visits step I s as := by
  induction as generalizing s with
  | nil => exact ⟨trivial, hs⟩
  | cons a as ih =>
    have hnext : ∀ t, step s a = some t →
        Q s a t ∧ Steps step Q t as ∧ Visits step I t as := by
      intro t ht
      obtain ⟨hC, hrest⟩ := h t ht
      obtain ⟨hI, hQ⟩ := hstep s a t hs hC ht
      exact ⟨hQ, ih hI hrest⟩
    exact ⟨fun t ht => ⟨(hnext t ht).1, (hnext t ht).2.1⟩, hs, fun t ht => (hnext t ht).2.2⟩

/-- An invariant that holds at the start, and that each step which meets its condition preserves,
holds along every run whose steps all meet theirs. -/
theorem visits_of_meets {I : σ → Prop} {C : σ → α → Prop}
    (hstep : ∀ s a s', I s → C s a → step s a = some s' → I s') {s : σ} {as : List α} (hs : I s)
    (h : Meets step C s as) : Visits step I s as :=
  (holds_of_meets (Q := fun _ _ _ => True)
    (fun s a t hI hC ht => ⟨hstep s a t hI hC ht, trivial⟩) hs h).2

/-- An invariant of every step holds along every run. -/
theorem visits_of_invariant {I : σ → Prop}
    (hstep : ∀ s a s', I s → step s a = some s' → I s') {s : σ} (hs : I s) (as : List α) :
    Visits step I s as := by
  induction as generalizing s with
  | nil => exact hs
  | cons a as ih => exact ⟨hs, fun t ht => ih (hstep s a t hs ht)⟩

/-- A property that no step establishes holds all along a run that ends with it. -/
theorem visits_of_last {I P : σ → Prop} (hI : ∀ s a s', I s → step s a = some s' → I s')
    (hback : ∀ s a s', I s → step s a = some s' → P s' → P s) {s s' : σ} {as : List α} (hs : I s)
    (hrun : exec step s as = some s') (hP : P s') : Visits step P s as := by
  induction as generalizing s with
  | nil =>
    obtain rfl : s = s' := by simpa [exec] using hrun
    exact hP
  | cons a as ih =>
    obtain ⟨t, ht, hrun⟩ := exec_cons.mp hrun
    have hV := ih (hI s a t hs ht) hrun
    refine ⟨hback s a t hs ht hV.head, fun u hu => ?_⟩
    exact Option.some.inj (ht.symm.trans hu) ▸ hV

/-- A set of states that no step leaves is not left by a run. -/
theorem exec_invariant {I : σ → Prop} (hstep : ∀ s a s', I s → step s a = some s' → I s')
    {s s' : σ} {as : List α} (hs : I s) (h : exec step s as = some s') : I s' :=
  (visits_of_invariant hstep hs as).last h

/-- When every step takes from a counter, the run is as long as the counter is high at most. -/
theorem length_le_of_decreasing {f : σ → ℕ} (hf : ∀ s a s', step s a = some s' → f s' < f s)
    {s s' : σ} {as : List α} (h : exec step s as = some s') : as.length + f s' ≤ f s := by
  induction as generalizing s with
  | nil =>
    obtain rfl : s = s' := by simpa [exec] using h
    simp
  | cons a as ih =>
    obtain ⟨t, ht, hrun⟩ := exec_cons.mp h
    have hlt := hf s a t ht
    have hrest := ih hrun
    rw [List.length_cons]
    omega

/-- A counter that the steps with a label in `p` advance by one, and that no other step changes,
stays below a bound along exactly the runs that take few enough steps with a label in `p`. -/
theorem visits_lt_iff {I : σ → Prop} {f : σ → ℕ} {p : α → Bool}
    (hI : ∀ s a s', I s → step s a = some s' → I s')
    (hf : ∀ s a s', I s → step s a = some s' → f s' = f s + if p a then 1 else 0)
    (n : ℕ) {s : σ} (hs : I s) (as : List α) :
    Visits step (fun s => f s < n) s as ↔ f s + taken step p s as < n := by
  induction as generalizing s with
  | nil => exact Iff.rfl
  | cons a as ih =>
    unfold Visits taken
    cases ht : step s a with
    | none => simp
    | some t =>
      -- The step counts once if it is in `p`, and the rest of the run by induction.
      have hcount := hf s a t hs ht
      have hrest := ih (hI s a t hs ht)
      constructor
      · rintro ⟨-, hV⟩
        have := hrest.mp (hV t rfl)
        dsimp only
        omega
      · intro hlt
        dsimp only at hlt
        refine ⟨by omega, fun t' ht' => ?_⟩
        obtain rfl := Option.some.inj ht'
        exact hrest.mpr (by omega)

/-- The runs along which a property of the states and one of the steps hold are exactly those whose
steps all meet `C`, when `C` preserves an invariant that gives both properties, and a step outside
`C` breaks one of them. -/
theorem holds_iff_meets {I P : σ → Prop} {Q : σ → α → σ → Prop} {C : σ → α → Prop}
    (hstep : ∀ s a s', I s → C s a → step s a = some s' → I s' ∧ Q s a s')
    (hP : ∀ s, I s → P s)
    (hbreak : ∀ s a s', I s → ¬ C s a → step s a = some s' → ¬ (Q s a s' ∧ P s'))
    {s : σ} (hs : I s) (as : List α) :
    (Steps step Q s as ∧ Visits step P s as) ↔ Meets step C s as := by
  constructor
  · intro h
    induction as generalizing s with
    | nil => trivial
    | cons a as ih =>
      obtain ⟨hQ, -, hV⟩ := h
      intro t ht
      -- Outside `C` the step itself breaks one of the properties.
      by_cases hC : C s a
      · exact ⟨hC, ih (hstep s a t hs hC ht).1 ⟨(hQ t ht).2, hV t ht⟩⟩
      · exact absurd ⟨(hQ t ht).1, (hV t ht).head⟩ (hbreak s a t hs hC ht)
  · intro h
    obtain ⟨hQ, hI⟩ := holds_of_meets hstep hs h
    exact ⟨hQ, hI.mono hP⟩

/-- The runs along which a property of the states holds are exactly those whose steps all meet `C`,
when `C` preserves an invariant that gives the property, and a step outside `C` breaks it. -/
theorem visits_iff_meets {I P : σ → Prop} {C : σ → α → Prop}
    (hstep : ∀ s a s', I s → C s a → step s a = some s' → I s') (hP : ∀ s, I s → P s)
    (hbreak : ∀ s a s', I s → ¬ C s a → step s a = some s' → ¬ P s') {s : σ} (hs : I s)
    (as : List α) : Visits step P s as ↔ Meets step C s as := by
  have h := holds_iff_meets (Q := fun _ _ _ => True)
    (fun s a t hI hC ht => ⟨hstep s a t hI hC ht, trivial⟩) hP
    (fun s a t hI hC ht hQP => hbreak s a t hI hC ht hQP.2) hs as
  have hQ : Steps step (fun _ _ _ => True) s as := Steps.of_forall (fun _ _ _ _ => trivial) s
  exact ⟨fun hV => h.mp ⟨hQ, hV⟩, fun hC => (h.mpr hC).2⟩

end Transition
