import Mathlib.Data.List.Chain
import ZoTunnel.Lib.Sliding

/-!
# Fixed windows

Times in their order, divided into windows: a window begins with the first time that is a length `d`
or more after the last window's beginning, and takes in all others. A limiter that counts by such
windows admits the first `n` times of each (`counted`).

This bounds the number of times in each window, but not in the intervals that reach from one window
into the next. `atMost_admitted_iff` says when it does, in terms of the times only: in two windows
that follow each other, counted times that are `n` apart in their common order have to be `d` apart.
-/

namespace Sliding

variable {α : Type*}

/-- A window: the time that it begins with, and those after that, in their order. -/
structure Window (α : Type*) where
  start : α
  later : List α
  deriving DecidableEq, Repr

/-- All times of a window. -/
def Window.times (w : Window α) : List α := w.start :: w.later

/-- The first `n` times of a window. -/
def Window.counted (n : ℕ) (w : Window α) : List α := w.times.take n

/-- The times that are counted in some window. The latest window and the latest time are first. -/
def admitted (n : ℕ) (ws : List (Window α)) : List α := ws.flatMap fun w => (w.counted n).reverse

/-- A time that is counted is one of the window's times. -/
theorem Window.mem_times {n : ℕ} {w : Window α} {t : α} (h : t ∈ w.counted n) : t ∈ w.times :=
  List.mem_of_mem_take h

/-- What the window of a time counts when the time is added: the time, if there is room. -/
theorem Window.counted_concat (n : ℕ) (w : Window α) (t : α) :
    (Window.mk w.start (w.later ++ [t])).counted n =
      if (w.counted n).length < n then w.counted n ++ [t] else w.counted n := by
  have htimes : (Window.mk w.start (w.later ++ [t])).times = w.times ++ [t] := rfl
  unfold Window.counted
  rw [htimes, List.length_take]
  split_ifs with hroom
  · have hlt : w.times.length < n := by omega
    rw [List.take_of_length_le (by simp; omega), List.take_of_length_le hlt.le]
  · exact List.take_append_of_le_length (by omega)

/-- A time that is counted in some window is one of its times. -/
theorem mem_admitted {n : ℕ} {ws : List (Window α)} {t : α} (h : t ∈ admitted n ws) :
    ∃ w ∈ ws, t ∈ w.times := by
  obtain ⟨w, hw, ht⟩ := List.mem_flatMap.mp h
  exact ⟨w, hw, Window.mem_times (List.mem_reverse.mp ht)⟩

variable [AddCommMonoid α] [LinearOrder α]

/-- The windows, latest first, when one more time comes: it begins a new one, or is in the last. -/
def extend (d t : α) : List (Window α) → List (Window α)
  | [] => [⟨t, []⟩]
  | w :: ws => if w.start + d ≤ t then ⟨t, []⟩ :: w :: ws else ⟨w.start, w.later ++ [t]⟩ :: ws

/-- The windows of these times, latest first. -/
def windows (d : α) (times : List α) : List (Window α) :=
  times.foldl (fun ws t => extend d t ws) []

/-- Where the `j`-th counted time of a window is the `n`-th after the `i`-th counted time of the
window before, it is at least `d` later. -/
def Apart (n : ℕ) (d : α) (w before : Window α) : Prop :=
  ∀ (i j : ℕ) (t u : α), (before.counted n)[i]? = some t → (w.counted n)[j]? = some u →
    (before.counted n).length + j = n + i → t + d ≤ u

/-- Any two windows that follow each other are apart. -/
def Spaced (n : ℕ) (d : α) (ws : List (Window α)) : Prop := ws.IsChain (Apart n d)

/-- What holds of the windows of times in their order, up to `now`. -/
structure Ordered (d now : α) (ws : List (Window α)) : Prop where
  starts : ws.Pairwise fun w before => before.start + d ≤ w.start
  sorted : ∀ w ∈ ws, w.times.Pairwise (· ≤ ·)
  within : ∀ w ∈ ws, ∀ t ∈ w.times, t < w.start + d
  past : ∀ w ∈ ws, ∀ t ∈ w.times, t ≤ now

/-- A time in the last window's length is in that window. -/
theorem extend_cons (d t : α) (w : Window α) (ws : List (Window α)) :
    extend d t (w :: ws) = if w.start + d ≤ t then ⟨t, []⟩ :: w :: ws
      else ⟨w.start, w.later ++ [t]⟩ :: ws := rfl

/-- The windows of times and one more. -/
@[simp]
theorem windows_concat (d t : α) (times : List α) :
    windows d (times ++ [t]) = extend d t (windows d times) := by
  unfold windows
  rw [List.foldl_append]
  rfl

variable {d t now : α} {n : ℕ} {w before : Window α} {ws : List (Window α)}

/-- A window begins with the earliest of its times. -/
theorem Ordered.start_le (h : Ordered d now ws) (hw : w ∈ ws) : ∀ t ∈ w.times, w.start ≤ t := by
  intro t ht
  rcases List.mem_cons.mp ht with rfl | hlater
  · exact le_rfl
  · exact List.rel_of_pairwise_cons (h.sorted w hw) hlater

/-- The windows before the last one are in order, too. -/
theorem Ordered.tail (h : Ordered d now (w :: ws)) : Ordered d now ws := by
  refine ⟨h.starts.of_cons, fun u hu => ?_, fun u hu => ?_, fun u hu => ?_⟩
  · exact h.sorted u (List.mem_cons_of_mem _ hu)
  · exact h.within u (List.mem_cons_of_mem _ hu)
  · exact h.past u (List.mem_cons_of_mem _ hu)

variable [IsOrderedCancelAddMonoid α]

/-- Times that are in order stay so when a time after them comes. -/
theorem Ordered.extend (h : Ordered d now ws) (hd : 0 < d) (ht : now ≤ t) :
    Ordered d t (extend d t ws) := by
  have hpast : ∀ w ∈ ws, ∀ u ∈ w.times, u ≤ t := fun w hw u hu => le_trans (h.past w hw u hu) ht
  have hnew : t < t + d := lt_add_of_pos_right t hd
  cases ws with
  | nil =>
    have hone : ∀ u ∈ Sliding.extend d t [], u = ⟨t, []⟩ := fun u hu => List.mem_singleton.mp hu
    refine ⟨List.pairwise_singleton _ _, fun u hu => ?_, fun u hu => ?_, fun u hu => ?_⟩
    all_goals rw [hone u hu]
    · exact List.pairwise_singleton _ _
    · simpa [Window.times] using hnew
    · simp [Window.times]
  | cons w ws =>
    have hmem : w ∈ w :: ws := List.mem_cons_self
    rw [extend_cons]
    split_ifs with hover
    · -- All windows that there are began a length `d` before the new one.
      have hstarts : ∀ u ∈ w :: ws, u.start + d ≤ t := by
        intro u hu
        rcases List.mem_cons.mp hu with rfl | hu
        · exact hover
        · calc u.start + d
            _ ≤ w.start := List.rel_of_pairwise_cons h.starts hu
            _ ≤ t := hpast w hmem w.start List.mem_cons_self
      refine ⟨List.pairwise_cons.mpr ⟨hstarts, h.starts⟩, ?_, ?_, ?_⟩
      all_goals rw [List.forall_mem_cons]
      · exact ⟨List.pairwise_singleton _ _, h.sorted⟩
      · exact ⟨by simpa [Window.times] using hnew, h.within⟩
      · exact ⟨by simp [Window.times], hpast⟩
    · have htimes : (Window.mk w.start (w.later ++ [t])).times = w.times ++ [t] := rfl
      refine ⟨List.pairwise_cons.mpr (List.pairwise_cons.mp h.starts), ?_, ?_, ?_⟩
      all_goals rw [List.forall_mem_cons, htimes]
      · refine ⟨List.pairwise_append.mpr ⟨h.sorted w hmem, List.pairwise_singleton _ _, ?_⟩, ?_⟩
        · intro u hu v hv
          rw [List.mem_singleton.mp hv]
          exact hpast w hmem u hu
        · exact h.tail.sorted
      · refine ⟨List.forall_mem_append.mpr ⟨h.within w hmem, ?_⟩, h.tail.within⟩
        simpa using hover
      · refine ⟨List.forall_mem_append.mpr ⟨hpast w hmem, by simp⟩, ?_⟩
        exact fun u hu => hpast u (List.mem_cons_of_mem _ hu)

/-- The windows of times in their order. -/
theorem ordered_windows (hd : 0 < d) {times : List α} (hsorted : times.Pairwise (· ≤ ·))
    (hpast : ∀ t ∈ times, t ≤ now) : Ordered d now (windows d times) := by
  induction times using List.reverseRecOn generalizing now with
  | nil => exact ⟨List.Pairwise.nil, by simp [windows], by simp [windows], by simp [windows]⟩
  | append_singleton times t ih =>
    obtain ⟨hrest, -, hlast⟩ := List.pairwise_append.mp hsorted
    rw [windows_concat]
    have h := (ih hrest fun u hu => hlast u hu t (by simp)).extend hd le_rfl
    have ht : t ≤ now := hpast t (by simp)
    exact ⟨h.starts, h.sorted, h.within, fun w hw u hu => le_trans (h.past w hw u hu) ht⟩

omit [IsOrderedCancelAddMonoid α] in
/-- What is admitted when one more time comes: the time, unless its window is full. -/
theorem admitted_extend (hn : 0 < n) (d t : α) (ws : List (Window α)) :
    admitted n (extend d t ws) =
      if ∃ w ∈ ws.head?, t < w.start + d ∧ n ≤ (w.counted n).length then admitted n ws
      else t :: admitted n ws := by
  have hfirst : (Window.mk t []).counted n = [t] := List.take_of_length_le hn
  cases ws with
  | nil => simp [admitted, extend, hfirst]
  | cons w ws =>
    have hw : (∃ u ∈ (w :: ws).head?, t < u.start + d ∧ n ≤ (u.counted n).length) ↔
        t < w.start + d ∧ n ≤ (w.counted n).length := by simp
    rw [if_congr hw rfl rfl, extend_cons]
    by_cases hover : w.start + d ≤ t
    · rw [if_pos hover, if_neg fun hfull => absurd hover (not_le.mpr hfull.1)]
      simp [admitted, hfirst]
    · have hlt : t < w.start + d := not_le.mp hover
      rw [if_neg hover]
      by_cases hfull : n ≤ (w.counted n).length
      · rw [if_pos ⟨hlt, hfull⟩]
        simp [admitted, Window.counted_concat, not_lt.mpr hfull]
      · rw [if_neg fun h => hfull h.2]
        simp [admitted, Window.counted_concat, not_le.mp hfull]

/-- Among times in their order, those from the `i`-th on are recent exactly when it is. -/
theorem recent_add_lt_length_iff {times : List α} (hsorted : times.Pairwise (· ≤ ·)) {i : ℕ}
    (hi : times[i]? = some t) : recent d now times + i < times.length ↔ t + d ≤ now := by
  induction times generalizing i with
  | nil => simp at hi
  | cons a times ih =>
    obtain ⟨hfirst, hrest⟩ := List.pairwise_cons.mp hsorted
    have hall : now < a + d → recent d now times = times.length := by
      intro ha
      refine List.countP_eq_length.mpr fun u hu => decide_eq_true ?_
      exact lt_of_lt_of_le ha (add_le_add_left (hfirst u hu) d)
    have hle : recent d now times ≤ times.length := List.countP_le_length
    have hcons : recent d now (a :: times) =
        recent d now times + if now < a + d then 1 else 0 := by
      unfold recent
      rw [List.countP_cons]
      simp only [decide_eq_true_eq]
    rw [hcons, List.length_cons]
    cases i with
    | zero =>
      obtain rfl : a = t := by simpa using hi
      by_cases ha : now < a + d
      · rw [if_pos ha, hall ha]
        simp [ha]
      · rw [if_neg ha]
        have hge : a + d ≤ now := not_lt.mp ha
        simp only [hge, iff_true]
        omega
    | succ i =>
      have hi' : times[i]? = some t := by simpa using hi
      have hmem : t ∈ times := List.mem_of_getElem? hi'
      by_cases ha : now < a + d
      · have ht : now < t + d := lt_of_lt_of_le ha (add_le_add_left (hfirst t hmem) d)
        rw [if_pos ha, hall ha]
        simp only [not_le.mpr ht, iff_false]
        omega
      · rw [if_neg ha, ← ih hrest hi']
        omega

/-- Among `n` times, the recent ones leave room for `k` others exactly when the one that the `k`-th
after the last is `n` after is not recent. -/
theorem recent_add_lt_iff {times : List α} (hsorted : times.Pairwise (· ≤ ·))
    {k : ℕ} (hk : k < n) :
    recent d now times + k < n ↔
      ∀ (i : ℕ) (t : α), times[i]? = some t → times.length + k = n + i → t + d ≤ now := by
  have hcount : recent d now times ≤ times.length := List.countP_le_length
  by_cases hfew : times.length + k < n
  · exact iff_of_true (by omega) fun i _ _ hi => by omega
  · -- There is such a time, since `k` is less than `n`.
    obtain ⟨i, hi⟩ : ∃ i, times.length + k = n + i := ⟨times.length + k - n, by omega⟩
    have hlt : i < times.length := by omega
    have hget : times[i]? = some times[i] := List.getElem?_eq_getElem hlt
    have hiff : recent d now times + i < times.length ↔ times[i] + d ≤ now :=
      recent_add_lt_length_iff hsorted hget
    constructor
    · intro hroom j t hj hjk
      obtain rfl : j = i := by omega
      obtain rfl : times[j] = t := Option.some.inj (hget.symm.trans hj)
      exact hiff.mp (by omega)
    · intro hall
      have := hiff.mpr (hall i _ hget hi)
      omega

/-- No time is recent whose window began `d` before a point that is `d` before now. -/
theorem recent_admitted_eq_zero {s : α} (hwithin : ∀ w ∈ ws, ∀ t ∈ w.times, t < w.start + d)
    (hstarts : ∀ w ∈ ws, w.start + d ≤ s) (hs : s + d ≤ now) :
    recent d now (admitted n ws) = 0 := by
  refine List.countP_eq_zero.mpr fun t ht => ?_
  obtain ⟨w, hw, ht⟩ := mem_admitted ht
  have hold : t + d ≤ now :=
    calc t + d
      _ ≤ w.start + d + d := add_le_add_left (hwithin w hw t ht).le d
      _ ≤ s + d := add_le_add_left (hstarts w hw) d
      _ ≤ now := hs
  simpa using hold

omit [IsOrderedCancelAddMonoid α] in
/-- The recent times of the last window and of those before it. -/
theorem recent_admitted_cons (n : ℕ) (d now : α) (w : Window α) (ws : List (Window α)) :
    recent d now (admitted n (w :: ws)) =
      recent d now (w.counted n) + recent d now (admitted n ws) := by
  unfold recent admitted
  rw [List.flatMap_cons, List.countP_append, List.countP_reverse]

omit [IsOrderedCancelAddMonoid α] in
/-- A window that begins when the last one is over is apart from it. -/
theorem apart_of_over (hover : w.start + d ≤ t) : Apart n d ⟨t, []⟩ w := by
  intro i j u v hu hv hij
  have hle : (w.counted n).length ≤ n := List.length_take_le _ _
  obtain ⟨hi, rfl⟩ := List.getElem?_eq_some_iff.mp hu
  obtain ⟨hj, rfl⟩ := List.getElem?_eq_some_iff.mp hv
  have hone : ((Window.mk t []).counted n).length ≤ 1 := List.length_take_le' _ _
  -- Only the first time of a full window is `n` before the first one of the next.
  obtain rfl : j = 0 := by omega
  obtain rfl : i = 0 := by omega
  simpa [Window.counted, Window.times] using hover

omit [IsOrderedCancelAddMonoid α] in
/-- A window that has room is apart from the one before with one more time exactly if it was, and if
the counted time that the new one is `n` after is not recent. -/
theorem apart_concat_iff (hroom : (w.counted n).length < n) :
    Apart n d ⟨w.start, w.later ++ [t]⟩ before ↔ Apart n d w before ∧
      ∀ (i : ℕ) (u : α), (before.counted n)[i]? = some u →
        (before.counted n).length + (w.counted n).length = n + i → u + d ≤ t := by
  unfold Apart
  rw [Window.counted_concat, if_pos hroom]
  constructor
  · intro h
    constructor
    · intro i j u v hu hv hij
      have hj : j < (w.counted n).length := (List.getElem?_eq_some_iff.mp hv).1
      exact h i j u v hu (by rw [List.getElem?_append_left hj, hv]) hij
    · exact fun i u hu hi => h i _ u t hu List.getElem?_concat_length hi
  · rintro ⟨hapart, hlast⟩ i j u v hu hv hij
    rcases Nat.lt_trichotomy j (w.counted n).length with hj | rfl | hj
    · rw [List.getElem?_append_left hj] at hv
      exact hapart i j u v hu hv hij
    · rw [List.getElem?_concat_length] at hv
      exact Option.some.inj hv ▸ hlast i u hu hij
    · rw [List.getElem?_eq_none (by simp; omega)] at hv
      cases hv

/-- One more time keeps the windows apart exactly if its window is full, or it is counted, and fewer
than `n` of those that were counted are recent. -/
theorem spaced_extend_iff (h : Ordered d now ws) (hn : 0 < n) (ht : now ≤ t) :
    Spaced n d (extend d t ws) ↔ Spaced n d ws ∧
      ((∃ w ∈ ws.head?, t < w.start + d ∧ n ≤ (w.counted n).length) ∨
        recent d t (admitted n ws) < n) := by
  cases ws with
  | nil =>
    have hone : Spaced n d (extend d t []) := List.isChain_singleton _
    have hnone : recent d t (admitted n []) < n := hn
    exact iff_of_true hone ⟨List.isChain_nil, .inr hnone⟩
  | cons w ws =>
    have hmem : w ∈ w :: ws := List.mem_cons_self
    have hw : (∃ u ∈ (w :: ws).head?, t < u.start + d ∧ n ≤ (u.counted n).length) ↔
        t < w.start + d ∧ n ≤ (w.counted n).length := by simp
    have hle : (w.counted n).length ≤ n := List.length_take_le _ _
    have hold : ∀ u ∈ ws, u.start + d ≤ w.start := fun u hu =>
      List.rel_of_pairwise_cons h.starts hu
    rw [hw, extend_cons, recent_admitted_cons]
    by_cases hover : w.start + d ≤ t
    · -- The first time of the last window is not recent, nor are those of the windows before it.
      have hzero : recent d t (admitted n ws) = 0 :=
        recent_admitted_eq_zero h.tail.within hold hover
      have hget : (w.counted n)[0]? = some w.start := by
        unfold Window.counted
        rw [List.getElem?_take_of_lt hn]
        rfl
      have hsorted : (w.counted n).Pairwise (· ≤ ·) := (h.sorted w hmem).take
      have hlt := (recent_add_lt_length_iff hsorted hget).mpr hover
      rw [if_pos hover]
      unfold Spaced
      rw [List.isChain_cons_cons]
      constructor
      · exact fun hchain => ⟨hchain.2, .inr (by omega)⟩
      · exact fun hchain => ⟨apart_of_over hover, hchain.1⟩
    · have hlt : t < w.start + d := not_le.mp hover
      rw [if_neg hover]
      by_cases hfull : n ≤ (w.counted n).length
      · -- Nothing more is counted.
        have hcounted : (Window.mk w.start (w.later ++ [t])).counted n = w.counted n := by
          rw [Window.counted_concat, if_neg (by omega)]
        have hsame : Spaced n d (⟨w.start, w.later ++ [t]⟩ :: ws) ↔ Spaced n d (w :: ws) := by
          unfold Spaced
          rw [List.isChain_cons, List.isChain_cons]
          unfold Apart
          rw [hcounted]
        rw [hsame]
        exact ⟨fun hchain => ⟨hchain, .inl ⟨hlt, hfull⟩⟩, fun hchain => hchain.1⟩
      · -- All times of the last window are recent, and some of the window before it may be.
        have hroom : (w.counted n).length < n := not_le.mp hfull
        have hall : recent d t (w.counted n) = (w.counted n).length := by
          refine List.countP_eq_length.mpr fun u hu => decide_eq_true ?_
          exact lt_of_lt_of_le hlt (add_le_add_left (h.start_le hmem u (Window.mem_times hu)) d)
        have hnot : ¬ (t < w.start + d ∧ n ≤ (w.counted n).length) := fun hboth => hfull hboth.2
        rw [hall]
        simp only [hnot, false_or]
        cases ws with
        | nil =>
          have hnone : recent d t (admitted n []) = 0 := rfl
          rw [hnone]
          exact iff_of_true (List.isChain_singleton _) ⟨List.isChain_singleton _, hroom⟩
        | cons before ws =>
          have hbefore : before ∈ before :: ws := List.mem_cons_self
          have hzero : recent d t (admitted n ws) = 0 := by
            refine recent_admitted_eq_zero h.tail.tail.within
              (fun u hu => List.rel_of_pairwise_cons h.tail.starts hu) ?_
            calc before.start + d
              _ ≤ w.start := hold before hbefore
              _ ≤ now := h.past w hmem w.start List.mem_cons_self
              _ ≤ t := ht
          have hsorted : (before.counted n).Pairwise (· ≤ ·) := (h.tail.sorted before hbefore).take
          have hiff := @recent_add_lt_iff _ _ _ d t n _ _ hsorted _ hroom
          rw [recent_admitted_cons, hzero]
          unfold Spaced
          rw [List.isChain_cons_cons, List.isChain_cons_cons, apart_concat_iff hroom, ← hiff,
            Nat.add_zero, Nat.add_comm (w.counted n).length]
          tauto

/-- The first `n` times of each window are at most `n` in every interval of length `d` exactly if
the windows are apart. -/
theorem atMost_admitted_iff (hd : 0 < d) (hn : 0 < n) {times : List α}
    (hsorted : times.Pairwise (· ≤ ·)) :
    AtMost n d (admitted n (windows d times)) ↔ Spaced n d (windows d times) := by
  induction times using List.reverseRecOn with
  | nil => exact iff_of_true (AtMost.nil n d) List.isChain_nil
  | append_singleton times t ih =>
    obtain ⟨hrest, -, hlast⟩ := List.pairwise_append.mp hsorted
    have hpast : ∀ u ∈ times, u ≤ t := fun u hu => hlast u hu t (by simp)
    have hordered := ordered_windows hd hrest hpast
    rw [windows_concat, spaced_extend_iff hordered hn le_rfl, admitted_extend hn, ← ih hrest]
    split_ifs with hfull
    · exact ⟨fun hbound => ⟨hbound, .inl hfull⟩, fun hboth => hboth.1⟩
    · have hadmitted : ∀ u ∈ admitted n (windows d times), u ≤ t := by
        intro u hu
        obtain ⟨w, hw, hu⟩ := mem_admitted hu
        exact hordered.past w hw u hu
      rw [atMost_cons_iff hd hadmitted]
      simp only [hfull, false_or]

end Sliding
