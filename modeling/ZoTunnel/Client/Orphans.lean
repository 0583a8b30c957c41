import ZoTunnel.Lib.Run
import ZoTunnel.Client.Handles

/-!
# Orphaned tunnel tasks

A reconnect task runs until its handle is used to stop it. So a task whose handle is lost, or is in
a manager that nothing leads to any more, is never stopped. `no_orphans_iff` says along which runs
of the web server each task keeps a handle that the server can reach: a tunnel must not be started
twice between check and insertion, nor on a manager that has been taken out of `inner`, and a
connect must not replace a manager that runs tunnels.
-/

namespace ZoTunnel

open Transition TunnelManager

namespace AppState

variable {s s' : AppState}

/-- Each running task has a handle, in a manager in use. -/
def HandlesKept (s : AppState) : Prop :=
  ∀ task entry, s.tasks.running task = some entry → ∃ k, s.Live k.1 ∧ s.slot k = some task

/-- No request is in progress: one in progress holds a manager. -/
def Quiescent (s : AppState) : Prop := ∀ rid, (s.requests rid).mgr = none

/-- There are no orphaned tasks. -/
structure NoOrphans (s : AppState) : Prop where
  /-- Each running task is the task of an entry in the map of the manager in `inner`. -/
  owned : ∀ task entry, s.tasks.running task = some entry → ∃ mgr, s.inner = some mgr ∧
    ∃ id handle, (s.managers mgr).tunnels.lookup id = some handle ∧ handle.task = task
  /-- At most one task runs per tunnel id. -/
  once : ∀ task task' entry entry', s.tasks.running task = some entry →
    s.tasks.running task' = some entry' → entry.id = entry'.id → task = task'
  /-- None runs after a disconnect. -/
  disconnected : s.inner = none → ∀ task, s.tasks.running task = none

/-- The handles of the tasks are kept. -/
theorem Sound.handlesKept (h : s.Sound) : s.HandlesKept := by
  intro task entry hrunning
  obtain ⟨mgr, hslot⟩ := h.tracked.slot_of_running hrunning
  refine ⟨(mgr, entry.id), ?_, hslot⟩
  by_contra hdead
  rw [slot, h.idle mgr hdead entry.id] at hslot
  cases hslot

/-- There are no orphaned tasks when no request is in progress. -/
theorem Sound.noOrphans (h : s.Sound) (hquiet : s.Quiescent) : s.NoOrphans := by
  have hinner {mgr : ℕ} (hlive : s.Live mgr) : s.inner = some mgr := by
    refine hlive.resolve_right fun ⟨rid, hrid⟩ => ?_
    cases (hquiet rid).symm.trans (RequestState.mgr_of_building hrid)
  -- With no request in progress, a manager in use is the one in `inner`.
  have howned {task : ℕ} {entry : TunnelEntry} (hrunning : s.tasks.running task = some entry) :
      ∃ mgr, s.inner = some mgr ∧ s.slot (mgr, entry.id) = some task := by
    obtain ⟨mgr, hslot⟩ := h.tracked.slot_of_running hrunning
    obtain ⟨k, hlive, hk⟩ := h.handlesKept task entry hrunning
    obtain rfl := h.tracked.slot_injective hk hslot
    exact ⟨mgr, hinner hlive, hslot⟩
  refine ⟨fun task entry hrunning => ?_, fun task task' entry entry' hrunning hrunning' hid => ?_,
    fun hnone task => ?_⟩
  · obtain ⟨mgr, hmgr, hslot⟩ := howned hrunning
    obtain ⟨handle, hlookup, htask⟩ := Option.map_eq_some_iff.mp hslot
    exact ⟨mgr, hmgr, entry.id, handle, hlookup, htask⟩
  · obtain ⟨mgr, hmgr, hslot⟩ := howned hrunning
    obtain ⟨mgr', hmgr', hslot'⟩ := howned hrunning'
    obtain rfl := Option.some.inj (hmgr.symm.trans hmgr')
    rw [hid, hslot'] at hslot
    exact (Option.some.inj hslot).symm
  · rw [Option.eq_none_iff_forall_ne_some]
    intro entry hrunning
    obtain ⟨mgr, hmgr, -⟩ := howned hrunning
    cases hnone.symm.trans hmgr

/-- A step that loses no handle of a running task. -/
def KeepsHandles (s : AppState) : AppStep → Prop
  | .request _ _ => True
  | .resume rid _ _ =>
    match s.requests rid with
    | .inserting mgr entry _ =>
      -- The tunnel is still not running, and its manager is still the one in `inner`.
      (s.managers mgr).tunnels.lookup entry.id = none ∧ s.inner = some mgr
    | .installing _ =>
      -- The manager that is replaced runs no tunnel.
      ∀ old, s.inner = some old → (s.managers old).Idle
    | _ => True
  | .drop rid =>
    -- The manager of a connect that is dropped runs no tunnel.
    ∀ mgr, (s.requests rid).building = some mgr → (s.managers mgr).Idle

/-! ## The steps that keep the handles -/

/-- A request for a tunnel builds no manager. -/
theorem after_building (mgr : ℕ) (m : TunnelManager) (progress : Progress) :
    (RequestState.after mgr m progress).building = none := by
  cases progress with
  | awaiting | returned => rfl
  | starting entry result =>
    unfold RequestState.after
    dsimp only
    split <;> rfl

/-- A request for a tunnel goes on with the manager that it has. -/
theorem after_mgr {mgr mgr' : ℕ} {m : TunnelManager} {progress : Progress}
    (h : (RequestState.after mgr m progress).mgr = some mgr') : mgr = mgr' := by
  cases progress with
  | awaiting => exact Option.some.inj h
  | returned => cases h
  | starting entry result =>
    unfold RequestState.after at h
    dsimp only at h
    split at h
    · exact Option.some.inj h
    · cases h

/-- The first part of an operation stops a tunnel or none. -/
theorem Tracked.begin (h : s.Tracked) (mgr : ℕ) (call : Call) :
    (s.setManager mgr ((s.managers mgr).begin s.tasks call).1).Tracked := by
  cases call with
  | add | start => simpa [TunnelManager.begin] using h
  | update id | remove id | stop id | restart id => exact h.stopTunnel mgr id

/-- The first turn of a request keeps the handles. -/
theorem Sound.begin (h : s.Sound) {rid : ℕ} (hrid : s.requests rid = .idle) (request : ApiRequest) :
    (s.begin rid request).Sound := by
  have hidle : (s.requests rid).mgr = none ∧ (s.requests rid).building = none := by
    rw [hrid]
    exact ⟨rfl, rfl⟩
  have hrequests : s.disconnect.requests = s.requests := by
    unfold AppState.disconnect
    split <;> rfl
  cases request with
  | disconnect =>
    refine h.disconnect.setRequest nofun nofun ?_
    rw [hrequests, hidle.2]
    exact nofun
  | connect save config =>
    cases save with
    | error e =>
      refine h.disconnect.setRequest nofun nofun ?_
      rw [hrequests, hidle.2]
      exact nofun
    | ok _ => exact h.disconnect.build (hrequests ▸ hidle.1) config
  | tunnel call =>
    unfold AppState.begin
    cases hinner : s.inner with
    | none =>
      refine h.setRequest nofun nofun ?_
      rw [hidle.2]
      exact nofun
    | some mgr =>
      have hset := h.setManager (h.tracked.begin mgr call) fun hdead => absurd (.inl hinner) hdead
      refine hset.setRequest (fun mgr' hmgr' => .inr ?_) ?_ ?_
      · rw [← after_mgr hmgr']
        exact hinner
      · rw [after_building]
        exact nofun
      · change ∀ mgr', (s.requests rid).building = some mgr' → _
        rw [hidle.2]
        exact nofun

/-- A step that meets its condition keeps the handles. -/
theorem Sound.step (h : s.Sound) {l : AppStep} (hkeeps : s.KeepsHandles l)
    (hstep : appStep s l = some s') : s'.Sound := by
  unfold appStep at hstep
  cases l with
  | request rid request =>
    dsimp only at hstep
    split at hstep
    · rename_i hrid
      obtain rfl := Option.some.inj hstep
      exact h.begin hrid request
    · cases hstep
  | resume rid newId save =>
    unfold KeepsHandles at hkeeps
    dsimp only at hstep hkeeps
    cases hrid : s.requests rid with
    | startingAll mgr =>
      simp only [hrid] at hstep
      obtain rfl := Option.some.inj hstep
      have hset : (s.startAll mgr).Sound := h.setManager (h.tracked.startAll mgr) fun hdead =>
        absurd (.inr ⟨rid, by rw [hrid]; rfl⟩) hdead
      have hrid' : (s.startAll mgr).requests rid = .startingAll mgr := hrid
      refine hset.setRequest (fun mgr' hmgr' => .inl ?_) ?_ fun mgr' hmgr' => .inl ?_
      · rw [hrid']
        exact hmgr'
      · rw [hrid']
        exact fun mgr' hmgr' => hmgr'
      · rw [hrid'] at hmgr'
        exact hmgr'
    | installing mgr =>
      simp only [hrid] at hstep hkeeps
      obtain rfl := Option.some.inj hstep
      exact h.install (by rw [hrid]; rfl) hkeeps _
    | awaiting mgr point =>
      simp only [hrid] at hstep
      obtain rfl := Option.some.inj hstep
      -- The request goes on behind its wait, which changes no handle.
      have htunnels := (s.managers mgr).resume_tunnels newId save point
      generalize (s.managers mgr).resume newId save point = turn at htunnels
      have hset : (s.setManager mgr (turn.1, s.tasks)).Sound :=
        h.setManager (h.tracked.setConfig htunnels) fun hdead id => by
          rw [htunnels]
          exact h.idle mgr hdead id
      have hrid' : (s.setManager mgr (turn.1, s.tasks)).requests rid = .awaiting mgr point := hrid
      refine hset.setRequest (fun mgr' hmgr' => .inl ?_) ?_ ?_
      · rw [hrid', ← after_mgr hmgr']
        rfl
      · rw [after_building]
        exact nofun
      · rw [hrid']
        exact nofun
    | inserting mgr entry result =>
      simp only [hrid] at hstep hkeeps
      obtain rfl := Option.some.inj hstep
      have hset := h.setManager (h.tracked.insertStarted hkeeps.1) fun hdead =>
        absurd (.inl hkeeps.2) hdead
      refine hset.setRequest nofun nofun ?_
      change ∀ mgr', (s.requests rid).building = some mgr' → _
      rw [hrid]
      exact nofun
    | idle | returned | dropped => simp [hrid] at hstep
  | drop rid =>
    have hdropped : (s.setRequest rid .dropped).Sound :=
      h.setRequest nofun nofun fun mgr hmgr => .inr (hkeeps mgr hmgr)
    dsimp only at hstep
    split at hstep <;> cases hstep <;> exact hdropped

/-! ## The steps that lose a handle -/

/-- A task that is running and has one handle, in a manager that is not in use, is lost. -/
theorem Tracked.lost (h : s.Tracked) {task : ℕ} {k : ℕ × String} (hslot : s.slot k = some task)
    (hdead : ¬ s.Live k.1) : ¬ s.HandlesKept := by
  intro hkept
  obtain ⟨entry, hrunning⟩ := h.running_of_slot hslot
  obtain ⟨k', hlive, hk'⟩ := hkept task entry hrunning
  exact hdead (h.slot_injective hk' hslot ▸ hlive)

/-- A manager that runs a tunnel has a task in one of its slots. -/
theorem slot_of_not_idle {mgr : ℕ} (h : ¬ (s.managers mgr).Idle) :
    ∃ id task, s.slot (mgr, id) = some task := by
  obtain ⟨id, hid⟩ := not_forall.mp h
  obtain ⟨handle, hlookup⟩ := Option.ne_none_iff_exists'.mp hid
  exact ⟨id, handle.task, by rw [slot, hlookup]; rfl⟩

/-- A handle that is inserted over another one loses the task of the other one. -/
theorem Sound.insert_lost (h : s.Sound) {mgr : ℕ} {entry : TunnelEntry}
    (hlookup : (s.managers mgr).tunnels.lookup entry.id ≠ none) {rid : ℕ} {request : RequestState} :
    ¬ ((s.setManager mgr ((s.managers mgr).insertStarted s.tasks entry)).setRequest rid
      request).HandlesKept := by
  obtain ⟨old, hold⟩ := Option.ne_none_iff_exists'.mp hlookup
  have hslot : s.slot (mgr, entry.id) = some old.task := by
    rw [slot, hold]
    rfl
  obtain ⟨oldEntry, hrunning⟩ := h.tracked.running_of_slot hslot
  have hne : old.task ≠ s.tasks.next := Nat.ne_of_lt (h.tracked.lt_of_slot hslot)
  -- The old task still runs, and its only slot has the handle of the new one.
  intro hkept
  obtain ⟨k, -, hk⟩ := hkept old.task oldEntry (by
    change Function.update s.tasks.running s.tasks.next (some entry) old.task = some oldEntry
    rw [Function.update_of_ne hne, hrunning])
  change (s.setManager mgr ((s.managers mgr).insertStarted s.tasks entry)).slot k = _ at hk
  rw [slot_setManager_update s entry.id fun id' hne => AList.lookup_insert_ne hne] at hk
  by_cases heq : k = (mgr, entry.id)
  · -- The slot has the handle of the new task.
    rw [heq, Function.update_self] at hk
    unfold TunnelManager.insertStarted at hk
    rw [AList.lookup_insert] at hk
    exact hne (Option.some.inj hk).symm
  · rw [Function.update_of_ne heq] at hk
    exact heq (h.tracked.slot_injective hk hslot)

/-- A manager is not in use when it is not in `inner`, and neither the request that moves on nor
another one has it. -/
theorem not_live_setRequest {mgr rid : ℕ} {request : RequestState} (hinner : s.inner ≠ some mgr)
    (hrequest : request.building ≠ some mgr)
    (hothers : ∀ rid', rid' ≠ rid → (s.requests rid').building ≠ some mgr) :
    ¬ (s.setRequest rid request).Live mgr := by
  rintro (hinner' | ⟨rid', hrid'⟩)
  · exact hinner hinner'
  · rw [setRequest_requests] at hrid'
    split_ifs at hrid' with heq
    · exact hrequest hrid'
    · exact hothers rid' heq hrid'

/-- A step that does not meet its condition loses a handle. -/
theorem Sound.step_lost (h : s.Sound) {l : AppStep} (hkeeps : ¬ s.KeepsHandles l)
    (hstep : appStep s l = some s') : ¬ s'.HandlesKept := by
  unfold appStep at hstep
  cases l with
  | request rid request => exact absurd trivial hkeeps
  | resume rid newId save =>
    unfold KeepsHandles at hkeeps
    dsimp only at hstep hkeeps
    cases hrid : s.requests rid with
    | installing mgr =>
      simp only [hrid] at hstep hkeeps
      obtain rfl := Option.some.inj hstep
      have hbuilding : (s.requests rid).building = some mgr := by
        rw [hrid]
        rfl
      obtain ⟨old, hold⟩ := not_forall.mp hkeeps
      obtain ⟨hinner, hrunning⟩ := Classical.not_imp.mp hold
      obtain ⟨id, task, hslot⟩ := slot_of_not_idle hrunning
      have htracked :
          ({ s with inner := some mgr }.setRequest rid (.returned (.ok none))).Tracked := h.tracked
      refine htracked.lost (k := (old, id)) hslot (not_live_setRequest ?_ nofun ?_)
      · intro hinner'
        obtain rfl := Option.some.inj hinner'
        exact (h.alone rid mgr hbuilding).1 hinner
      · exact fun rid' _ hrid' => (h.alone rid' old hrid').1 hinner
    | inserting mgr entry result =>
      simp only [hrid] at hstep hkeeps
      obtain rfl := Option.some.inj hstep
      by_cases hlookup : (s.managers mgr).tunnels.lookup entry.id = none
      · -- The manager is not in use any more.
        have hinner : s.inner ≠ some mgr := fun hinner => hkeeps ⟨hlookup, hinner⟩
        have hslot : (s.setManager mgr ((s.managers mgr).insertStarted s.tasks entry)).slot
            (mgr, entry.id) = some s.tasks.next := by
          rw [slot_setManager_self]
          unfold TunnelManager.insertStarted
          rw [AList.lookup_insert]
          rfl
        refine ((h.tracked.insertStarted hlookup).setRequest rid _).lost hslot
          (not_live_setRequest hinner nofun ?_)
        intro rid' hne hrid'
        refine (h.alone rid' mgr hrid').2 rid (Ne.symm hne) ?_
        rw [hrid]
        rfl
      · exact h.insert_lost hlookup
    | startingAll | awaiting | idle | returned | dropped => simp [hrid] at hkeeps
  | drop rid =>
    obtain ⟨mgr, hmgr⟩ := not_forall.mp hkeeps
    obtain ⟨hbuilding, hrunning⟩ := Classical.not_imp.mp hmgr
    obtain ⟨id, task, hslot⟩ := slot_of_not_idle hrunning
    obtain ⟨hinner, hothers⟩ := h.alone rid mgr hbuilding
    have hdropped : ¬ (s.setRequest rid .dropped).HandlesKept := by
      refine (h.tracked.setRequest rid _).lost (k := (mgr, id)) hslot
        (not_live_setRequest hinner nofun ?_)
      exact fun rid' hne hrid' => hothers rid' hne (RequestState.mgr_of_building hrid')
    dsimp only at hstep
    split at hstep <;> cases hstep <;> exact hdropped

/-! ## Runs -/

/-- The web server starts with all tasks leased. -/
theorem new_sound (saved : Option TunnelsConfig) : (AppState.new saved).Sound := by
  have hempty : Tracked disconnected :=
    ⟨.empty, rfl, fun _ => rfl, fun _ _ => rfl⟩
  have hdisconnected : Sound disconnected :=
    ⟨⟨nofun, nofun, nofun⟩, hempty, fun _ _ _ => rfl⟩
  cases saved with
  | none => exact hdisconnected
  | some config =>
    have hnew := hempty.newManager (fun _ => rfl) config
    refine ⟨⟨fun mgr hmgr => ?_, nofun, nofun⟩, hnew.startAll 0, fun mgr hdead => ?_⟩
    · obtain rfl := Option.some.inj hmgr
      exact Nat.zero_lt_one
    · have hne : mgr ≠ 0 := by
        rintro rfl
        exact hdead (.inl rfl)
      change (Function.update (Function.update (fun _ => TunnelManager.new ⟨[]⟩) 0 _) 0 _ mgr).Idle
      rw [Function.update_of_ne hne, Function.update_of_ne hne]
      exact fun _ => rfl

end AppState

/-- **Each running task has a handle in use, in every state of a run, exactly if no step of the run
loses one.** So there are no orphaned tasks when no request is in progress. -/
theorem no_orphans_iff (saved : Option TunnelsConfig) (labels : List AppStep) :
    (Visits appStep AppState.HandlesKept (.new saved) labels ↔
      Meets appStep AppState.KeepsHandles (.new saved) labels) ∧
    (Meets appStep AppState.KeepsHandles (.new saved) labels →
      Visits appStep (fun s => s.Quiescent → s.NoOrphans) (.new saved) labels) := by
  have hnew := AppState.new_sound saved
  refine ⟨visits_iff_meets (fun s l s' h hkeeps hstep => h.step hkeeps hstep)
    (fun s h => h.handlesKept) (fun s l s' h hkeeps hstep => h.step_lost hkeeps hstep) hnew labels,
    fun hmeets => ?_⟩
  have hsound := visits_of_meets (fun s l s' (h : s.Sound) hkeeps hstep => h.step hkeeps hstep) hnew
    hmeets
  exact hsound.mono fun s h => h.noOrphans

/-- Two requests start a tunnel at the same time, and both find that it is not running. The handle
of one replaces that of the other, whose task also outlives the disconnect. -/
theorem started_twice :
    ∃ s s', exec appStep (.new (some ⟨[⟨"t1", "app", "localhost:3000", false⟩]⟩))
        [.request 0 (.tunnel (.start "t1")), .request 1 (.tunnel (.start "t1")),
          .resume 0 "" (.ok ()), .resume 1 "" (.ok ()), .resume 0 "" (.ok ()),
          .resume 1 "" (.ok ())] = some s ∧
      s.Quiescent ∧ ¬ s.NoOrphans ∧
      appStep s (.request 2 .disconnect) = some s' ∧
      s'.Quiescent ∧ s'.inner = none ∧
        s'.tasks.running 0 = some ⟨"t1", "app", "localhost:3000", false⟩ := by
  refine ⟨_, _, rfl, fun rid => ?_, fun horphans => ?_, rfl, fun rid => ?_, rfl, rfl⟩
  · rcases rid with _ | _ | rid <;> rfl
  · cases horphans.once 0 1 _ _ rfl rfl rfl
  · rcases rid with _ | _ | _ | rid <;> rfl

end ZoTunnel
