import ZoTunnel.Lib.Lease
import ZoTunnel.Client.AppState

/-!
# The handles of the tunnel tasks

The handles in the managers lease their slots to the tasks, where a slot is a pair of a manager and
a tunnel id. `Tracked` says that the tasks which run are those that have a lease, and `Sound` that
each manager which runs a tunnel is in use: `inner` or a connect holds it. What the web server does
to its managers is an operation on the leases, and so keeps `Tracked`.
-/

namespace ZoTunnel

open TunnelManager

/-- A manager that runs no tunnel. -/
def TunnelManager.Idle (m : TunnelManager) : Prop := ∀ id, m.tunnels.lookup id = none

/-- A manager that has stopped all its tunnels runs none. -/
theorem TunnelManager.stopAll_idle (m : TunnelManager) (tasks : Tasks) :
    (m.stopAll tasks).1.Idle := by
  intro id
  have hkeys : m.tunnels.lookup id = none ∨ id ∈ m.tunnels.keys := by
    by_cases hid : id ∈ m.tunnels.keys
    · exact .inr hid
    · exact .inl (AList.lookup_eq_none.mpr hid)
  -- The induction is on the ids that are still to be stopped.
  unfold stopAll
  generalize m.tunnels.keys = ids at hkeys
  induction ids generalizing m tasks with
  | nil => exact hkeys.resolve_right List.not_mem_nil
  | cons id' ids ih =>
    apply ih
    rw [lookup_stopTunnel, ite_eq_left_iff]
    rcases hkeys with hnone | hmem
    · exact .inl fun _ => hnone
    · rcases List.mem_cons.mp hmem with heq | hmem
      · exact .inl fun hne => absurd heq hne
      · exact .inr hmem

/-- After an await point, an operation changes no tunnel until it starts one. -/
theorem TunnelManager.resume_tunnels (m : TunnelManager) (newId : String)
    (save : Except Error Unit) (point : Await) :
    (m.resume newId save point).1.tunnels = m.tunnels := by
  cases point with
  | add | update | remove | sleep => rfl
  | start id =>
    unfold resume
    dsimp only
    split <;> rfl

namespace AppState

variable {s : AppState}

/-- The manager that has been replaced. -/
@[simp]
theorem setManager_managers_self (s : AppState) (mgr : ℕ) (state : TunnelManager × Tasks) :
    (s.setManager mgr state).managers mgr = state.1 := Function.update_self ..

/-- The tasks that have been replaced. -/
@[simp]
theorem setManager_tasks (s : AppState) (mgr : ℕ) (state : TunnelManager × Tasks) :
    (s.setManager mgr state).tasks = state.2 := rfl

/-- Only the last replacement of a manager counts. -/
@[simp]
theorem setManager_setManager (s : AppState) (mgr : ℕ)
    (state state' : TunnelManager × Tasks) :
    (s.setManager mgr state).setManager mgr state' = s.setManager mgr state' := by
  simp [setManager]

/-- A manager replaced by itself. -/
@[simp]
theorem setManager_self (s : AppState) (mgr : ℕ) :
    s.setManager mgr (s.managers mgr, s.tasks) = s := by
  simp [setManager]

/-! ## The leases of the tasks -/

/-- The task whose handle is in a slot. -/
def slot (s : AppState) (k : ℕ × String) : Option ℕ :=
  ((s.managers k.1).tunnels.lookup k.2).map TunnelHandle.task

/-- The slots are leased to the tasks that run. -/
def Tracked (s : AppState) : Prop :=
  ∃ table : Lease.Table (ℕ × String) ℕ, table.owner = s.slot ∧
    (∀ task, (table.holds task).map Prod.snd = (s.tasks.running task).map TunnelEntry.id) ∧
    ∀ task, s.tasks.next ≤ task → s.tasks.running task = none

/-- The slots of another manager are as before. -/
theorem slot_setManager_of_ne (s : AppState) {mgr : ℕ} (state : TunnelManager × Tasks)
    {k : ℕ × String} (hk : k.1 ≠ mgr) : (s.setManager mgr state).slot k = s.slot k := by
  unfold slot setManager
  dsimp only
  rw [Function.update_of_ne hk]

/-- The slots of a manager that has been changed. -/
theorem slot_setManager_self (s : AppState) (mgr : ℕ) (state : TunnelManager × Tasks)
    (id : String) : (s.setManager mgr state).slot (mgr, id) =
      (state.1.tunnels.lookup id).map TunnelHandle.task := by
  simp [slot]

/-- A change of the handle under one id changes its slot. -/
theorem slot_setManager_update (s : AppState) {mgr : ℕ} {state : TunnelManager × Tasks}
    (id : String)
    (h : ∀ id' ≠ id, state.1.tunnels.lookup id' = (s.managers mgr).tunnels.lookup id') :
    (s.setManager mgr state).slot =
      Function.update s.slot (mgr, id) ((state.1.tunnels.lookup id).map TunnelHandle.task) := by
  funext ⟨mgr', id'⟩
  by_cases hmgr : mgr' = mgr
  · subst hmgr
    rw [slot_setManager_self]
    by_cases hid : id' = id
    · rw [hid, Function.update_self]
    · rw [Function.update_of_ne (by simp [hid]), h id' hid, slot]
  · rw [slot_setManager_of_ne s state hmgr, Function.update_of_ne (by simp [hmgr])]

/-- The leases do not depend on the requests. -/
theorem Tracked.setRequest (h : s.Tracked) (rid : ℕ) (request : RequestState) :
    (s.setRequest rid request).Tracked := h

/-- The tasks stay leased when a manager changes nothing but its config. -/
theorem Tracked.setConfig (h : s.Tracked) {mgr : ℕ} {m : TunnelManager}
    (hm : m.tunnels = (s.managers mgr).tunnels) : (s.setManager mgr (m, s.tasks)).Tracked := by
  obtain ⟨table, howner, hrest⟩ := h
  refine ⟨table, funext fun ⟨mgr', id⟩ => ?_, hrest⟩
  rw [howner]
  by_cases hmgr : mgr' = mgr
  · rw [hmgr, slot_setManager_self, hm, slot]
  · rw [slot_setManager_of_ne s _ hmgr]

/-- Stopping a tunnel ends the lease of its task. -/
theorem Tracked.stopTunnel (h : s.Tracked) (mgr : ℕ) (id : String) :
    (s.setManager mgr ((s.managers mgr).stopTunnel s.tasks id).2).Tracked := by
  unfold TunnelManager.stopTunnel
  cases hlookup : (s.managers mgr).tunnels.lookup id with
  | none => simpa using h
  | some handle =>
    obtain ⟨table, howner, hholds, hfresh⟩ := h
    have hlease : table.holds handle.task = some (mgr, id) := by
      rw [← table.agree, howner, slot, hlookup]
      rfl
    refine ⟨table.release (mgr, id) handle.task hlease, ?_, fun task => ?_, fun task htask => ?_⟩
    · rw [slot_setManager_update s id fun id' hne => AList.lookup_erase_ne hne,
        AList.lookup_erase, ← howner]
      rfl
    · change (Function.update table.holds handle.task none task).map Prod.snd =
        (Function.update s.tasks.running handle.task none task).map TunnelEntry.id
      rcases eq_or_ne task handle.task with rfl | hne
      · rw [Function.update_self, Function.update_self]
        rfl
      · rw [Function.update_of_ne hne, Function.update_of_ne hne, hholds]
    · change Function.update s.tasks.running handle.task none task = none
      rw [Function.update_apply, hfresh task htask, ite_self]

/-- A tunnel that is started under a free id leases its slot to the new task. -/
theorem Tracked.insertStarted (h : s.Tracked) {mgr : ℕ} {entry : TunnelEntry}
    (hfree : (s.managers mgr).tunnels.lookup entry.id = none) :
    (s.setManager mgr ((s.managers mgr).insertStarted s.tasks entry)).Tracked := by
  obtain ⟨table, howner, hholds, hfresh⟩ := h
  -- The slot is free, and the number of the task is new.
  have hslot : table.owner (mgr, entry.id) = none := by
    rw [howner, slot, hfree]
    rfl
  have hnew : table.holds s.tasks.next = none := by
    have hnone := hholds s.tasks.next
    rw [hfresh s.tasks.next le_rfl] at hnone
    exact Option.map_eq_none_iff.mp hnone
  refine ⟨table.acquire (mgr, entry.id) s.tasks.next hslot hnew, ?_, fun task => ?_,
    fun task htask => ?_⟩
  · rw [slot_setManager_update s entry.id fun id' hne => AList.lookup_insert_ne hne]
    unfold TunnelManager.insertStarted
    rw [AList.lookup_insert, ← howner]
    rfl
  · change (Function.update table.holds s.tasks.next (some (mgr, entry.id)) task).map Prod.snd =
      (Function.update s.tasks.running s.tasks.next (some entry) task).map TunnelEntry.id
    rcases eq_or_ne task s.tasks.next with rfl | hne
    · rw [Function.update_self, Function.update_self]
      rfl
    · rw [Function.update_of_ne hne, Function.update_of_ne hne, hholds]
  · change s.tasks.next + 1 ≤ task at htask
    change Function.update s.tasks.running s.tasks.next (some entry) task = none
    rw [Function.update_of_ne (by omega), hfresh task (by omega)]

/-- Starting a tunnel keeps the tasks leased, when nothing comes between its check and its
insertion. -/
theorem Tracked.startTunnelInternal (h : s.Tracked) (mgr : ℕ) (entry : TunnelEntry) :
    (s.setManager mgr ((s.managers mgr).startTunnelInternal s.tasks entry).2).Tracked := by
  by_cases hlookup : (s.managers mgr).tunnels.lookup entry.id = none
  · rw [startTunnelInternal_stopped hlookup]
    exact h.insertStarted hlookup
  · rw [startTunnelInternal_running hlookup]
    simpa using h

/-- What keeps the tasks leased when it is done once does so when it is done for each item of a
list. -/
theorem Tracked.foldl {α : Type} {f : TunnelManager × Tasks → α → TunnelManager × Tasks} {mgr : ℕ}
    (hf : ∀ (s : AppState) a, s.Tracked →
      (s.setManager mgr (f (s.managers mgr, s.tasks) a)).Tracked)
    (as : List α) {state : TunnelManager × Tasks} (h : (s.setManager mgr state).Tracked) :
    (s.setManager mgr (as.foldl f state)).Tracked := by
  induction as generalizing state with
  | nil => exact h
  | cons a as ih =>
    apply ih
    simpa using hf (s.setManager mgr state) a h

/-- Starting all tunnels of a manager keeps the tasks leased. -/
theorem Tracked.startAll (h : s.Tracked) (mgr : ℕ) : (s.startAll mgr).Tracked := by
  refine Tracked.foldl (fun s entry h => h.startTunnelInternal mgr entry) _ ?_
  simpa using h

/-- Stopping all tunnels of a manager keeps the tasks leased. -/
theorem Tracked.stopAll (h : s.Tracked) (mgr : ℕ) :
    (s.setManager mgr ((s.managers mgr).stopAll s.tasks)).Tracked := by
  refine Tracked.foldl (fun s id h => h.stopTunnel mgr id) _ ?_
  simpa using h

/-- A new manager has no slots that are leased. -/
theorem Tracked.newManager (h : s.Tracked) (hidle : (s.managers s.nextManager).Idle)
    (config : TunnelsConfig) : (s.newManager config).Tracked := by
  obtain ⟨table, howner, hrest⟩ := h
  refine ⟨table, funext fun ⟨mgr, id⟩ => ?_, hrest⟩
  rw [howner, slot, slot, AppState.newManager]
  dsimp only
  rcases eq_or_ne mgr s.nextManager with rfl | hne
  · rw [Function.update_self, hidle id]
    rfl
  · rw [Function.update_of_ne hne]

/-- A task has one handle at most. -/
theorem Tracked.slot_injective (h : s.Tracked) {task : ℕ} {k k' : ℕ × String}
    (hk : s.slot k = some task) (hk' : s.slot k' = some task) : k = k' := by
  obtain ⟨table, howner, -⟩ := h
  rw [← howner, table.agree] at hk hk'
  exact Option.some.inj (hk.symm.trans hk')

/-- A task that has a handle is running. -/
theorem Tracked.running_of_slot (h : s.Tracked) {task : ℕ} {k : ℕ × String}
    (hk : s.slot k = some task) : ∃ entry, s.tasks.running task = some entry := by
  obtain ⟨table, howner, hholds, -⟩ := h
  rw [← howner, table.agree] at hk
  have hrunning := hholds task
  rw [hk] at hrunning
  obtain ⟨entry, hentry, -⟩ := Option.map_eq_some_iff.mp hrunning.symm
  exact ⟨entry, hentry⟩

/-- A task that is running has a handle, under the id of its tunnel. -/
theorem Tracked.slot_of_running (h : s.Tracked) {task : ℕ} {entry : TunnelEntry}
    (hrunning : s.tasks.running task = some entry) : ∃ mgr, s.slot (mgr, entry.id) = some task := by
  obtain ⟨table, howner, hholds, -⟩ := h
  have hlease := hholds task
  rw [hrunning] at hlease
  obtain ⟨⟨mgr, id⟩, hmgr, rfl⟩ := Option.map_eq_some_iff.mp hlease
  exact ⟨mgr, by rw [← howner, table.agree, hmgr]⟩

/-- A handle has a number below that of the next task. -/
theorem Tracked.lt_of_slot (h : s.Tracked) {task : ℕ} {k : ℕ × String}
    (hk : s.slot k = some task) : task < s.tasks.next := by
  obtain ⟨entry, hrunning⟩ := h.running_of_slot hk
  obtain ⟨-, -, -, hfresh⟩ := h
  by_contra hlt
  rw [hfresh task (Nat.le_of_not_lt hlt)] at hrunning
  cases hrunning

/-! ## The managers in use -/

/-- The manager is in `inner`, or a connect is about to put it there. -/
def Live (s : AppState) (mgr : ℕ) : Prop :=
  s.inner = some mgr ∨ ∃ rid, (s.requests rid).building = some mgr

/-- A manager that a connect is building is its own: it is not in `inner`, and no other request has
it. -/
structure Arcs (s : AppState) : Prop where
  inner_lt : ∀ mgr, s.inner = some mgr → mgr < s.nextManager
  mgr_lt : ∀ rid mgr, (s.requests rid).mgr = some mgr → mgr < s.nextManager
  alone : ∀ rid mgr, (s.requests rid).building = some mgr →
    s.inner ≠ some mgr ∧ ∀ rid', rid' ≠ rid → (s.requests rid').mgr ≠ some mgr

/-- The tasks are leased, and those who hold the managers hold all that run a tunnel. -/
structure Sound (s : AppState) : Prop extends s.Arcs where
  tracked : s.Tracked
  idle : ∀ mgr, ¬ s.Live mgr → (s.managers mgr).Idle

end AppState

/-- A request that builds a manager holds it. -/
theorem RequestState.mgr_of_building {request : RequestState} {mgr : ℕ}
    (h : request.building = some mgr) : request.mgr = some mgr := by
  cases request <;> simp_all [building, RequestState.mgr]

namespace AppState

variable {s : AppState}

/-- A request that moves on. -/
theorem setRequest_requests (s : AppState) (rid : ℕ) (request : RequestState) (rid' : ℕ) :
    (s.setRequest rid request).requests rid' = if rid' = rid then request else s.requests rid' :=
  Function.update_apply ..

/-- A manager in use is known to somebody, and so has a number that has been given. -/
theorem Arcs.live_lt (h : s.Arcs) {mgr : ℕ} (hlive : s.Live mgr) : mgr < s.nextManager := by
  rcases hlive with hinner | ⟨rid, hbuilding⟩
  · exact h.inner_lt mgr hinner
  · exact h.mgr_lt rid mgr (RequestState.mgr_of_building hbuilding)

/-- A request moves on with a manager that it had or that is in `inner`. It can let go of a manager
that it has built if this runs no tunnel. -/
theorem Sound.setRequest (h : s.Sound) {rid : ℕ} {request : RequestState}
    (hmgr : ∀ mgr, request.mgr = some mgr →
      (s.requests rid).mgr = some mgr ∨ s.inner = some mgr)
    (hbuilding : ∀ mgr, request.building = some mgr → (s.requests rid).building = some mgr)
    (hkeep : ∀ mgr, (s.requests rid).building = some mgr →
      request.building = some mgr ∨ (s.managers mgr).Idle) :
    (s.setRequest rid request).Sound := by
  refine ⟨⟨h.inner_lt, fun rid' mgr hrid' => ?_, fun rid' mgr hrid' => ?_⟩, h.tracked,
    fun mgr hlive => ?_⟩
  · rw [setRequest_requests] at hrid'
    split_ifs at hrid'
    · exact (hmgr mgr hrid').elim (h.mgr_lt rid mgr) (h.inner_lt mgr)
    · exact h.mgr_lt rid' mgr hrid'
  · have hrid'' : (s.requests rid').building = some mgr := by
      rw [setRequest_requests] at hrid'
      split_ifs at hrid' with heq
      · exact heq ▸ hbuilding mgr hrid'
      · exact hrid'
    obtain ⟨hinner, hothers⟩ := h.alone rid' mgr hrid''
    refine ⟨hinner, fun other hne hother => ?_⟩
    rw [setRequest_requests] at hother
    split_ifs at hother with heq
    · subst heq
      exact (hmgr mgr hother).elim (hothers other hne) hinner
    · exact hothers other hne hother
  -- Only the manager that the request was building can go out of use.
  · by_cases hold : s.Live mgr
    · rcases hold with hinner | ⟨rid', hrid'⟩
      · exact absurd (.inl hinner) hlive
      · by_cases heq : rid' = rid
        · subst heq
          refine (hkeep mgr hrid').resolve_left fun hnew => hlive (.inr ⟨rid', ?_⟩)
          rw [setRequest_requests, if_pos rfl, hnew]
        · refine absurd (.inr ⟨rid', ?_⟩) hlive
          rw [setRequest_requests, if_neg heq, hrid']
    · exact h.idle mgr hold

/-- A manager in use can change. -/
theorem Sound.setManager (h : s.Sound) {mgr : ℕ} {state : TunnelManager × Tasks}
    (htracked : (s.setManager mgr state).Tracked) (hidle : ¬ s.Live mgr → state.1.Idle) :
    (s.setManager mgr state).Sound := by
  refine ⟨⟨h.inner_lt, h.mgr_lt, h.alone⟩, htracked, fun mgr' hlive => ?_⟩
  by_cases heq : mgr' = mgr
  · rw [heq, setManager_managers_self]
    exact hidle fun hold => hlive (heq ▸ hold)
  · change (Function.update s.managers mgr state.1 mgr').Idle
    rw [Function.update_of_ne heq]
    exact h.idle mgr' hlive

/-- A disconnect stops all tunnels of the manager that it takes out of `inner`. -/
theorem Sound.disconnect (h : s.Sound) : s.disconnect.Sound := by
  unfold AppState.disconnect
  cases hinner : s.inner with
  | none => exact h
  | some mgr =>
    have hidle : ((s.managers mgr).stopAll s.tasks).1.Idle := stopAll_idle _ _
    have hstopped := h.setManager (h.tracked.stopAll mgr) fun _ => hidle
    refine ⟨⟨nofun, h.mgr_lt, fun rid mgr' hrid => ⟨nofun, (h.alone rid mgr' hrid).2⟩⟩,
      hstopped.tracked, fun mgr' hlive => ?_⟩
    -- The manager that is let go runs no tunnel, and the others are in use as before.
    by_cases heq : mgr' = mgr
    · rw [heq]
      dsimp only
      rw [setManager_managers_self]
      exact hidle
    · refine hstopped.idle mgr' fun hold => hlive (.inr (hold.resolve_left fun hinner' => heq ?_))
      exact Option.some.inj (hinner'.symm.trans hinner)

/-- A request that creates a manager is the only one to have it. -/
theorem Sound.build (h : s.Sound) {rid : ℕ} (hrid : (s.requests rid).mgr = none)
    (config : TunnelsConfig) :
    ((s.newManager config).setRequest rid (.startingAll s.nextManager)).Sound := by
  -- The number of the new manager has never been used.
  have hdead : ¬ s.Live s.nextManager := fun hlive => Nat.lt_irrefl _ (h.live_lt hlive)
  have hfresh (rid' mgr : ℕ) (hmgr : (s.requests rid').mgr = some mgr) : mgr ≠ s.nextManager :=
    Nat.ne_of_lt (h.mgr_lt rid' mgr hmgr)
  refine ⟨⟨fun mgr hinner => Nat.lt_succ_of_lt (h.inner_lt mgr hinner),
    fun rid' mgr hrid' => ?_, fun rid' mgr hrid' => ?_⟩,
    h.tracked.newManager (h.idle _ hdead) config, fun mgr hlive => ?_⟩
  · rw [setRequest_requests] at hrid'
    split_ifs at hrid' with heq
    · obtain rfl := Option.some.inj hrid'
      exact Nat.lt_succ_self _
    · exact Nat.lt_succ_of_lt (h.mgr_lt rid' mgr hrid')
  · rw [setRequest_requests] at hrid'
    split_ifs at hrid' with heq
    · obtain rfl := Option.some.inj hrid'
      refine ⟨fun hinner => Nat.lt_irrefl _ (h.inner_lt _ hinner), fun other hne hother => ?_⟩
      rw [setRequest_requests, if_neg (heq ▸ hne)] at hother
      exact hfresh other _ hother rfl
    · obtain ⟨hinner, hothers⟩ := h.alone rid' mgr hrid'
      refine ⟨hinner, fun other hne hother => ?_⟩
      rw [setRequest_requests] at hother
      split_ifs at hother
      · exact hfresh rid' mgr (RequestState.mgr_of_building hrid') (Option.some.inj hother).symm
      · exact hothers other hne hother
  · have hne : mgr ≠ s.nextManager := by
      rintro rfl
      exact hlive (.inr ⟨rid, by rw [setRequest_requests, if_pos rfl]; rfl⟩)
    change (Function.update s.managers s.nextManager _ mgr).Idle
    rw [Function.update_of_ne hne]
    refine h.idle mgr fun hold => hlive ?_
    rcases hold with hinner | ⟨rid', hrid'⟩
    · exact .inl hinner
    · refine .inr ⟨rid', ?_⟩
      rw [setRequest_requests, if_neg]
      · exact hrid'
      · rintro rfl
        rw [RequestState.mgr_of_building hrid'] at hrid
        cases hrid

/-- A connect puts its manager into `inner`, in the place of one that runs no tunnel. -/
theorem Sound.install (h : s.Sound) {rid mgr : ℕ}
    (hrid : (s.requests rid).building = some mgr)
    (hold : ∀ old, s.inner = some old → (s.managers old).Idle) (result : Returned) :
    ({ s with inner := some mgr }.setRequest rid (.returned result)).Sound := by
  have hmgr := RequestState.mgr_of_building hrid
  refine ⟨⟨fun mgr' hinner => ?_, fun rid' mgr' hrid' => ?_, fun rid' mgr' hrid' => ?_⟩,
    h.tracked, fun mgr' hlive => ?_⟩
  · obtain rfl := Option.some.inj hinner
    exact h.mgr_lt rid mgr hmgr
  · rw [setRequest_requests] at hrid'
    split_ifs at hrid'
    · cases hrid'
    · exact h.mgr_lt rid' mgr' hrid'
  · rw [setRequest_requests] at hrid'
    split_ifs at hrid' with heq
    · cases hrid'
    · obtain ⟨-, hothers⟩ := h.alone rid' mgr' hrid'
      refine ⟨fun hinner => ?_, fun other hne hother => ?_⟩
      · obtain rfl := Option.some.inj hinner
        exact hothers rid (Ne.symm heq) hmgr
      · rw [setRequest_requests] at hother
        split_ifs at hother
        · cases hother
        · exact hothers other hne hother
  -- The manager that was in `inner` goes out of use, and the new one stays in use.
  · by_cases hlive' : s.Live mgr'
    · rcases hlive' with hinner | ⟨rid', hrid'⟩
      · exact hold mgr' hinner
      · refine absurd ?_ hlive
        by_cases heq : rid' = rid
        · subst heq
          exact .inl (hrid.symm.trans hrid')
        · exact .inr ⟨rid', by rw [setRequest_requests, if_neg heq]; exact hrid'⟩
    · exact h.idle mgr' hlive'

end AppState

end ZoTunnel
