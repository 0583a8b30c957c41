import ZoTunnel.Lib.Run
import ZoTunnel.Client.TunnelManager

/-!
# Concurrent calls on one tunnel manager

Any number of calls on one `TunnelManager`, which take turns at their await points. The running
tunnels match the configuration when each handle was started from the entry that the config has
under its id. `update_tunnel` and `remove_tunnel` stop the tunnel before they wait for the lock of
the config, so another call can start it again from the old entry. `running_matches_iff` says along
which runs the handles match.
-/

namespace ZoTunnel

open Transition TunnelManager

/-- How far a call has come, between its turns. -/
inductive CallState where
  /-- There is no call under this number yet. -/
  | idle
  | awaiting (point : Await)
  | returned (result : Returned)
  deriving DecidableEq

/-- A tunnel manager and the calls on it. -/
structure ManagerRun where
  manager : TunnelManager
  tasks : Tasks
  calls : ℕ → CallState

/-- A new manager without calls. -/
def ManagerRun.new (config : TunnelsConfig) : ManagerRun := ⟨.new config, .new, fun _ => .idle⟩

/-- A step of a call, with what the environment decides in it. -/
inductive ManagerStep where
  /-- The call begins. -/
  | call (cid : ℕ) (call : Call)
  /-- The call goes on after its await point. -/
  | resume (cid : ℕ) (newId : String) (save : Except Error Unit)

/-- The end of a call's turn: a tunnel is started at once, as nothing is awaited before. -/
def settle (m : TunnelManager) (tasks : Tasks) : Progress → (TunnelManager × Tasks) × CallState
  | .awaiting point => ((m, tasks), .awaiting point)
  | .returned result => ((m, tasks), .returned result)
  | .starting entry returned =>
    match m.startTunnelInternal tasks entry with
    | (result, state) => (state, .returned (result.map fun _ => returned))

/-- The state after a turn that ends with a start. -/
theorem settle_starting (m : TunnelManager) (tasks : Tasks) (entry : TunnelEntry)
    (returned : Option TunnelEntry) :
    (settle m tasks (.starting entry returned)).1 = (m.startTunnelInternal tasks entry).2 := rfl

/-- One turn of a call. -/
def managerStep (s : ManagerRun) (l : ManagerStep) : Option ManagerRun :=
  match l with
  | .call cid call =>
    match s.calls cid with
    | .idle =>
      match s.manager.begin s.tasks call with
      | ((m, tasks), progress) =>
        let (state, callState) := settle m tasks progress
        some ⟨state.1, state.2, Function.update s.calls cid callState⟩
    | _ => none
  | .resume cid newId save =>
    match s.calls cid with
    | .awaiting point =>
      match s.manager.resume newId save point with
      | (m, progress) =>
        let (state, callState) := settle m s.tasks progress
        some ⟨state.1, state.2, Function.update s.calls cid callState⟩
    | _ => none

/-! ## Running tunnels and their entries -/

/-- A handle was started from the entry that the config has under its id. -/
def HandleMatches (config : TunnelsConfig) (id : String) (handle : TunnelHandle) : Prop :=
  ∃ entry, config.getTunnel id = some entry ∧ handle.entry.clientId = entry.clientId ∧
    handle.entry.localAddr = entry.localAddr

/-- The running tunnels match the configuration. -/
def RunningMatches (m : TunnelManager) : Prop :=
  ∀ id handle, m.tunnels.lookup id = some handle → HandleMatches m.config id handle

/-- No call is in progress. -/
def ManagerRun.Quiescent (s : ManagerRun) : Prop := ∀ cid point, s.calls cid ≠ .awaiting point

/-- Stopping a tunnel keeps the match of the others. -/
theorem RunningMatches.stopTunnel {m : TunnelManager} (h : RunningMatches m) (tasks : Tasks)
    (id : String) : RunningMatches (m.stopTunnel tasks id).2.1 := by
  intro id' handle hlookup
  rw [TunnelManager.lookup_stopTunnel] at hlookup
  split_ifs at hlookup
  have hmatches := h id' handle hlookup
  rwa [← TunnelManager.stopTunnel_config m tasks id] at hmatches

/-- Starting a tunnel leaves the match exactly if the entry that it is started from matches. -/
theorem RunningMatches.startTunnelInternal_iff {m : TunnelManager} (h : RunningMatches m)
    (tasks : Tasks) (entry : TunnelEntry) :
    RunningMatches (m.startTunnelInternal tasks entry).2.1 ↔
      (m.tunnels.lookup entry.id = none → HandleMatches m.config entry.id ⟨entry, tasks.next⟩) := by
  by_cases hlookup : m.tunnels.lookup entry.id = none
  · rw [startTunnelInternal_stopped hlookup]
    constructor
    · exact fun hmatches _ => hmatches entry.id _ (AList.lookup_insert _)
    · intro hentry id handle hid
      rcases eq_or_ne id entry.id with rfl | hne
      · obtain rfl := Option.some.inj ((AList.lookup_insert _).symm.trans hid)
        exact hentry hlookup
      · exact h id handle ((AList.lookup_insert_ne hne).symm.trans hid)
  · rw [startTunnelInternal_running hlookup]
    exact ⟨fun _ hnone => absurd hnone hlookup, fun _ => h⟩

/-- The part of a call before its first await point keeps the match. -/
theorem RunningMatches.begin {m : TunnelManager} (h : RunningMatches m) (tasks : Tasks)
    (call : Call) :
    RunningMatches (settle (m.begin tasks call).1.1 (m.begin tasks call).1.2
      (m.begin tasks call).2).1.1 := by
  cases call with
  | add | start => exact h
  | update id | remove id | stop id | restart id => exact h.stopTunnel tasks id

/-- A change of the entry of one id leaves the match exactly if the handle under this id matches. -/
theorem RunningMatches.config_iff {m : TunnelManager} (h : RunningMatches m)
    {config : TunnelsConfig} {id : String}
    (hothers : ∀ id', id' ≠ id → config.getTunnel id' = m.config.getTunnel id') :
    RunningMatches { m with config } ↔
      ∀ handle, m.tunnels.lookup id = some handle → HandleMatches config id handle := by
  constructor
  · exact fun hmatches handle hlookup => hmatches id handle hlookup
  · intro hid id' handle hlookup
    rcases eq_or_ne id' id with rfl | hne
    · exact hid handle hlookup
    · obtain ⟨entry, hget, hentry⟩ := h id' handle hlookup
      exact ⟨entry, (hothers id' hne).trans hget, hentry⟩

/-- A call that changes the entry of an id, or takes it away, does not find a running tunnel that it
does not match. -/
def EditsStopped (s : ManagerRun) : ManagerStep → Prop
  | .resume cid newId save =>
    match s.calls cid with
    | .awaiting (.add entry) =>
      -- A tunnel is started under an id that the config did not have before.
      let added := entry.withId newId
      s.manager.config.checkAdd added = .ok () → save = .ok () → added.enabled = true →
        s.manager.tunnels.lookup added.id = none → s.manager.config.getTunnel added.id = none
    | .awaiting (.update id clientId localAddr _) =>
      -- The tunnel is not running when its entry is changed, or runs with the same values.
      ∀ entry, s.manager.config.checkUpdate id clientId localAddr = .ok entry →
        ∀ handle, s.manager.tunnels.lookup id = some handle →
          handle.entry.clientId = clientId ∧ handle.entry.localAddr = localAddr
    | .awaiting (.remove id) =>
      -- The tunnel is not running when its entry is removed, or a second entry has its values.
      ∀ handle, s.manager.tunnels.lookup id = some handle →
        HandleMatches ⟨s.manager.config.tunnels.eraseP (·.id = id)⟩ id handle
    | _ => True
  | .call _ _ => True

/-! ## The turns of a call -/

/-- The match after a turn that goes on from `point`. -/
def MatchesAfter (m : TunnelManager) (tasks : Tasks) (newId : String) (save : Except Error Unit)
    (point : Await) : Prop :=
  RunningMatches (settle (m.resume newId save point).1 tasks (m.resume newId save point).2).1.1

/-- A turn that adds a tunnel. -/
theorem RunningMatches.add_iff {m : TunnelManager} (h : RunningMatches m) (tasks : Tasks)
    (newId : String) (save : Except Error Unit) (entry : TunnelEntry) :
    MatchesAfter m tasks newId save (.add entry) ↔
      (m.config.checkAdd (entry.withId newId) = .ok () → save = .ok () →
        (entry.withId newId).enabled = true → m.tunnels.lookup (entry.withId newId).id = none →
        m.config.getTunnel (entry.withId newId).id = none) := by
  unfold MatchesAfter resume TunnelsConfig.addTunnel
  dsimp only
  generalize entry.withId newId = added
  cases hcheck : m.config.checkAdd added with
  | error e => exact ⟨fun _ => nofun, fun _ => h⟩
  | ok _ =>
    have hconfig : RunningMatches { m with config := ⟨m.config.tunnels ++ [added]⟩ } := by
      intro id handle hlookup
      obtain ⟨entry', hget, hentry'⟩ := h id handle hlookup
      refine ⟨entry', ?_, hentry'⟩
      rw [TunnelsConfig.getTunnel_append]
      exact Option.or_eq_some_iff.mpr (.inl hget)
    -- The new entry is the one under its id exactly if the id is new.
    have hfresh : HandleMatches ⟨m.config.tunnels ++ [added]⟩ added.id ⟨added, tasks.next⟩ ↔
        m.config.getTunnel added.id = none := by
      unfold HandleMatches
      rw [TunnelsConfig.getTunnel_append, if_pos rfl]
      cases hget : m.config.getTunnel added.id with
      | none =>
        simp only [iff_true]
        exact ⟨added, rfl, rfl, rfl⟩
      | some old =>
        simp only [reduceCtorEq, iff_false]
        rintro ⟨entry', hentry', hclient, -⟩
        obtain rfl : old = entry' := Option.some.inj hentry'
        exact TunnelsConfig.checkAdd_unique hcheck (List.mem_of_find?_eq_some hget) hclient.symm
    cases save with
    | error e => exact ⟨fun _ _ => nofun, fun _ => hconfig⟩
    | ok _ =>
      simp only [Except.map, startEnabled]
      split_ifs with henabled
      · rw [settle_starting, hconfig.startTunnelInternal_iff]
        exact ⟨fun hmatches _ _ _ hnone => hfresh.mp (hmatches hnone),
          fun hnew hnone => hfresh.mpr (hnew trivial trivial henabled hnone)⟩
      · exact ⟨fun _ _ _ henabled' => absurd henabled' henabled, fun _ => hconfig⟩

/-- A turn that updates a tunnel. -/
theorem RunningMatches.update_iff {m : TunnelManager} (h : RunningMatches m) (tasks : Tasks)
    (newId : String) (save : Except Error Unit) (id clientId localAddr : String)
    (enabled : Bool) :
    MatchesAfter m tasks newId save (.update id clientId localAddr enabled) ↔
    ∀ entry, m.config.checkUpdate id clientId localAddr = .ok entry →
      ∀ handle, m.tunnels.lookup id = some handle →
        handle.entry.clientId = clientId ∧ handle.entry.localAddr = localAddr := by
  cases hcheck : m.config.checkUpdate id clientId localAddr with
  | error e =>
    simp only [MatchesAfter, resume, TunnelsConfig.updateTunnel, hcheck]
    exact ⟨fun _ => nofun, fun _ => h⟩
  | ok entry =>
    have hget := TunnelsConfig.checkUpdate_getTunnel hcheck
    have hid := TunnelsConfig.getTunnel_id hget
    simp only [MatchesAfter, resume, TunnelsConfig.updateTunnel, hcheck, forall_eq',
      Except.ok.injEq]
    generalize hupdated : ({ entry with clientId, localAddr, enabled } : TunnelEntry) = updated
    obtain ⟨hid', hclient, hlocal⟩ :
        updated.id = id ∧ updated.clientId = clientId ∧ updated.localAddr = localAddr := by
      rw [← hupdated]
      exact ⟨hid, rfl, rfl⟩
    generalize hset : (⟨TunnelsConfig.setFirst updated m.config.tunnels⟩ : TunnelsConfig) = config
    have hself : config.getTunnel id = some updated := by
      rw [← hset, TunnelsConfig.getTunnel_setFirst, if_pos hid']
      exact congrArg (Option.map _) hget
    have hothers (id' : String) (hne : id' ≠ id) :
        config.getTunnel id' = m.config.getTunnel id' := by
      rw [← hset, TunnelsConfig.getTunnel_setFirst, if_neg fun heq => hne (heq.symm.trans hid')]
    have hconfig : RunningMatches { m with config } ↔
        ∀ handle, m.tunnels.lookup id = some handle →
          handle.entry.clientId = clientId ∧ handle.entry.localAddr = localAddr := by
      rw [h.config_iff hothers]
      refine forall₂_congr fun handle _ => ?_
      unfold HandleMatches
      rw [hself]
      simp [hclient, hlocal]
    rw [← hconfig]
    cases save with
    | error e => rfl
    | ok _ =>
      simp only [Except.map, startEnabled]
      split_ifs with henabled
      · rw [settle_starting]
        by_cases hlookup : m.tunnels.lookup updated.id = none
        · have hmatches : RunningMatches { m with config } := by
            rw [hconfig, ← hid', hlookup]
            exact nofun
          refine iff_of_true ?_ hmatches
          rw [hmatches.startTunnelInternal_iff]
          exact fun _ => ⟨updated, hid' ▸ hself, rfl, rfl⟩
        · -- Another call has started the tunnel again.
          rw [startTunnelInternal_running (m := { m with config }) hlookup]
      · rfl

/-- A turn that removes a tunnel. -/
theorem RunningMatches.remove_iff {m : TunnelManager} (h : RunningMatches m) (tasks : Tasks)
    (newId : String) (save : Except Error Unit) (id : String) :
    MatchesAfter m tasks newId save (.remove id) ↔
      ∀ handle, m.tunnels.lookup id = some handle →
        HandleMatches ⟨m.config.tunnels.eraseP (·.id = id)⟩ id handle := by
  cases hget : m.config.getTunnel id with
  | none =>
    simp only [MatchesAfter, resume, TunnelsConfig.removeTunnel, hget]
    -- A tunnel without an entry is not running.
    refine iff_of_true h fun handle hlookup => ?_
    obtain ⟨entry, hentry, -⟩ := h id handle hlookup
    cases hget.symm.trans hentry
  | some removed =>
    simp only [MatchesAfter, resume, TunnelsConfig.removeTunnel, hget]
    exact h.config_iff fun id' hne => TunnelsConfig.getTunnel_eraseP m.config.tunnels hne

/-- A turn that starts a tunnel starts it from its entry. -/
theorem RunningMatches.start {m : TunnelManager} (h : RunningMatches m) (tasks : Tasks)
    (newId : String) (save : Except Error Unit) (id : String) :
    MatchesAfter m tasks newId save (.start id) := by
  cases hget : m.config.getTunnel id with
  | none =>
    simp only [MatchesAfter, resume, hget]
    exact h
  | some entry =>
    simp only [MatchesAfter, resume, hget]
    rw [settle_starting, h.startTunnelInternal_iff]
    intro _
    rw [TunnelsConfig.getTunnel_id hget]
    exact ⟨entry, hget, rfl, rfl⟩

/-- A step keeps the match exactly if it meets its condition. -/
theorem RunningMatches.step_iff {s s' : ManagerRun} {l : ManagerStep}
    (h : RunningMatches s.manager) (hstep : managerStep s l = some s') :
    RunningMatches s'.manager ↔ EditsStopped s l := by
  cases l with
  | call cid call =>
    unfold managerStep at hstep
    dsimp only at hstep
    split at hstep
    · obtain rfl := Option.some.inj hstep
      exact iff_of_true (h.begin s.tasks call) trivial
    · cases hstep
  | resume cid newId save =>
    unfold managerStep at hstep
    unfold EditsStopped
    dsimp only at hstep ⊢
    cases hcall : s.calls cid with
    | idle | returned => simp [hcall] at hstep
    | awaiting point =>
      simp only [hcall] at hstep
      obtain rfl := Option.some.inj hstep
      cases point with
      | add entry => exact h.add_iff s.tasks newId save entry
      | update id clientId localAddr enabled =>
        exact h.update_iff s.tasks newId save id clientId localAddr enabled
      | remove id => exact h.remove_iff s.tasks newId save id
      | start id => exact iff_of_true (h.start s.tasks newId save id) trivial
      | sleep id => exact iff_of_true h trivial

/-- **The running tunnels match the configuration in every state of a run exactly if each of its
steps edits only stopped tunnels.** So they match in particular when no call is in progress. -/
theorem running_matches_iff (config : TunnelsConfig) (labels : List ManagerStep) :
    (Visits managerStep (fun s => RunningMatches s.manager) (.new config) labels ↔
      Meets managerStep EditsStopped (.new config) labels) ∧
    (Meets managerStep EditsStopped (.new config) labels →
      Visits managerStep (fun s => s.Quiescent → RunningMatches s.manager) (.new config)
        labels) := by
  have hnew : RunningMatches (ManagerRun.new config).manager := nofun
  have hiff := visits_iff_meets (I := fun s => RunningMatches s.manager)
    (P := fun s => RunningMatches s.manager) (C := EditsStopped)
    (fun s l s' hI hC hstep => (hI.step_iff hstep).mpr hC) (fun _ hI => hI)
    (fun s l s' hI hC hstep hP => hC ((hI.step_iff hstep).mp hP)) hnew labels
  exact ⟨hiff, fun hmeets => (hiff.mpr hmeets).mono fun s hP _ => hP⟩

/-- A tunnel is updated, and started while the update waits for the lock of the config. It goes on
with the address that it had before. -/
theorem update_outrun :
    ∃ s, exec managerStep (.new ⟨[⟨"t1", "app", "localhost:3000", true⟩]⟩)
        [.call 0 (.update "t1" "app" "localhost:4000" true), .call 1 (.start "t1"),
          .resume 1 "" (.ok ()), .resume 0 "" (.ok ())] = some s ∧
      s.Quiescent ∧ ¬ RunningMatches s.manager := by
  -- The handle has the address of the old entry, and the config that of the new one.
  refine ⟨_, rfl, fun cid point => ?_, fun hmatches => ?_⟩
  · rcases cid with _ | _ | cid <;> exact fun h => by cases h
  · obtain ⟨entry, hget, -, hlocal⟩ := hmatches "t1" _ rfl
    obtain rfl := Option.some.inj hget
    exact absurd hlocal (by decide)

end ZoTunnel
