import ZoTunnel.Client.ConfigInvariant
import ZoTunnel.Client.ManagerRun

/-!
# Edits that are rejected

`add_tunnel`, `update_tunnel` and `remove_tunnel` of the tunnel manager, when no other call comes in
between and every save succeeds. `update_tunnel` and `remove_tunnel` stop the tunnel before the
config looks at the arguments, and `add_tunnel` changes the config before it finds that the tunnel
cannot be started. `rejected_edit_iff` says which calls leave the manager as it was when they fail.
-/

namespace ZoTunnel

open TunnelManager

/-- A call that changes the config. -/
inductive Edit where
  | add (entry : TunnelEntry)
  | update (id clientId localAddr : String) (enabled : Bool)
  | remove (id : String)
  deriving DecidableEq, Repr

/-- The call. -/
def Edit.call : Edit → Call
  | .add entry => .add entry
  | .update id clientId localAddr enabled => .update id clientId localAddr enabled
  | .remove id => .remove id

/-- The await point of the call, where it waits for the lock of the config. -/
def Edit.await : Edit → Await
  | .add entry => .add entry
  | .update id clientId localAddr enabled => .update id clientId localAddr enabled
  | .remove id => .remove id

/-- The call with nothing in between, and with a save that succeeds: its result, and the manager
after it. -/
def Edit.run (edit : Edit) (m : TunnelManager) (tasks : Tasks) (newId : String) :
    CallState × TunnelManager :=
  let ((m, tasks), _) := m.begin tasks edit.call
  let (m, progress) := m.resume newId (.ok ()) edit.await
  let ((m, _), result) := settle m tasks progress
  (result, m)

/-- The entries of the running tunnels, by their ids. -/
def TunnelManager.runningEntry (m : TunnelManager) (id : String) : Option TunnelEntry :=
  (m.tunnels.lookup id).map (·.entry)

/-- When the call fails, the same tunnels run with the same entries, and the config is the same. -/
def KeptOnError (m : TunnelManager) (after : CallState × TunnelManager) : Prop :=
  ∀ e, after.1 = .returned (.error e) →
    (∀ id, after.2.runningEntry id = m.runningEntry id) ∧ after.2.config = m.config

/-- A call that does not stop a tunnel or change the config before it is rejected: a tunnel that is
added with an id of its own is not running under it, a running tunnel that is updated is in the
config and gets values that it takes, and a running tunnel that is removed is in the config. -/
def Edit.RejectedFirst (m : TunnelManager) (newId : String) : Edit → Prop
  | .add entry =>
    Text.isBlank entry.clientId = false → Text.isBlank entry.localAddr = false →
      (∀ t ∈ m.config.tunnels, t.clientId ≠ entry.clientId) → entry.enabled = true →
      m.tunnels.lookup (entry.withId newId).id = none
  | .update id clientId localAddr _ =>
    m.tunnels.lookup id ≠ none →
      (m.config.getTunnel id).isSome = true ∧ m.config.Takes id clientId localAddr
  | .remove id => m.tunnels.lookup id ≠ none → (m.config.getTunnel id).isSome = true

/-- Stopping a tunnel takes its entry from the running ones, and no other. -/
theorem runningEntry_stopTunnel (m : TunnelManager) (tasks : Tasks) (id id' : String) :
    (m.stopTunnel tasks id).2.1.runningEntry id' =
      if id' = id then none else m.runningEntry id' := by
  unfold TunnelManager.runningEntry
  rw [lookup_stopTunnel]
  split_ifs <;> rfl

/-- A call that fails after it has stopped a tunnel leaves the manager as it was exactly if the
tunnel was not running. -/
theorem kept_of_stopped_iff {m m' : TunnelManager} {tasks : Tasks} {id : String} {e : Error}
    (h : m' = (m.stopTunnel tasks id).2.1) :
    KeptOnError m (.returned (.error e), m') ↔ m.tunnels.lookup id = none := by
  subst h
  constructor
  · intro hkept
    obtain ⟨hrunning, -⟩ := hkept e rfl
    have hid := hrunning id
    rw [runningEntry_stopTunnel, if_pos rfl] at hid
    exact Option.map_eq_none_iff.mp hid.symm
  · intro hnone e' _
    refine ⟨fun id' => ?_, stopTunnel_config m tasks id⟩
    rw [runningEntry_stopTunnel]
    by_cases hid : id' = id
    · rw [if_pos hid, hid, TunnelManager.runningEntry, hnone, Option.map_none]
    · rw [if_neg hid]

/-- A call that succeeds has nothing to keep. -/
theorem kept_of_ok (m m' : TunnelManager) (result : Option TunnelEntry) :
    KeptOnError m (.returned (.ok result), m') := by
  intro e h
  cases h

/-- A start that fails changes the manager no further, and one that succeeds does not fail. -/
theorem kept_starting_iff (m m' : TunnelManager) (tasks : Tasks) (entry : TunnelEntry)
    (returned : Option TunnelEntry) :
    KeptOnError m ((settle m' tasks (.starting entry returned)).2,
        (settle m' tasks (.starting entry returned)).1.1) ↔
      (m'.tunnels.lookup entry.id ≠ none →
        (∀ id, m'.runningEntry id = m.runningEntry id) ∧ m'.config = m.config) := by
  cases hlookup : m'.tunnels.lookup entry.id with
  | none =>
    have hstart : m'.startTunnelInternal tasks entry = (.ok (), m'.insertStarted tasks entry) := by
      simp [startTunnelInternal, checkStart, hlookup]
    simp only [settle, hstart]
    exact iff_of_true (kept_of_ok m _ _) (fun hne => absurd rfl hne)
  | some handle =>
    have hstart : m'.startTunnelInternal tasks entry =
        (.error ("Tunnel '" ++ entry.clientId ++ "' is already running"), m', tasks) := by
      simp [startTunnelInternal, checkStart, hlookup]
    simp only [settle, hstart]
    exact ⟨fun hkept _ => hkept _ rfl, fun h _ _ => h (by simp)⟩

/-- An added tunnel is in the config by the time that its start fails. -/
theorem kept_add_iff (m : TunnelManager) (tasks : Tasks) (newId : String) (entry : TunnelEntry) :
    KeptOnError m (Edit.run (.add entry) m tasks newId) ↔
      Edit.RejectedFirst m newId (.add entry) := by
  have hvalues := @TunnelsConfig.checkAdd_eq_ok_iff m.config entry
  rw [← TunnelsConfig.checkAdd_withId entry newId] at hvalues
  have henabled : (entry.withId newId).enabled = entry.enabled := by
    unfold TunnelEntry.withId
    split_ifs <;> rfl
  simp only [Edit.RejectedFirst, ← henabled]
  simp only [Edit.run, Edit.call, Edit.await, begin, resume, TunnelsConfig.addTunnel]
  generalize entry.withId newId = added at hvalues ⊢
  cases hcheck : m.config.checkAdd added with
  | error e =>
    rw [hcheck] at hvalues
    refine iff_of_true (fun _ _ => ⟨fun _ => rfl, rfl⟩) fun hclient haddr hunique => ?_
    cases hvalues.mpr ⟨hclient, haddr, hunique⟩
  | ok _ =>
    obtain ⟨hclient, haddr, hunique⟩ := hvalues.mp hcheck
    have hchanged : m.config.tunnels ++ [added] ≠ m.config.tunnels := by simp
    simp only [Except.map, startEnabled]
    by_cases hon : added.enabled = true
    · rw [if_pos hon]
      constructor
      · intro hkept _ _ _ _
        by_contra hne
        have hsame := ((kept_starting_iff _ _ _ _ _).mp hkept hne).2
        exact hchanged (congrArg TunnelsConfig.tunnels hsame)
      · intro hstopped
        refine (kept_starting_iff _ _ _ _ _).mpr fun hne => ?_
        exact absurd (hstopped hclient haddr hunique hon) hne
    · rw [if_neg hon]
      exact iff_of_true (kept_of_ok m _ _) fun _ _ _ h => absurd h hon

/-- An updated tunnel has been stopped by the time that its values are rejected. -/
theorem kept_update_iff (m : TunnelManager) (tasks : Tasks) (newId id clientId localAddr : String)
    (enabled : Bool) :
    KeptOnError m (Edit.run (.update id clientId localAddr enabled) m tasks newId) ↔
      Edit.RejectedFirst m newId (.update id clientId localAddr enabled) := by
  have hcheck := @TunnelsConfig.checkUpdate_eq_ok_iff m.config id clientId localAddr
  have hconfig := stopTunnel_config m tasks id
  have hstopped : (m.stopTunnel tasks id).2.1.tunnels.lookup id = none := by
    rw [lookup_stopTunnel, if_pos rfl]
  simp only [Edit.RejectedFirst, Edit.run, Edit.call, Edit.await, begin, resume,
    TunnelsConfig.updateTunnel, hconfig]
  cases h : m.config.checkUpdate id clientId localAddr with
  | error e =>
    -- The tunnel has been stopped, and its new values are rejected.
    have hfails : ¬ ((m.config.getTunnel id).isSome = true ∧
        m.config.Takes id clientId localAddr) := by
      rintro ⟨hsome, htakes⟩
      obtain ⟨entry, hentry⟩ := Option.isSome_iff_exists.mp hsome
      cases h.symm.trans (hcheck.mpr ⟨hentry, htakes⟩)
    have hsame : { (m.stopTunnel tasks id).2.1 with config := m.config } =
        (m.stopTunnel tasks id).2.1 := by rw [← hconfig]
    simp only [startEnabled, settle, hsame]
    rw [kept_of_stopped_iff rfl]
    exact ⟨fun hnone hne => absurd hnone hne, fun hok => not_not.mp fun hne => hfails (hok hne)⟩
  | ok entry =>
    obtain ⟨hget, htakes⟩ := hcheck.mp h
    -- The values are accepted, and nothing is an error.
    refine iff_of_true ?_ fun _ => ⟨by rw [hget]; rfl, htakes⟩
    have hid : entry.id = id := TunnelsConfig.getTunnel_id hget
    simp only [Except.map, startEnabled]
    by_cases hon : enabled = true
    · rw [if_pos hon]
      refine (kept_starting_iff _ _ _ _ _).mpr fun hne => absurd ?_ hne
      rw [hid]
      exact hstopped
    · rw [if_neg hon]
      exact kept_of_ok m _ _

/-- A removed tunnel has been stopped by the time that the config does not find it. -/
theorem kept_remove_iff (m : TunnelManager) (tasks : Tasks) (newId id : String) :
    KeptOnError m (Edit.run (.remove id) m tasks newId) ↔
      Edit.RejectedFirst m newId (.remove id) := by
  have hconfig := stopTunnel_config m tasks id
  simp only [Edit.RejectedFirst, Edit.run, Edit.call, Edit.await, begin, resume,
    TunnelsConfig.removeTunnel, hconfig]
  cases hget : m.config.getTunnel id with
  | none =>
    have hsame : { (m.stopTunnel tasks id).2.1 with config := m.config } =
        (m.stopTunnel tasks id).2.1 := by rw [← hconfig]
    simp only [Except.map, settle, hsame]
    rw [kept_of_stopped_iff rfl]
    simp
  | some entry => exact iff_of_true (kept_of_ok m _ _) fun _ => rfl

/-- A call leaves the manager as it was when it fails, exactly if it does not stop a tunnel or
change the config before it is rejected. -/
theorem rejected_edit_iff (m : TunnelManager) (tasks : Tasks) (newId : String) (edit : Edit) :
    KeptOnError m (edit.run m tasks newId) ↔ edit.RejectedFirst m newId := by
  cases edit with
  | add entry => exact kept_add_iff m tasks newId entry
  | update id clientId localAddr enabled =>
    exact kept_update_iff m tasks newId id clientId localAddr enabled
  | remove id => exact kept_remove_iff m tasks newId id

/-- A manager of two tunnels, with the first of them running. -/
def oneRunning : TunnelManager :=
  ⟨AList.insert "a1" ⟨⟨"a1", "web", "localhost:3000", true⟩, 0⟩ ∅,
    ⟨[⟨"a1", "web", "localhost:3000", true⟩, ⟨"b2", "api", "localhost:4000", false⟩]⟩⟩

/-- An update of the running tunnel to the other's name is rejected, and the tunnel is down. -/
theorem rejected_update_stops :
    ¬ KeptOnError oneRunning
      (Edit.run (.update "a1" "api" "localhost:3000" true) oneRunning .new "c3") := by
  intro hkept
  have hresult : (Edit.run (.update "a1" "api" "localhost:3000" true) oneRunning .new "c3").1 =
      .returned (.error "tunnel with client_id 'api' already exists") := by decide +kernel
  have hrunning := (hkept _ hresult).1 "a1"
  revert hrunning
  decide +kernel

end ZoTunnel
