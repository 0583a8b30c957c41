import Mathlib.Logic.Relation
import ZoTunnel.Client.Handles

/-!
# What the requests do to the managers

Whatever a request to the client's web server does to the managers and to the tunnel tasks is a
chain of moves: it stops a tunnel, starts one, changes a config, or creates a manager
(`appStep_moves`). An invariant of the managers is proved for each move once.

`Handled` is such an invariant: a handle is that of a task which runs, for the tunnel under its id.
It holds along every run, also along those that lose a handle (`Client/Orphans.lean`).
-/

namespace ZoTunnel

open TunnelManager Relation

namespace AppState

/-- One change of the managers and the tasks. -/
inductive Move (s s' : AppState) : Prop where
  | stop (mgr : ℕ) (id : String)
      (hmanagers : s'.managers =
        Function.update s.managers mgr ((s.managers mgr).stopTunnel s.tasks id).2.1)
      (htasks : s'.tasks = ((s.managers mgr).stopTunnel s.tasks id).2.2)
  | insert (mgr : ℕ) (entry : TunnelEntry)
      (hmanagers : s'.managers =
        Function.update s.managers mgr ((s.managers mgr).insertStarted s.tasks entry).1)
      (htasks : s'.tasks = ((s.managers mgr).insertStarted s.tasks entry).2)
  /-- The handles of a manager stay, or it is a new manager without any. -/
  | config (mgr : ℕ) (m : TunnelManager)
      (hm : m.tunnels = (s.managers mgr).tunnels ∨ m.tunnels = ∅)
      (hmanagers : s'.managers = Function.update s.managers mgr m) (htasks : s'.tasks = s.tasks)
  | other (hmanagers : s'.managers = s.managers) (htasks : s'.tasks = s.tasks)

variable {s s' : AppState}

/-! ## The steps as moves -/

/-- Stopping a tunnel is a move. -/
theorem moves_stopTunnel (s : AppState) (mgr : ℕ) (id : String) :
    ReflTransGen Move s (s.setManager mgr ((s.managers mgr).stopTunnel s.tasks id).2) :=
  .single (.stop mgr id rfl rfl)

/-- Starting a tunnel is a move, or none. -/
theorem moves_startTunnelInternal (s : AppState) (mgr : ℕ) (entry : TunnelEntry) :
    ReflTransGen Move s
      (s.setManager mgr ((s.managers mgr).startTunnelInternal s.tasks entry).2) := by
  by_cases hlookup : (s.managers mgr).tunnels.lookup entry.id = none
  · rw [startTunnelInternal_stopped hlookup]
    exact .single (.insert mgr entry rfl rfl)
  · rw [startTunnelInternal_running hlookup, setManager_self]

/-- What is a chain of moves once is one when it is done for each item of a list. -/
theorem moves_foldl {α : Type} {f : TunnelManager × Tasks → α → TunnelManager × Tasks} {mgr : ℕ}
    (hf : ∀ (s : AppState) a,
      ReflTransGen Move s (s.setManager mgr (f (s.managers mgr, s.tasks) a)))
    (as : List α) (s : AppState) :
    ReflTransGen Move s (s.setManager mgr (as.foldl f (s.managers mgr, s.tasks))) := by
  induction as generalizing s with
  | nil =>
    rw [List.foldl_nil, setManager_self]
  | cons a as ih =>
    have hrest := ih (s.setManager mgr (f (s.managers mgr, s.tasks) a))
    rw [setManager_managers_self, setManager_tasks, setManager_setManager] at hrest
    exact (hf s a).trans hrest

/-- Starting all tunnels of a manager is a chain of moves. -/
theorem moves_startAll (s : AppState) (mgr : ℕ) : ReflTransGen Move s (s.startAll mgr) :=
  moves_foldl (fun s entry => s.moves_startTunnelInternal mgr entry) _ s

/-- Disconnecting is a chain of moves. -/
theorem moves_disconnect (s : AppState) : ReflTransGen Move s s.disconnect := by
  unfold disconnect
  cases s.inner with
  | none => exact .refl
  | some mgr =>
    exact (moves_foldl (fun s id => s.moves_stopTunnel mgr id) _ s).tail (.other rfl rfl)

/-- The first part of an operation on the tunnels is a chain of moves. -/
theorem moves_begin (s : AppState) (mgr : ℕ) (call : Call) :
    ReflTransGen Move s (s.setManager mgr ((s.managers mgr).begin s.tasks call).1) := by
  cases call with
  | add | start =>
    unfold TunnelManager.begin
    rw [setManager_self]
  | update id | remove id | stop id | restart id => exact s.moves_stopTunnel mgr id

/-- Every step of a request is a chain of moves. -/
theorem appStep_moves {l : AppStep} (h : appStep s l = some s') : ReflTransGen Move s s' := by
  unfold appStep at h
  split at h
  · rename_i rid request
    split at h
    · obtain rfl := Option.some.inj h
      unfold AppState.begin
      cases request with
      | connect save config =>
        dsimp only
        cases save with
        | error e => exact (moves_disconnect s).tail (.other rfl rfl)
        | ok =>
          exact (moves_disconnect s).tail
            (.config s.disconnect.nextManager (.new config) (.inr rfl) rfl rfl)
      | disconnect => exact (moves_disconnect s).tail (.other rfl rfl)
      | tunnel call =>
        dsimp only
        cases s.inner with
        | none => exact .single (.other rfl rfl)
        | some mgr => exact (moves_begin s mgr call).tail (.other rfl rfl)
    · cases h
  · rename_i rid newId save
    split at h
    · obtain rfl := Option.some.inj h
      exact (moves_startAll s _).tail (.other rfl rfl)
    · obtain rfl := Option.some.inj h
      exact .single (.other rfl rfl)
    · rename_i mgr point hrid
      obtain rfl := Option.some.inj h
      exact .single (.config mgr _ (.inl (resume_tunnels _ newId save point)) rfl rfl)
    · rename_i mgr entry result hrid
      obtain rfl := Option.some.inj h
      exact .single (.insert mgr entry rfl rfl)
    · cases h
  · split at h
    · obtain rfl := Option.some.inj h
      exact .single (.other rfl rfl)
    · obtain rfl := Option.some.inj h
      exact .single (.other rfl rfl)
    · obtain rfl := Option.some.inj h
      exact .single (.other rfl rfl)
    · cases h

/-- The web server starts with a chain of moves. -/
theorem moves_new (saved : Option TunnelsConfig) : ReflTransGen Move disconnected (.new saved) := by
  cases saved with
  | none => exact .refl
  | some config =>
    have hcreate : Move disconnected (disconnected.newManager config) :=
      .config 0 (.new config) (.inr rfl) rfl rfl
    exact ((ReflTransGen.single hcreate).trans (moves_startAll _ 0)).tail (.other rfl rfl)

/-! ## Invariants of the moves -/

/-- An invariant of the moves is one of the chains. -/
theorem inv_of_moves {I : AppState → Prop} (hI : ∀ s s', I s → Move s s' → I s')
    (h : ReflTransGen Move s s') (hs : I s) : I s' := by
  induction h with
  | refl => exact hs
  | tail _ hmove ih => exact hI _ _ ih hmove

/-- The slots after a tunnel is stopped are the others. -/
theorem slot_of_stop {mgr : ℕ} {id : String} (hmanagers : s'.managers =
    Function.update s.managers mgr ((s.managers mgr).stopTunnel s.tasks id).2.1) :
    s'.slot = Function.update s.slot (mgr, id) none := by
  have hothers : ∀ id' ≠ id, ((s.managers mgr).stopTunnel s.tasks id).2.1.tunnels.lookup id' =
      (s.managers mgr).tunnels.lookup id' := by
    intro id' hne
    rw [lookup_stopTunnel, if_neg hne]
  have hupdate := s.slot_setManager_update id hothers
  rw [lookup_stopTunnel, if_pos rfl] at hupdate
  rw [← Option.map_none, ← hupdate]
  funext k
  unfold slot setManager
  rw [hmanagers]

/-- The slots after a tunnel is started are the others, and its own with the new task. -/
theorem slot_of_insert {mgr : ℕ} {entry : TunnelEntry} (hmanagers : s'.managers =
    Function.update s.managers mgr ((s.managers mgr).insertStarted s.tasks entry).1) :
    s'.slot = Function.update s.slot (mgr, entry.id) (some s.tasks.next) := by
  have hothers : ∀ id' ≠ entry.id,
      ((s.managers mgr).insertStarted s.tasks entry).1.tunnels.lookup id' =
        (s.managers mgr).tunnels.lookup id' :=
    fun id' hne => AList.lookup_insert_ne hne
  have hupdate := s.slot_setManager_update entry.id hothers
  unfold insertStarted at hupdate
  rw [AList.lookup_insert, Option.map_some] at hupdate
  rw [← hupdate]
  funext k
  unfold slot setManager
  rw [hmanagers]
  rfl

/-- A handle is that of a task which runs, for the tunnel under whose id it is, and no task has two
handles. -/
structure Handled (s : AppState) : Prop where
  running : ∀ mgr id handle, (s.managers mgr).tunnels.lookup id = some handle →
    handle.entry.id = id ∧ s.tasks.running handle.task = some handle.entry
  alone : ∀ k k' task, s.slot k = some task → s.slot k' = some task → k = k'
  fresh : ∀ task, s.tasks.next ≤ task → s.tasks.running task = none

/-- Every move keeps the handles so. -/
theorem Handled.move (h : s.Handled) (hmove : Move s s') : s'.Handled := by
  cases hmove with
  | stop mgr id hmanagers htasks =>
    have hslot := slot_of_stop hmanagers
    refine ⟨fun mgr' id' handle hlookup => ?_, fun k k' task hk hk' => ?_, fun task htask => ?_⟩
    · -- The handle was there before, and is not that of the task which is stopped.
      have hk : s'.slot (mgr', id') = some handle.task := by
        unfold slot
        rw [hlookup]
        rfl
      rw [hslot, Function.update_apply] at hk
      split_ifs at hk with hne
      have hold : (s.managers mgr').tunnels.lookup id' = some handle := by
        rw [hmanagers, Function.update_apply] at hlookup
        split_ifs at hlookup with hmgr
        · rw [lookup_stopTunnel] at hlookup
          split_ifs at hlookup
          rw [hmgr]
          exact hlookup
        · exact hlookup
      refine ⟨(h.running mgr' id' handle hold).1, ?_⟩
      rw [htasks, stopTunnel_running, if_neg]
      · exact (h.running mgr' id' handle hold).2
      · exact fun hsame => hne (h.alone _ _ _ hk hsame)
    · rw [hslot, Function.update_apply] at hk hk'
      split_ifs at hk hk'
      exact h.alone k k' task hk hk'
    · have hnext : s'.tasks.next = s.tasks.next := by
        rw [htasks]
        unfold stopTunnel
        split <;> rfl
      rw [htasks, stopTunnel_running, h.fresh task (hnext ▸ htask), ite_self]
  | insert mgr entry hmanagers htasks =>
    have hslot := slot_of_insert hmanagers
    have hrunning : ∀ task, s'.tasks.running task =
        if task = s.tasks.next then some entry else s.tasks.running task := by
      intro task
      rw [htasks]
      exact Function.update_apply ..
    -- A task that has a handle is not the new one.
    have hne : ∀ k, s.slot k ≠ some s.tasks.next := by
      intro k hk
      obtain ⟨handle, hlookup, htask⟩ := Option.map_eq_some_iff.mp hk
      have hrun := (h.running _ _ _ hlookup).2
      rw [htask, h.fresh _ le_rfl] at hrun
      cases hrun
    refine ⟨fun mgr' id' handle hlookup => ?_, fun k k' task hk hk' => ?_, fun task htask => ?_⟩
    · rw [hmanagers, Function.update_apply] at hlookup
      have hcases : (id' = entry.id ∧ handle = ⟨entry, s.tasks.next⟩) ∨
          (s.managers mgr').tunnels.lookup id' = some handle := by
        split_ifs at hlookup with hmgr
        · unfold insertStarted at hlookup
          rcases eq_or_ne id' entry.id with rfl | hid
          · rw [AList.lookup_insert] at hlookup
            exact .inl ⟨rfl, (Option.some.inj hlookup).symm⟩
          · rw [AList.lookup_insert_ne hid] at hlookup
            rw [hmgr]
            exact .inr hlookup
        · exact .inr hlookup
      rcases hcases with ⟨rfl, rfl⟩ | hold
      · exact ⟨rfl, by rw [hrunning, if_pos rfl]⟩
      · have hrun := h.running mgr' id' handle hold
        refine ⟨hrun.1, ?_⟩
        rw [hrunning, if_neg]
        · exact hrun.2
        · intro htask
          refine hne (mgr', id') ?_
          unfold slot
          rw [hold, ← htask]
          rfl
    · rw [hslot, Function.update_apply] at hk hk'
      split_ifs at hk hk' with heq heq' heq'
      · exact heq.trans heq'.symm
      · exact absurd (hk'.trans hk.symm) (Option.some.inj hk ▸ hne k')
      · exact absurd (hk.trans hk'.symm) (Option.some.inj hk' ▸ hne k)
      · exact h.alone k k' task hk hk'
    · have hnext : s.tasks.next + 1 ≤ task := by
        rw [htasks] at htask
        exact htask
      rw [hrunning, if_neg (by omega)]
      exact h.fresh task (by omega)
  | config mgr m hm hmanagers htasks =>
    have hold : ∀ mgr' id' handle, (s'.managers mgr').tunnels.lookup id' = some handle →
        (s.managers mgr').tunnels.lookup id' = some handle := by
      intro mgr' id' handle hlookup
      rw [hmanagers, Function.update_apply] at hlookup
      split_ifs at hlookup with hmgr
      · rcases hm with hm | hm <;> rw [hm] at hlookup
        · rw [hmgr]
          exact hlookup
        · cases hlookup
      · exact hlookup
    have hslot : ∀ k task, s'.slot k = some task → s.slot k = some task := by
      intro k task hk
      obtain ⟨handle, hlookup, htask⟩ := Option.map_eq_some_iff.mp hk
      unfold slot
      rw [hold _ _ _ hlookup, ← htask]
      rfl
    refine ⟨fun mgr' id' handle hlookup => ?_, fun k k' task hk hk' => ?_, ?_⟩
    · rw [htasks]
      exact h.running mgr' id' handle (hold _ _ _ hlookup)
    · exact h.alone k k' task (hslot k task hk) (hslot k' task hk')
    · rw [htasks]
      exact h.fresh
  | other hmanagers htasks =>
    exact ⟨by rw [hmanagers, htasks]; exact h.running,
      by unfold slot; rw [hmanagers]; exact h.alone, by rw [htasks]; exact h.fresh⟩

/-- The numbers of the tasks go up, and a task that has been stopped does not run again. -/
structure Grown (s s' : AppState) : Prop where
  next : s.tasks.next ≤ s'.tasks.next
  running : ∀ task entry, s'.tasks.running task = some entry →
    s.tasks.running task = some entry ∨ s.tasks.next ≤ task

/-- A chain of moves spawns and stops tasks, and does nothing else to them. -/
theorem grown_of_moves (h : ReflTransGen Move s s') : s.Grown s' := by
  refine inv_of_moves (fun t t' hgrown hmove => ?_) h ⟨le_rfl, fun _ _ hrun => .inl hrun⟩
  cases hmove with
  | stop mgr id hmanagers htasks =>
    refine ⟨?_, fun task entry hrun => ?_⟩
    · rw [htasks]
      unfold stopTunnel
      split <;> exact hgrown.next
    · rw [htasks, stopTunnel_running] at hrun
      split_ifs at hrun
      exact hgrown.running task entry hrun
  | insert mgr entry hmanagers htasks =>
    refine ⟨?_, fun task entry' hrun => ?_⟩
    · rw [htasks]
      exact hgrown.next.trans (Nat.le_succ _)
    · rw [htasks] at hrun
      unfold insertStarted Tasks.spawn at hrun
      dsimp only at hrun
      rw [Function.update_apply] at hrun
      split_ifs at hrun with htask
      · exact .inr (htask ▸ hgrown.next)
      · exact hgrown.running task entry' hrun
  | config mgr m hm hmanagers htasks | other hmanagers htasks =>
    exact ⟨by rw [htasks]; exact hgrown.next, by rw [htasks]; exact hgrown.running⟩

/-- The web server starts with its handles so. -/
theorem handled_new (saved : Option TunnelsConfig) : (new saved).Handled := by
  refine inv_of_moves (fun _ _ h hmove => h.move hmove) (moves_new saved) ⟨?_, ?_, fun _ _ => rfl⟩
  · intro mgr id handle hlookup
    cases hlookup
  · intro k k' task hk
    cases hk

end AppState

end ZoTunnel
