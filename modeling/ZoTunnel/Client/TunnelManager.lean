import Mathlib.Data.List.AList
import ZoTunnel.Client.Config

/-!
# Tunnel manager

`TunnelManager` (`tunnel_manager.rs`): the tunnels that are running, by their ids, and the
configuration. A tunnel runs in a task of its own, which reconnects until it is cancelled or
aborted. To drop its handle does not stop it, so the tasks are kept apart from the handles, in
`Tasks`.

An operation runs from one await point to the next. `begin` is its part up to the first, and
`resume` a part after one. The call of `start_tunnel_internal` at the end of an operation is left to
the caller: it is a check and an insertion, which other threads can come between.
-/

namespace ZoTunnel

/-- The reconnect tasks of a client. -/
structure Tasks where
  /-- The number of the next task. -/
  next : ℕ
  /-- The tasks that have been spawned, and neither cancelled nor aborted, with their tunnels. -/
  running : ℕ → Option TunnelEntry

/-- No tasks. -/
def Tasks.new : Tasks := ⟨0, fun _ => none⟩

/-- `tokio::spawn` of a tunnel's reconnect loop. -/
def Tasks.spawn (tasks : Tasks) (entry : TunnelEntry) : Tasks :=
  ⟨tasks.next + 1, Function.update tasks.running tasks.next (some entry)⟩

/-- Cancel and abort a task. -/
def Tasks.abort (tasks : Tasks) (task : ℕ) : Tasks :=
  { tasks with running := Function.update tasks.running task none }

/-- Handle to a running tunnel. -/
structure TunnelHandle where
  entry : TunnelEntry
  /-- The number of the task, for its `JoinHandle` and its `CancellationToken`. -/
  task : ℕ
  deriving DecidableEq, Repr

/-- Manages multiple tunnel connections. -/
structure TunnelManager where
  /-- Running tunnels: tunnel id → handle. -/
  tunnels : AList fun _ : String => TunnelHandle
  /-- Persistent config. -/
  config : TunnelsConfig
  deriving DecidableEq

/-- `TunnelManager::new`. -/
def TunnelManager.new (config : TunnelsConfig) : TunnelManager := ⟨∅, config⟩

namespace TunnelManager

variable (m : TunnelManager) (tasks : Tasks)

/-! ## Starting and stopping -/

/-- The check of `start_tunnel_internal`. -/
def checkStart (entry : TunnelEntry) : Except Error Unit :=
  if (m.tunnels.lookup entry.id).isSome then
    .error ("Tunnel '" ++ entry.clientId ++ "' is already running")
  else .ok ()

/-- The rest of `start_tunnel_internal`: the task is spawned, and its handle is inserted under the
id of the tunnel, in the place of the handle that may be there. -/
def insertStarted (entry : TunnelEntry) : TunnelManager × Tasks :=
  ({ m with tunnels := m.tunnels.insert entry.id ⟨entry, tasks.next⟩ }, tasks.spawn entry)

/-- Start a single tunnel by entry, with nothing in between. -/
def startTunnelInternal (entry : TunnelEntry) : Except Error Unit × TunnelManager × Tasks :=
  match m.checkStart entry with
  | .error e => (.error e, m, tasks)
  | .ok () => (.ok (), m.insertStarted tasks entry)

/-- A tunnel that is running is not started. -/
theorem startTunnelInternal_running {m : TunnelManager} {entry : TunnelEntry}
    (h : m.tunnels.lookup entry.id ≠ none) (tasks : Tasks) :
    (m.startTunnelInternal tasks entry).2 = (m, tasks) := by
  obtain ⟨handle, hlookup⟩ := Option.ne_none_iff_exists'.mp h
  simp [startTunnelInternal, checkStart, hlookup]

/-- A tunnel that is not running is started. -/
theorem startTunnelInternal_stopped {m : TunnelManager} {entry : TunnelEntry}
    (h : m.tunnels.lookup entry.id = none) (tasks : Tasks) :
    (m.startTunnelInternal tasks entry).2 = m.insertStarted tasks entry := by
  simp [startTunnelInternal, checkStart, h]

/-- Stop a running tunnel. -/
def stopTunnel (id : String) : Except Error Unit × TunnelManager × Tasks :=
  match m.tunnels.lookup id with
  | some handle => (.ok (), { m with tunnels := m.tunnels.erase id }, tasks.abort handle.task)
  | none => (.error ("Tunnel '" ++ id ++ "' is not running"), m, tasks)

/-- Stopping a tunnel takes its handle, and no other. -/
theorem lookup_stopTunnel (id id' : String) :
    (m.stopTunnel tasks id).2.1.tunnels.lookup id' =
      if id' = id then none else m.tunnels.lookup id' := by
  unfold stopTunnel
  cases hlookup : m.tunnels.lookup id with
  | none =>
    split_ifs with hid
    · rw [hid, hlookup]
    · rfl
  | some handle =>
    split_ifs with hid
    · rw [hid, AList.lookup_erase]
    · exact AList.lookup_erase_ne hid

/-- It leaves the config. -/
theorem stopTunnel_config (id : String) : (m.stopTunnel tasks id).2.1.config = m.config := by
  unfold stopTunnel
  cases m.tunnels.lookup id <;> rfl

/-- It ends the task of the handle, and no other. -/
theorem stopTunnel_running (id : String) (task : ℕ) :
    (m.stopTunnel tasks id).2.2.running task =
      if (m.tunnels.lookup id).map (·.task) = some task then none else tasks.running task := by
  unfold stopTunnel
  cases m.tunnels.lookup id with
  | none => rfl
  | some handle =>
    rw [Option.map_some]
    split_ifs with htask
    · rw [← Option.some.inj htask]
      exact Function.update_self ..
    · exact Function.update_of_ne (fun heq => htask (congrArg some heq.symm)) ..

/-- Start all enabled tunnels from config. An error is logged. -/
def startAll : TunnelManager × Tasks :=
  (m.config.tunnels.filter (·.enabled)).foldl
    (fun (m, tasks) entry => (m.startTunnelInternal tasks entry).2) (m, tasks)

/-- Stop all running tunnels. -/
def stopAll : TunnelManager × Tasks :=
  m.tunnels.keys.foldl (fun (m, tasks) id => (m.stopTunnel tasks id).2) (m, tasks)

/-! ## Operations -/

/-- A call of an operation. -/
inductive Call where
  | add (entry : TunnelEntry)
  | update (id clientId localAddr : String) (enabled : Bool)
  | remove (id : String)
  | start (id : String)
  | stop (id : String)
  | restart (id : String)
  deriving DecidableEq, Repr

/-- An await point of an operation. -/
inductive Await where
  /-- `add_tunnel` waits for the lock of the config. -/
  | add (entry : TunnelEntry)
  /-- `update_tunnel` waits for the lock. -/
  | update (id clientId localAddr : String) (enabled : Bool)
  /-- `remove_tunnel` waits for the lock. -/
  | remove (id : String)
  /-- `start_tunnel` waits for the lock. -/
  | start (id : String)
  /-- `restart_tunnel` sleeps for 200 ms. -/
  | sleep (id : String)
  deriving DecidableEq, Repr

/-- What an operation returns. -/
abbrev Returned := Except Error (Option TunnelEntry)

/-- How far an operation has come. -/
inductive Progress where
  | awaiting (point : Await)
  /-- It calls `start_tunnel_internal` for this entry, and returns `returned` if that succeeds. -/
  | starting (entry : TunnelEntry) (returned : Option TunnelEntry)
  | returned (result : Returned)
  deriving DecidableEq

/-- The part of an operation before its first await point. -/
def begin : Call → (TunnelManager × Tasks) × Progress
  | .add entry => ((m, tasks), .awaiting (.add entry))
  | .update id clientId localAddr enabled =>
    ((m.stopTunnel tasks id).2, .awaiting (.update id clientId localAddr enabled))
  | .remove id => ((m.stopTunnel tasks id).2, .awaiting (.remove id))
  | .start id => ((m, tasks), .awaiting (.start id))
  | .stop id =>
    match m.stopTunnel tasks id with
    | (result, state) => (state, .returned (result.map fun _ => none))
  | .restart id => ((m.stopTunnel tasks id).2, .awaiting (.sleep id))

/-- What comes after the config is changed: the tunnel is started if it is enabled. -/
def startEnabled (result : Except Error TunnelEntry) : Progress :=
  match result with
  | .error e => .returned (.error e)
  | .ok entry =>
    if entry.enabled then .starting entry (some entry) else .returned (.ok (some entry))

/-- The part of an operation after an await point, up to the next one or up to its call of
`start_tunnel_internal`. `newId` is the id that is generated, and `save` how the save of the config
goes. It changes the config, and no task. -/
def resume (newId : String) (save : Except Error Unit) : Await → TunnelManager × Progress
  | .add entry =>
    match m.config.addTunnel entry newId save with
    | (result, config) => ({ m with config }, startEnabled result)
  | .update id clientId localAddr enabled =>
    match m.config.updateTunnel id clientId localAddr enabled save with
    | (result, config) => ({ m with config }, startEnabled result)
  | .remove id =>
    match m.config.removeTunnel id save with
    | (result, config) => ({ m with config }, .returned (result.map some))
  | .start id =>
    match m.config.getTunnel id with
    | some entry => (m, .starting entry none)
    | none => (m, .returned (.error ("Tunnel '" ++ id ++ "' not found in config")))
  | .sleep id => (m, .awaiting (.start id))

end TunnelManager

end ZoTunnel
