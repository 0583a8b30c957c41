import ZoTunnel.Client.Handles
import ZoTunnel.Client.ManagerEdit
import ZoTunnel.Client.Saving

/-!
# Connecting

`AppState::connect` (`web_server.rs`) from its call to its return, with the file of the saved
credentials. It disconnects first, which stops the tunnels of the manager in `inner` and deletes the
credentials, and then saves the new ones. Only this save can make it fail.
`failed_connect_disconnects` says what is left then: a client that is disconnected, and of the
credentials what the deletion and the save have left.
-/

namespace ZoTunnel

open FileSystem TunnelManager

/-! ## The credentials -/

/-- TLS configuration for the control channel connection. -/
structure ClientTlsConfig where
  enabled : Bool
  serverName : String
  skipVerify : Bool
  deriving DecidableEq, Repr

/-- Credentials saved after a login. -/
structure SavedCredentials where
  server : String
  token : String
  tls : ClientTlsConfig
  deriving DecidableEq, Repr

/-- Save credentials to `credentials.yaml`: `toYaml` is `serde_yaml::to_string`. -/
def SavedCredentials.save (toYaml : SavedCredentials → Except Error String) (steps : SaveSteps)
    (creds : SavedCredentials) (file : Option File) : Except Error Unit × Option File :=
  saveYaml steps (toYaml creds) file

/-- Delete the saved credentials file: `home` is how `credentials_path` goes, and `removed` how
`remove_file` does. -/
def SavedCredentials.delete (home removed : Except Error Unit) (file : Option File) :
    Except Error Bool × Option File :=
  match home, file, removed with
  | .error e, _, _ => (.error e, file)
  | .ok (), none, _ => (.ok false, none)
  | .ok (), some _, .error e => (.error e, file)
  | .ok (), some _, .ok () => (.ok true, none)

/-! ## The call -/

/-- The arguments of `connect`. -/
structure ConnectArgs where
  server : String
  token : String
  tls : Bool
  tlsServerName : Option String
  tlsSkipVerify : Bool
  deriving DecidableEq, Repr

/-- The credentials that `connect` saves. -/
def ConnectArgs.creds (args : ConnectArgs) : SavedCredentials :=
  ⟨args.server, args.token, ⟨args.tls, args.tlsServerName.getD "", args.tlsSkipVerify⟩⟩

/-- What a connect does once it has created a manager: it starts the tunnels, and puts the manager
into `inner`. -/
def AppState.finishConnect (s : AppState) (rid : ℕ) : AppState :=
  match s.requests rid with
  | .startingAll mgr =>
    { s.startAll mgr with inner := some mgr }.setRequest rid (.returned (.ok none))
  | _ => s

/-- A connect with nothing in between: `removed` and `steps` are how the deletion of the old
credentials and the save of the new ones go, and `config` is the loaded config. -/
def AppState.connect (toYaml : SavedCredentials → Except Error String) (removed : Except Error Unit)
    (steps : SaveSteps) (args : ConnectArgs) (config : TunnelsConfig) (s : AppState) (rid : ℕ)
    (file : Option File) : AppState × Option File :=
  -- An error of the deletion is ignored.
  let (_, file) := SavedCredentials.delete steps.home removed file
  let (saved, file) := args.creds.save toYaml steps file
  ((s.begin rid (.connect saved config)).finishConnect rid, file)

/-! ## What a disconnect stops -/

/-- A manager has the handle of a task. -/
def TunnelManager.Handles (m : TunnelManager) (task : ℕ) : Prop :=
  ∃ id handle, m.tunnels.lookup id = some handle ∧ handle.task = task

/-- Stopping a tunnel leaves a task whose handle the manager does not have. -/
theorem stopTunnel_running_of_not_handles {m : TunnelManager} {task : ℕ} (h : ¬ m.Handles task)
    (tasks : Tasks) (id : String) :
    (m.stopTunnel tasks id).2.2.running task = tasks.running task := by
  rw [stopTunnel_running, if_neg]
  intro hmap
  obtain ⟨handle, hlookup, htask⟩ := Option.map_eq_some_iff.mp hmap
  exact h ⟨id, handle, hlookup, htask⟩

/-- Stopping all tunnels stops the tasks whose handles the manager has. -/
theorem stopAll_running {m : TunnelManager} {task : ℕ} (h : m.Handles task) (tasks : Tasks) :
    (m.stopAll tasks).2.running task = none := by
  obtain ⟨id, handle, hlookup, rfl⟩ := h
  have hid : id ∈ m.tunnels.keys := by
    have hsome : (m.tunnels.lookup id).isSome = true := by rw [hlookup]; rfl
    exact AList.lookup_isSome.mp hsome
  unfold stopAll
  generalize m.tunnels.keys = ids at hid
  have hpending : tasks.running handle.task = none ∨
      id ∈ ids ∧ m.tunnels.lookup id = some handle := .inr ⟨hid, hlookup⟩
  clear hid hlookup
  -- The task is stopped already, or its tunnel is still to be stopped.
  induction ids generalizing m tasks with
  | nil => exact hpending.resolve_right fun hin => by cases hin.1
  | cons id' ids ih =>
    apply ih
    rw [stopTunnel_running, lookup_stopTunnel]
    rcases hpending with hnone | ⟨hin, hlookup⟩
    · exact .inl (by rw [hnone, ite_self])
    · rcases eq_or_ne id id' with rfl | hne
      · exact .inl (by rw [hlookup, Option.map_some, if_pos rfl])
      · exact .inr ⟨(List.mem_cons.mp hin).resolve_left hne, by rw [if_neg hne, hlookup]⟩

/-- Stopping all tunnels of a manager leaves the tasks of the others. -/
theorem stopAll_running_of_not_handles {m : TunnelManager} {task : ℕ} (h : ¬ m.Handles task)
    (tasks : Tasks) : (m.stopAll tasks).2.running task = tasks.running task := by
  unfold stopAll
  generalize m.tunnels.keys = ids
  induction ids generalizing m tasks with
  | nil => rfl
  | cons id ids ih =>
    have hleft : ¬ (m.stopTunnel tasks id).2.1.Handles task := by
      rintro ⟨id', handle, hlookup, htask⟩
      rw [lookup_stopTunnel] at hlookup
      split_ifs at hlookup
      exact h ⟨id', handle, hlookup, htask⟩
    exact (ih hleft _).trans (stopTunnel_running_of_not_handles h tasks id)

/-- Stopping all tunnels leaves the config. -/
theorem stopAll_config (m : TunnelManager) (tasks : Tasks) :
    (m.stopAll tasks).1.config = m.config := by
  unfold stopAll
  generalize m.tunnels.keys = ids
  induction ids generalizing m tasks with
  | nil => rfl
  | cons id ids ih => exact (ih _ _).trans (stopTunnel_config m tasks id)

/-! ## A connect that fails -/

/-- When the connect fails, `inner`, the running tunnels and the credentials are as before. -/
def ConnectKeeps (s : AppState) (file : Option File) (rid : ℕ) (after : AppState × Option File) :
    Prop :=
  ∀ e, after.1.requests rid = .returned (.error e) →
    after.1.inner = s.inner ∧ (∀ mgr, (after.1.managers mgr).tunnels = (s.managers mgr).tunnels) ∧
      (∀ task, after.1.tasks.running task = s.tasks.running task) ∧ after.2 = file

/-- The client after it was disconnected from `s`: the tunnels of the manager in `inner` are
stopped, and nothing else has changed. -/
structure DisconnectedFrom (s after : AppState) : Prop where
  inner : after.inner = none
  idle : ∀ mgr, s.inner = some mgr → (after.managers mgr).Idle
  stopped : ∀ mgr task, s.inner = some mgr → (s.managers mgr).Handles task →
    after.tasks.running task = none
  others : ∀ mgr, s.inner ≠ some mgr → after.managers mgr = s.managers mgr
  running : ∀ task, (∀ mgr, s.inner = some mgr → ¬ (s.managers mgr).Handles task) →
    after.tasks.running task = s.tasks.running task
  config : ∀ mgr, (after.managers mgr).config = (s.managers mgr).config

/-- A disconnect does this. -/
theorem DisconnectedFrom.disconnect (s : AppState) : DisconnectedFrom s s.disconnect := by
  unfold AppState.disconnect
  cases hinner : s.inner with
  | none =>
    refine ⟨hinner, ?_, ?_, fun _ _ => rfl, fun _ _ => rfl, fun _ => rfl⟩
    · intro mgr hmgr
      cases hmgr.symm.trans hinner
    · intro mgr task hmgr
      cases hmgr.symm.trans hinner
  | some inner =>
    have hself : ∀ mgr, s.inner = some mgr → mgr = inner := fun mgr hmgr =>
      Option.some.inj (hmgr.symm.trans hinner)
    have hother : ∀ mgr, mgr ≠ inner →
        (s.setManager inner ((s.managers inner).stopAll s.tasks)).managers mgr = s.managers mgr :=
      fun mgr hne => Function.update_of_ne hne ..
    refine ⟨rfl, ?_, ?_, ?_, ?_, ?_⟩
    · intro mgr hmgr
      rw [hself mgr hmgr, AppState.setManager_managers_self]
      exact stopAll_idle _ _
    · intro mgr task hmgr hhandles
      rw [hself mgr hmgr] at hhandles
      exact stopAll_running hhandles _
    · exact fun mgr hmgr => hother mgr fun heq => hmgr (heq ▸ hinner)
    · exact fun task hnot => stopAll_running_of_not_handles (hnot inner hinner) _
    · intro mgr
      rcases eq_or_ne mgr inner with rfl | hne
      · rw [AppState.setManager_managers_self]
        exact stopAll_config _ _
      · exact congrArg TunnelManager.config (hother mgr hne)

/-- What the deletion of the old credentials and a save of this text leave of the file: if the save
came to its write, a part of the text, and else what the deletion left. -/
structure CredentialsLeft (steps : SaveSteps) (yaml : Except Error String)
    (deleted after : Option File) : Prop where
  unopened : ∀ e, steps.prepare yaml = .error e → after = deleted
  written : ∀ text, steps.prepare yaml = .ok text →
    ∃ file, after = some file ∧ file.bytes <+: Bytes.asBytes text

/-- A save leaves the file so. -/
theorem CredentialsLeft.saveYaml (steps : SaveSteps) (yaml : Except Error String)
    (deleted : Option File) :
    CredentialsLeft steps yaml deleted (saveYaml steps yaml deleted).2 := by
  unfold ZoTunnel.saveYaml
  refine ⟨fun e he => by rw [he], fun text htext => ?_⟩
  rw [htext]
  have hbytes : (writeText steps.failedWrite (Bytes.asBytes text) (create deleted)).2.bytes <+:
      Bytes.asBytes text := by
    unfold writeText
    rcases steps.failedWrite with _ | ⟨n, e⟩
    · exact List.prefix_refl _
    · dsimp only
      split_ifs
      · exact List.take_prefix n _
      · exact List.prefix_refl _
  dsimp only
  generalize writeText steps.failedWrite (Bytes.asBytes text) (create deleted) = written at hbytes ⊢
  obtain ⟨e | _, written⟩ := written
  · exact ⟨written, rfl, hbytes⟩
  · cases steps.filePermissions with
    | error e => exact ⟨written, rfl, hbytes⟩
    | ok _ => exact ⟨{ written with readable := true }, rfl, hbytes⟩

/-- A connect fails exactly with an error of its save, after the disconnect. -/
theorem connect_of_error {toYaml : SavedCredentials → Except Error String}
    {removed : Except Error Unit} {steps : SaveSteps} {args : ConnectArgs} {config : TunnelsConfig}
    {s : AppState} {rid : ℕ} {file : Option File} {e : Error}
    (h : (s.connect toYaml removed steps args config rid file).1.requests rid =
      .returned (.error e)) :
    (args.creds.save toYaml steps (SavedCredentials.delete steps.home removed file).2).1 =
        .error e ∧
      (s.connect toYaml removed steps args config rid file).1 =
        s.disconnect.setRequest rid (.returned (.error e)) := by
  unfold AppState.connect at h ⊢
  dsimp only at h ⊢
  generalize args.creds.save toYaml steps (SavedCredentials.delete steps.home removed file).2 =
    saved at h ⊢
  obtain ⟨e' | _, written⟩ := saved
  · have hbegin : (s.disconnect.setRequest rid (.returned (.error e'))).finishConnect rid =
        s.disconnect.setRequest rid (.returned (.error e')) := by
      unfold AppState.finishConnect
      rw [AppState.setRequest_requests, if_pos rfl]
    simp only [AppState.begin, hbegin, AppState.setRequest_requests, if_true,
      RequestState.returned.injEq, Except.error.injEq] at h
    subst h
    exact ⟨rfl, hbegin⟩
  · simp only [AppState.begin, AppState.finishConnect, AppState.setRequest_requests, if_true,
      RequestState.returned.injEq, reduceCtorEq] at h

/-- A connect that fails has failed to save the credentials. It leaves the client disconnected, and
of the credentials what the deletion of the old ones and the save have left. -/
theorem failed_connect_disconnects (toYaml : SavedCredentials → Except Error String)
    (removed : Except Error Unit) (steps : SaveSteps) (args : ConnectArgs) (config : TunnelsConfig)
    (s : AppState) (rid : ℕ) (file : Option File) (e : Error)
    (h : (s.connect toYaml removed steps args config rid file).1.requests rid =
      .returned (.error e)) :
    (args.creds.save toYaml steps (SavedCredentials.delete steps.home removed file).2).1 =
        .error e ∧
      DisconnectedFrom s (s.connect toYaml removed steps args config rid file).1 ∧
      CredentialsLeft steps (toYaml args.creds) (SavedCredentials.delete steps.home removed file).2
        (s.connect toYaml removed steps args config rid file).2 := by
  obtain ⟨hsave, hafter⟩ := connect_of_error h
  obtain ⟨hinner, hidle, hstopped, hothers, hrunning, hconfig⟩ := DisconnectedFrom.disconnect s
  refine ⟨hsave, ?_, CredentialsLeft.saveYaml steps (toYaml args.creds) _⟩
  rw [hafter]
  exact ⟨hinner, hidle, hstopped, hothers, hrunning, hconfig⟩

/-- A client with one tunnel that runs. -/
def webClient : AppState := .new (some ⟨[webEntry]⟩)

/-- The arguments of a connect, and the YAML text of its credentials. -/
def exampleArgs : ConnectArgs := ⟨"tunnel.example.com:4443", "t0k", true, none, false⟩

/-- The file of the credentials that it was started with. -/
def savedCredentials : File := ⟨true, Bytes.asBytes "server: localhost:4443\ntoken: t0k\n"⟩

@[inherit_doc exampleArgs]
def exampleYaml : SavedCredentials → Except Error String := fun creds =>
  .ok ("server: " ++ creds.server ++ "\ntoken: " ++ creds.token ++
    "\ntls:\n  enabled: true\n  server_name: ''\n  skip_verify: false\n")

/-- The connected client connects again, and the new credentials cannot be saved. -/
theorem failed_connect_disconnects_web :
    (webClient.connect exampleYaml (.ok ()) .readOnly exampleArgs ⟨[webEntry]⟩ 0
        (some savedCredentials)).1.requests 0 = .returned (.error "Read-only file system") ∧
      DisconnectedFrom webClient
        (webClient.connect exampleYaml (.ok ()) .readOnly exampleArgs ⟨[webEntry]⟩ 0
          (some savedCredentials)).1 :=
  ⟨by rfl, (failed_connect_disconnects exampleYaml (.ok ()) .readOnly exampleArgs ⟨[webEntry]⟩
    webClient 0 (some savedCredentials) "Read-only file system" (by rfl)).2.1⟩

/-- It is not as it was before. -/
theorem failed_connect_changes :
    ¬ ConnectKeeps webClient (some savedCredentials) 0
      (webClient.connect exampleYaml (.ok ()) .readOnly exampleArgs ⟨[webEntry]⟩ 0
        (some savedCredentials)) := by
  intro hkeeps
  have hinner := (hkeeps "Read-only file system" (by rfl)).1
  cases hinner

end ZoTunnel
