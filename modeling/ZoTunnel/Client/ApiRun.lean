import ZoTunnel.Client.Api
import ZoTunnel.Client.ConfigInvariant
import ZoTunnel.Client.Handles

/-!
# The configs behind the web API

The operations of the tunnel manager trust their arguments: `add_tunnel` takes an entry that brings
the id of another (`duplicate_id_added`). The handlers of the web API do not pass such an entry.
`config_from_api` says what follows for every interleaving of requests: a config that is valid when
it is loaded stays so, and every name and address in a config, of a handle or of a task comes from
the loaded config or has passed the checks.

The invariant is that of the managers, the tasks and the requests together (`AppState.Checked`),
since a request carries its values over its await points.
-/

namespace ZoTunnel

open TunnelManager

/-! ## Where names come from -/

section

variable {N : String → String → Prop} {V : Prop}

/-- The names and addresses that a manager has satisfy `N`, and its config is valid if `V` holds. -/
structure TunnelManager.Checked (N : String → String → Prop) (V : Prop) (m : TunnelManager) :
    Prop where
  config : ∀ entry ∈ m.config.tunnels, N entry.clientId entry.localAddr
  handles : ∀ id handle, m.tunnels.lookup id = some handle →
    N handle.entry.clientId handle.entry.localAddr
  valid : V → m.config.Valid

/-- An operation that waits brings no id of its own, and a name and an address that satisfy `N`. -/
def TunnelManager.Await.Checked (N : String → String → Prop) : Await → Prop
  | .add entry => entry.id = "" ∧ N entry.clientId entry.localAddr
  | .update _ clientId localAddr _ => N clientId localAddr
  | .remove _ | .start _ | .sleep _ => True

/-- A call brings no id of its own, and a name and an address that satisfy `N`. -/
def TunnelManager.Call.Checked (N : String → String → Prop) : Call → Prop
  | .add entry => entry.id = "" ∧ N entry.clientId entry.localAddr
  | .update _ clientId localAddr _ => N clientId localAddr
  | .remove _ | .start _ | .stop _ | .restart _ => True

/-- A weaker property of the names holds of a call. -/
theorem TunnelManager.Call.Checked.mono {N N' : String → String → Prop} {call : Call}
    (h : call.Checked N) (hN : ∀ clientId localAddr, N clientId localAddr → N' clientId localAddr) :
    call.Checked N' := by
  cases call with
  | add entry => exact ⟨h.1, hN _ _ h.2⟩
  | update id clientId localAddr enabled => exact hN _ _ h
  | remove id | start id | stop id | restart id => trivial

/-- What a progress is going to do satisfies `N`. -/
def TunnelManager.Progress.Checked (N : String → String → Prop) : Progress → Prop
  | .awaiting point => point.Checked N
  | .starting entry _ => N entry.clientId entry.localAddr
  | .returned _ => True

variable {m : TunnelManager}

/-- To stop a tunnel leaves fewer handles. -/
theorem TunnelManager.Checked.stopTunnel (h : m.Checked N V) (tasks : Tasks) (id : String) :
    (m.stopTunnel tasks id).2.1.Checked N V := by
  have hconfig := stopTunnel_config m tasks id
  refine ⟨hconfig ▸ h.config, fun id' handle hlookup => ?_, hconfig ▸ h.valid⟩
  rw [lookup_stopTunnel] at hlookup
  split_ifs at hlookup
  exact h.handles id' handle hlookup

/-- To start a tunnel adds a handle for its entry. -/
theorem TunnelManager.Checked.insertStarted (h : m.Checked N V) (tasks : Tasks)
    {entry : TunnelEntry} (hentry : N entry.clientId entry.localAddr) :
    (m.insertStarted tasks entry).1.Checked N V := by
  refine ⟨h.config, fun id handle hlookup => ?_, h.valid⟩
  unfold TunnelManager.insertStarted at hlookup
  dsimp only at hlookup
  rcases eq_or_ne id entry.id with rfl | hne
  · rw [AList.lookup_insert] at hlookup
    rw [← Option.some.inj hlookup]
    exact hentry
  · rw [AList.lookup_insert_ne hne] at hlookup
    exact h.handles id handle hlookup

/-- A result of a change of the config is started only from a checked entry. -/
theorem TunnelManager.checked_startEnabled {result : Except Error TunnelEntry}
    (h : ∀ entry, result = .ok entry → N entry.clientId entry.localAddr) :
    (startEnabled result).Checked N := by
  unfold startEnabled
  cases result with
  | error e => trivial
  | ok entry =>
    dsimp only
    split_ifs
    · exact h entry rfl
    · trivial

/-- An operation goes on with checked names when it has waited with such. An entry gets a new id. -/
theorem TunnelManager.Checked.resume (h : m.Checked N V) {point : Await} (hpoint : point.Checked N)
    (newId : String) (save : Except Error Unit)
    (hnew : ∀ entry, point = .add entry → m.config.tunnels.any (·.id = newId) = false) :
    (m.resume newId save point).1.Checked N V ∧ (m.resume newId save point).2.Checked N := by
  cases point with
  | add entry =>
    obtain ⟨hempty, hentry⟩ := hpoint
    have hentry' : N (entry.withId newId).clientId (entry.withId newId).localAddr := by
      unfold TunnelEntry.withId
      rw [if_pos hempty]
      exact hentry
    have hvalid : V → (m.config.addTunnel entry newId save).2.Valid := by
      intro hV
      refine (h.valid hV).addTunnel save (fun htaken => ?_) fun _ => .inl hempty
      rw [hnew entry rfl] at htaken
      cases htaken.2
    have hmem : ∀ t ∈ (m.config.addTunnel entry newId save).2.tunnels,
        N t.clientId t.localAddr := by
      intro t ht
      by_cases hcheck : m.config.checkAdd entry = .ok ()
      · rw [TunnelsConfig.addTunnel_eq_append hcheck] at ht
        rcases List.mem_append.mp ht with ht | ht
        · exact h.config t ht
        · rw [List.mem_singleton.mp ht]
          exact hentry'
      · rw [TunnelsConfig.addTunnel_eq_self hcheck] at ht
        exact h.config t ht
    refine ⟨⟨hmem, h.handles, hvalid⟩, checked_startEnabled fun added hadded => ?_⟩
    split at hadded
    · cases hadded
    · cases save with
      | error e => cases hadded
      | ok =>
        rw [← Except.ok.inj hadded]
        exact hentry'
  | update id clientId localAddr enabled =>
    have hupdated : ∀ t ∈ (m.config.updateTunnel id clientId localAddr enabled save).2.tunnels,
        N t.clientId t.localAddr := by
      intro t ht
      unfold TunnelsConfig.updateTunnel at ht
      split at ht
      · exact h.config t ht
      · rcases TunnelsConfig.mem_setFirst ht with rfl | ht
        · exact hpoint
        · exact h.config t ht
    refine ⟨⟨hupdated, h.handles, fun hV => (h.valid hV).updateTunnel ..⟩,
      checked_startEnabled fun updated hresult => ?_⟩
    split at hresult
    · cases hresult
    · cases save with
      | error e => cases hresult
      | ok =>
        rw [← Except.ok.inj hresult]
        exact hpoint
  | remove id =>
    refine ⟨⟨fun t ht => ?_, h.handles, fun hV => (h.valid hV).removeTunnel ..⟩, trivial⟩
    change t ∈ (m.config.removeTunnel id save).2.tunnels at ht
    unfold TunnelsConfig.removeTunnel at ht
    split at ht
    · exact h.config t ht
    · exact h.config t (List.mem_of_mem_eraseP ht)
  | start id =>
    unfold TunnelManager.resume
    dsimp only
    cases hget : m.config.getTunnel id with
    | none => exact ⟨h, trivial⟩
    | some entry => exact ⟨h, h.config entry (List.mem_of_find?_eq_some hget)⟩
  | sleep id => exact ⟨h, trivial⟩

end

/-! ## The invariant of the client -/

/-- What a request holds between its turns satisfies `N` for its manager. -/
def RequestState.Checked (N : ℕ → String → String → Prop) : RequestState → Prop
  | .awaiting mgr point => point.Checked (N mgr)
  | .inserting mgr entry _ => N mgr entry.clientId entry.localAddr
  | .idle | .startingAll _ | .installing _ | .returned _ | .dropped => True

namespace AppState

/-- The managers, the tasks and the requests have names and addresses that satisfy `N`, and the
config of a manager is valid if `V` holds of it. -/
structure Checked (N : ℕ → String → String → Prop) (V : ℕ → Prop) (s : AppState) : Prop where
  managers : ∀ mgr, (s.managers mgr).Checked (N mgr) (V mgr)
  running : ∀ task entry, s.tasks.running task = some entry →
    ∃ mgr, N mgr entry.clientId entry.localAddr
  requests : ∀ rid, (s.requests rid).Checked N

variable {N : ℕ → String → String → Prop} {V : ℕ → Prop} {s s' : AppState}

/-- A change of a manager and of the tasks. -/
theorem Checked.setManager (h : s.Checked N V) {mgr : ℕ} {state : TunnelManager × Tasks}
    (hm : state.1.Checked (N mgr) (V mgr))
    (hrunning : ∀ task entry, state.2.running task = some entry →
      s.tasks.running task = some entry ∨ N mgr entry.clientId entry.localAddr) :
    (s.setManager mgr state).Checked N V := by
  refine ⟨fun mgr' => ?_, fun task entry hrun => ?_, h.requests⟩
  · rcases eq_or_ne mgr' mgr with rfl | hne
    · rw [setManager_managers_self]
      exact hm
    · have hother : (s.setManager mgr state).managers mgr' = s.managers mgr' :=
        Function.update_of_ne hne ..
      rw [hother]
      exact h.managers mgr'
  · rcases hrunning task entry hrun with hold | hentry
    · exact h.running task entry hold
    · exact ⟨mgr, hentry⟩

/-- A change of a request. -/
theorem Checked.setRequest (h : s.Checked N V) (rid : ℕ) {request : RequestState}
    (hrequest : request.Checked N) : (s.setRequest rid request).Checked N V := by
  refine ⟨h.managers, h.running, fun rid' => ?_⟩
  unfold AppState.setRequest
  dsimp only
  rw [Function.update_apply]
  split_ifs
  · exact hrequest
  · exact h.requests rid'

/-- To stop a tunnel. -/
theorem Checked.stopTunnel (h : s.Checked N V) (mgr : ℕ) (id : String) :
    (s.setManager mgr ((s.managers mgr).stopTunnel s.tasks id).2).Checked N V := by
  refine h.setManager ((h.managers mgr).stopTunnel s.tasks id) fun task entry hrun => ?_
  rw [stopTunnel_running] at hrun
  split_ifs at hrun
  exact .inl hrun

/-- To start a tunnel. -/
theorem Checked.insertStarted (h : s.Checked N V) {mgr : ℕ} {entry : TunnelEntry}
    (hentry : N mgr entry.clientId entry.localAddr) :
    (s.setManager mgr ((s.managers mgr).insertStarted s.tasks entry)).Checked N V := by
  refine h.setManager ((h.managers mgr).insertStarted s.tasks hentry) fun task entry' hrun => ?_
  change Function.update s.tasks.running s.tasks.next (some entry) task = some entry' at hrun
  rw [Function.update_apply] at hrun
  split_ifs at hrun
  · rw [← Option.some.inj hrun]
    exact .inr hentry
  · exact .inl hrun

/-- What is done for each item of a list. -/
theorem Checked.foldl {α : Type} {f : TunnelManager × Tasks → α → TunnelManager × Tasks} {mgr : ℕ}
    {as : List α} (hf : ∀ s : AppState, s.Checked N V → ∀ a ∈ as,
      (s.setManager mgr (f (s.managers mgr, s.tasks) a)).Checked N V)
    (h : s.Checked N V) :
    (s.setManager mgr (as.foldl f (s.managers mgr, s.tasks))).Checked N V := by
  induction as generalizing s with
  | nil =>
    rw [List.foldl_nil, setManager_self]
    exact h
  | cons a as ih =>
    have hrest := ih (fun s hs a' ha' => hf s hs a' (List.mem_cons_of_mem _ ha'))
      (hf s h a List.mem_cons_self)
    rw [setManager_managers_self, setManager_tasks, setManager_setManager] at hrest
    exact hrest

/-- To start all enabled tunnels. -/
theorem Checked.startAll (h : s.Checked N V) (mgr : ℕ) : (s.startAll mgr).Checked N V := by
  have hentries := (h.managers mgr).config
  refine Checked.foldl (fun t ht entry hentry => ?_) h
  have hmem := List.mem_of_mem_filter hentry
  change (t.setManager mgr ((t.managers mgr).startTunnelInternal t.tasks entry).2).Checked N V
  by_cases hlookup : (t.managers mgr).tunnels.lookup entry.id = none
  · rw [startTunnelInternal_stopped hlookup]
    exact ht.insertStarted (hentries entry hmem)
  · rw [startTunnelInternal_running hlookup, setManager_self]
    exact ht

/-- To disconnect. -/
theorem Checked.disconnect (h : s.Checked N V) : s.disconnect.Checked N V := by
  unfold AppState.disconnect
  cases s.inner with
  | none => exact h
  | some mgr =>
    have hstopped : (s.setManager mgr ((s.managers mgr).stopAll s.tasks)).Checked N V :=
      Checked.foldl (fun t ht id _ => ht.stopTunnel mgr id) h
    exact ⟨hstopped.managers, hstopped.running, hstopped.requests⟩

/-- A new manager, whose config is loaded. -/
theorem Checked.newManager (h : s.Checked N V) {config : TunnelsConfig}
    (hconfig : ∀ entry ∈ config.tunnels, N s.nextManager entry.clientId entry.localAddr)
    (hvalid : V s.nextManager → config.Valid) : (s.newManager config).Checked N V := by
  refine ⟨fun mgr => ?_, h.running, h.requests⟩
  unfold AppState.newManager
  dsimp only
  rw [Function.update_apply]
  split_ifs with hmgr
  · rw [hmgr]
    exact ⟨hconfig, nofun, hvalid⟩
  · exact h.managers mgr

/-- Disconnecting creates no manager. -/
theorem disconnect_nextManager (s : AppState) : s.disconnect.nextManager = s.nextManager := by
  unfold AppState.disconnect
  cases s.inner <;> rfl

/-- The turn of a request ends with what it holds. -/
theorem checked_after {mgr : ℕ} (m : TunnelManager) {progress : Progress}
    (h : progress.Checked (N mgr)) : (RequestState.after mgr m progress).Checked N := by
  unfold RequestState.after
  cases progress with
  | awaiting point => exact h
  | returned result => trivial
  | starting entry result =>
    dsimp only
    cases m.checkStart entry with
    | error e => trivial
    | ok => exact h

/-- The first turn of an operation on the tunnels. -/
theorem Checked.beginCall (h : s.Checked N V) (mgr : ℕ) {call : Call}
    (hcall : call.Checked (N mgr)) :
    (s.setManager mgr ((s.managers mgr).begin s.tasks call).1).Checked N V ∧
      ((s.managers mgr).begin s.tasks call).2.Checked (N mgr) := by
  cases call with
  | add entry =>
    refine ⟨?_, hcall⟩
    unfold TunnelManager.begin
    rw [setManager_self]
    exact h
  | update id => exact ⟨h.stopTunnel mgr id, hcall⟩
  | remove id | restart id => exact ⟨h.stopTunnel mgr id, trivial⟩
  | start id =>
    refine ⟨?_, trivial⟩
    unfold TunnelManager.begin
    rw [setManager_self]
    exact h
  | stop id => exact ⟨h.stopTunnel mgr id, trivial⟩

/-- Every later turn of a request keeps the invariant, when an id that is generated is new. -/
theorem Checked.resume (h : s.Checked N V) {rid : ℕ} {newId : String} {save : Except Error Unit}
    (hnew : s.idTaken rid newId = false) (hstep : appStep s (.resume rid newId save) = some s') :
    s'.Checked N V := by
  have hrequest := h.requests rid
  unfold appStep at hstep
  dsimp only at hstep
  cases hrid : s.requests rid with
  | startingAll mgr =>
    rw [hrid] at hstep
    obtain rfl := Option.some.inj hstep
    exact (h.startAll mgr).setRequest rid trivial
  | installing mgr =>
    rw [hrid] at hstep
    obtain rfl := Option.some.inj hstep
    have hinstalled : ({ s with inner := some mgr } : AppState).Checked N V :=
      ⟨h.managers, h.running, h.requests⟩
    exact hinstalled.setRequest rid trivial
  | awaiting mgr point =>
    rw [hrid] at hstep hrequest
    obtain rfl := Option.some.inj hstep
    have hids : ∀ entry, point = .add entry →
        (s.managers mgr).config.tunnels.any (·.id = newId) = false := by
      rintro entry rfl
      unfold AppState.idTaken at hnew
      rw [hrid] at hnew
      exact hnew
    obtain ⟨hm, hprogress⟩ := (h.managers mgr).resume hrequest newId save hids
    exact (h.setManager hm fun _ _ hrun => .inl hrun).setRequest rid (checked_after _ hprogress)
  | inserting mgr entry result =>
    rw [hrid] at hstep hrequest
    obtain rfl := Option.some.inj hstep
    exact (h.insertStarted hrequest).setRequest rid trivial
  | _ =>
    rw [hrid] at hstep
    cases hstep

/-- A request that is dropped changes nothing else. -/
theorem Checked.drop (h : s.Checked N V) {rid : ℕ} (hstep : appStep s (.drop rid) = some s') :
    s'.Checked N V := by
  unfold appStep at hstep
  dsimp only at hstep
  split at hstep
  all_goals first
    | obtain rfl := Option.some.inj hstep
      exact h.setRequest rid trivial
    | cases hstep

/-- A weaker property of the names, and a stronger one of the managers whose config is valid. -/
theorem Checked.mono (h : s.Checked N V) {N' : ℕ → String → String → Prop} {V' : ℕ → Prop}
    (hN : ∀ mgr clientId localAddr, N mgr clientId localAddr → N' mgr clientId localAddr)
    (hV : ∀ mgr, V' mgr → V mgr) : s.Checked N' V' := by
  refine ⟨fun mgr => ?_, fun task entry hrun => ?_, fun rid => ?_⟩
  · obtain ⟨hconfig, hhandles, hvalid⟩ := h.managers mgr
    exact ⟨fun entry hentry => hN _ _ _ (hconfig entry hentry),
      fun id handle hlookup => hN _ _ _ (hhandles id handle hlookup),
      fun hvalid' => hvalid (hV mgr hvalid')⟩
  · obtain ⟨mgr, hentry⟩ := h.running task entry hrun
    exact ⟨mgr, hN _ _ _ hentry⟩
  · have hrequest := h.requests rid
    cases hrid : s.requests rid with
    | awaiting mgr point =>
      rw [hrid] at hrequest
      cases point with
      | add entry => exact ⟨hrequest.1, hN _ _ _ hrequest.2⟩
      | update id clientId localAddr enabled => exact hN _ _ _ hrequest
      | remove id | start id | sleep id => trivial
    | inserting mgr entry result =>
      rw [hrid] at hrequest
      exact hN _ _ _ hrequest
    | _ => trivial

end AppState

/-! ## Whole runs -/

variable (isAlphanumeric : Char → Bool)

/-- An empty config is valid. -/
theorem TunnelsConfig.valid_nil : TunnelsConfig.Valid ⟨[]⟩ :=
  ⟨List.nodup_nil, List.nodup_nil, nofun⟩

namespace Api

/-- The names and addresses that a manager may have: the vetted ones, and those of its config when
this was loaded. -/
def Knows (api : Api) (mgr : ℕ) (clientId localAddr : String) : Prop :=
  Vetted isAlphanumeric clientId localAddr ∨
    ∃ entry ∈ (api.loaded mgr).tunnels, entry.clientId = clientId ∧ entry.localAddr = localAddr

/-- What holds of the client. -/
structure Sound (api : Api) : Prop where
  checked : api.app.Checked (api.Knows isAlphanumeric) fun mgr => (api.loaded mgr).Valid
  fresh : ∀ mgr, api.app.nextManager ≤ mgr → api.loaded mgr = ⟨[]⟩

/-- What the requests have made of the configs that were loaded. -/
structure FromApi (api : Api) : Prop where
  /-- A config that was valid when it was loaded stays so. -/
  valid : ∀ mgr, (api.loaded mgr).Valid →
    (api.app.managers mgr).config.Valid ∧ (api.app.managers mgr).config.Unambiguous
  config : ∀ mgr, ∀ entry ∈ (api.app.managers mgr).config.tunnels,
    api.Knows isAlphanumeric mgr entry.clientId entry.localAddr
  /-- So are the tunnels that have been started. -/
  handles : ∀ mgr id handle, (api.app.managers mgr).tunnels.lookup id = some handle →
    api.Knows isAlphanumeric mgr handle.entry.clientId handle.entry.localAddr
  running : ∀ task entry, api.app.tasks.running task = some entry →
    ∃ mgr, api.Knows isAlphanumeric mgr entry.clientId entry.localAddr

variable {isAlphanumeric}

/-- The invariant has what is said of the requests. -/
theorem Sound.fromApi {api : Api} (h : api.Sound isAlphanumeric) : api.FromApi isAlphanumeric := by
  refine ⟨fun mgr hloaded => ?_, fun mgr => (h.checked.managers mgr).config,
    fun mgr => (h.checked.managers mgr).handles, h.checked.running⟩
  have hvalid := (h.checked.managers mgr).valid hloaded
  exact ⟨hvalid, hvalid.unambiguous⟩

/-- The client starts so. -/
theorem sound_new (saved : Option TunnelsConfig) : (Api.new saved).Sound isAlphanumeric := by
  have hstart : ∀ N V, AppState.disconnected.Checked N V := by
    intro N V
    exact ⟨fun mgr => ⟨nofun, nofun, fun _ => TunnelsConfig.valid_nil⟩, nofun, fun _ => trivial⟩
  cases saved with
  | none =>
    refine ⟨hstart _ _, fun mgr _ => ?_⟩
    unfold Api.new
    dsimp only
    split_ifs <;> rfl
  | some config =>
    have hloaded : (Api.new (some config)).loaded 0 = config := rfl
    have hknows : ∀ entry ∈ config.tunnels,
        (Api.new (some config)).Knows isAlphanumeric 0 entry.clientId entry.localAddr :=
      fun entry hentry => .inr ⟨entry, by rwa [hloaded], rfl, rfl⟩
    have hnew := (hstart ((Api.new (some config)).Knows isAlphanumeric)
      fun mgr => ((Api.new (some config)).loaded mgr).Valid).newManager hknows id
    have hstarted := hnew.startAll 0
    refine ⟨⟨hstarted.managers, hstarted.running, hstarted.requests⟩, fun mgr hmgr => ?_⟩
    have hpos : mgr ≠ 0 := by
      have : 1 ≤ mgr := hmgr
      omega
    exact if_neg hpos

/-- No step takes a manager's number back. -/
theorem nextManager_le {s s' : AppState} {l : AppStep} (hstep : appStep s l = some s') :
    s.nextManager ≤ s'.nextManager := by
  unfold appStep at hstep
  cases l with
  | request rid request =>
    dsimp only at hstep
    split at hstep
    · obtain rfl := Option.some.inj hstep
      have hdisconnect := s.disconnect_nextManager
      unfold AppState.begin
      cases request with
      | connect save config =>
        cases save with
        | error e => exact hdisconnect.ge
        | ok =>
          change s.nextManager ≤ s.disconnect.nextManager + 1
          omega
      | disconnect => exact hdisconnect.ge
      | tunnel call => cases s.inner <;> exact le_rfl
    · cases hstep
  | resume rid newId save =>
    dsimp only at hstep
    split at hstep
    all_goals first
      | obtain rfl := Option.some.inj hstep
        exact le_rfl
      | cases hstep
  | drop rid =>
    dsimp only at hstep
    split at hstep
    all_goals first
      | obtain rfl := Option.some.inj hstep
        exact le_rfl
      | cases hstep

variable {api api' : Api}

/-- A call that has passed the checks brings vetted values. -/
theorem checked_of_check {httpCall : HttpCall} {args : Option ConnectArgs} {call : Call}
    (h : httpCall.check isAlphanumeric = .ok ⟨.tunnel call, args⟩) :
    call.Checked (Vetted isAlphanumeric) := by
  unfold HttpCall.check at h
  have hfields : ∀ {fields : TunnelFields} {f : String × String → CheckedCall},
      (checkFields isAlphanumeric fields).map f = .ok ⟨.tunnel call, args⟩ →
        ∃ clientId localAddr, Vetted isAlphanumeric clientId localAddr ∧
          f (clientId, localAddr) = ⟨.tunnel call, args⟩ := by
    intro fields f hf
    cases hcheck : checkFields isAlphanumeric fields with
    | error e =>
      rw [hcheck] at hf
      cases hf
    | ok values =>
      rw [hcheck] at hf
      exact ⟨values.1, values.2, (vetted_iff isAlphanumeric).mpr ⟨fields, hcheck⟩,
        Except.ok.inj hf⟩
  cases httpCall with
  | connect payload save config =>
    dsimp only at h
    cases hcheck : payload.check with
    | error e =>
      rw [hcheck] at h
      cases h
    | ok connectArgs =>
      rw [hcheck] at h
      cases h
  | disconnect => cases h
  | add fields =>
    obtain ⟨clientId, localAddr, hvetted, hcall⟩ := hfields h
    cases hcall
    exact ⟨rfl, hvetted⟩
  | update id fields =>
    obtain ⟨clientId, localAddr, hvetted, hcall⟩ := hfields h
    cases hcall
    exact hvetted
  | delete id | start id | stop id | restart id =>
    cases h
    trivial

/-- A manager that is created knows the names of its config, and the others what they knew. -/
theorem Sound.load (h : api.Sound isAlphanumeric) (rid : ℕ) (config : TunnelsConfig) :
    Sound isAlphanumeric
      { app := (api.app.disconnect.newManager config).setRequest rid
          (.startingAll api.app.disconnect.nextManager)
        loaded := Function.update api.loaded api.app.nextManager config } := by
  obtain ⟨hchecked, hfresh⟩ := h
  have hnext := api.app.disconnect_nextManager
  have hempty : api.loaded api.app.nextManager = ⟨[]⟩ := hfresh _ le_rfl
  -- There was nothing in the place of the new config.
  have hknows : ∀ mgr clientId localAddr, api.Knows isAlphanumeric mgr clientId localAddr →
      Knows isAlphanumeric ⟨api.app, Function.update api.loaded api.app.nextManager config⟩
        mgr clientId localAddr := by
    rintro mgr clientId localAddr (hvetted | ⟨entry, hentry, hnames⟩)
    · exact .inl hvetted
    · refine .inr ⟨entry, ?_, hnames⟩
      dsimp only
      rcases eq_or_ne mgr api.app.nextManager with rfl | hne
      · rw [hempty] at hentry
        cases hentry
      · rwa [Function.update_of_ne hne]
  have hvalid : ∀ mgr, (Function.update api.loaded api.app.nextManager config mgr).Valid →
      (api.loaded mgr).Valid := by
    intro mgr hmgr
    rcases eq_or_ne mgr api.app.nextManager with rfl | hne
    · rw [hempty]
      exact TunnelsConfig.valid_nil
    · rwa [Function.update_of_ne hne] at hmgr
  have hold := hchecked.disconnect.mono hknows hvalid
  have hloaded : Function.update api.loaded api.app.nextManager config
      api.app.disconnect.nextManager = config := by
    rw [hnext, Function.update_self]
  have hentries : ∀ entry ∈ config.tunnels,
      Knows isAlphanumeric ⟨api.app, Function.update api.loaded api.app.nextManager config⟩
        api.app.disconnect.nextManager entry.clientId entry.localAddr := by
    intro entry hentry
    rw [← hloaded] at hentry
    exact .inr ⟨entry, hentry, rfl, rfl⟩
  have hnew := hold.newManager hentries fun hconfig => hloaded ▸ hconfig
  refine ⟨hnew.setRequest rid trivial, fun mgr hmgr => ?_⟩
  have hlt : api.app.nextManager + 1 ≤ mgr := hnext ▸ hmgr
  dsimp only
  rw [Function.update_of_ne (by omega)]
  exact hfresh mgr (by omega)

/-- The first turn of a request keeps the invariant. -/
theorem Sound.begin (h : api.Sound isAlphanumeric) (rid : ℕ) (call : HttpCall) :
    (api.begin isAlphanumeric rid call).Sound isAlphanumeric := by
  obtain ⟨hchecked, hfresh⟩ := h
  unfold Api.begin
  split_ifs with hconnected
  · exact ⟨hchecked.setRequest rid trivial, hfresh⟩
  · cases hcheck : call.check isAlphanumeric with
    | error e => exact ⟨hchecked.setRequest rid trivial, hfresh⟩
    | ok checked =>
      obtain ⟨request, args⟩ := checked
      cases request with
      | disconnect =>
        have hnext := api.app.disconnect_nextManager
        exact ⟨hchecked.disconnect.setRequest rid trivial,
          fun mgr hmgr => hfresh mgr (hnext ▸ hmgr)⟩
      | tunnel tunnelCall =>
        have hcall := checked_of_check hcheck
        unfold AppState.begin
        cases api.app.inner with
        | none => exact ⟨hchecked.setRequest rid trivial, hfresh⟩
        | some mgr =>
          obtain ⟨hm, hprogress⟩ := hchecked.beginCall mgr (hcall.mono fun _ _ => .inl)
          exact ⟨hm.setRequest rid (AppState.checked_after _ hprogress), hfresh⟩
      | connect save config =>
        cases save with
        | error e =>
          have hnext := api.app.disconnect_nextManager
          exact ⟨hchecked.disconnect.setRequest rid trivial,
            fun mgr hmgr => hfresh mgr (hnext ▸ hmgr)⟩
        | ok => exact Sound.load ⟨hchecked, hfresh⟩ rid config

/-- Every step of a request keeps the invariant. -/
theorem Sound.step (h : api.Sound isAlphanumeric) {l : ApiStep}
    (hstep : apiStep isAlphanumeric api l = some api') : api'.Sound isAlphanumeric := by
  unfold apiStep at hstep
  cases l with
  | request rid call =>
    dsimp only at hstep
    split at hstep
    · obtain rfl := Option.some.inj hstep
      exact h.begin rid call
    · cases hstep
  | resume rid newId save =>
    dsimp only at hstep
    split_ifs at hstep with htaken
    obtain ⟨app, happ, rfl⟩ := Option.map_eq_some_iff.mp hstep
    have hnext := nextManager_le happ
    exact ⟨h.checked.resume (Bool.eq_false_iff.mpr htaken) happ,
      fun mgr hmgr => h.fresh mgr (hnext.trans hmgr)⟩
  | drop rid =>
    obtain ⟨app, happ, rfl⟩ := Option.map_eq_some_iff.mp hstep
    have hnext := nextManager_le happ
    exact ⟨h.checked.drop happ, fun mgr hmgr => h.fresh mgr (hnext.trans hmgr)⟩

end Api

/-- Whatever requests come, and in whatever order they take their turns, a config that was valid
when it was loaded stays valid, and every name and address in a config, of a handle or of a task
that runs is one of the loaded config or has passed the checks of a request. -/
theorem config_from_api (saved : Option TunnelsConfig) (labels : List ApiStep) :
    Transition.Visits (apiStep isAlphanumeric) (Api.FromApi isAlphanumeric) (.new saved)
      labels := by
  have hsound : Transition.Visits (apiStep isAlphanumeric) (Api.Sound isAlphanumeric) (.new saved)
      labels :=
    Transition.visits_of_invariant (fun _ _ _ h hstep => h.step hstep) (Api.sound_new saved) labels
  exact hsound.mono fun api h => h.fromApi

end ZoTunnel
