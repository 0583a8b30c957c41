import ZoTunnel.Lib.Text
import ZoTunnel.Protocol.Message

/-!
# The tunnels of a client

`TunnelsConfig` (`zo-tunnel-client/src/config.rs`), the list of tunnels that a client keeps in
`tunnels.yaml`. An operation changes the list in memory, and then saves it. A save that fails makes
the operation fail, with the list changed.
-/

namespace ZoTunnel

/-- A single tunnel configuration entry. -/
structure TunnelEntry where
  id : String
  /-- Tunnel name, used as subdomain on the server. -/
  clientId : String
  /-- Local service address to forward to. -/
  localAddr : String
  /-- Whether to auto-connect. -/
  enabled : Bool
  deriving DecidableEq, Repr

/-- The entry with a generated id, if it has none. -/
def TunnelEntry.withId (entry : TunnelEntry) (newId : String) : TunnelEntry :=
  if entry.id = "" then { entry with id := newId } else entry

/-- Multi-tunnel config. -/
structure TunnelsConfig where
  tunnels : List TunnelEntry
  deriving DecidableEq, Repr

namespace TunnelsConfig

/-- Get a tunnel by ID. -/
def getTunnel (config : TunnelsConfig) (id : String) : Option TunnelEntry :=
  config.tunnels.find? (·.id = id)

/-- The checks of `add_tunnel`. -/
def checkAdd (config : TunnelsConfig) (entry : TunnelEntry) : Except Error Unit :=
  if Text.isBlank entry.clientId then .error "client_id cannot be empty"
  else if Text.isBlank entry.localAddr then .error "local_addr cannot be empty"
  else if config.tunnels.any (·.clientId = entry.clientId) then
    .error ("tunnel with client_id '" ++ entry.clientId ++ "' already exists")
  else .ok ()

/-- Add a tunnel entry. Generates an ID if empty: `newId` is the generated id, and `save` how the
save goes. -/
def addTunnel (config : TunnelsConfig) (entry : TunnelEntry) (newId : String)
    (save : Except Error Unit) : Except Error TunnelEntry × TunnelsConfig :=
  let entry := entry.withId newId
  match config.checkAdd entry with
  | .error e => (.error e, config)
  | .ok () => (save.map fun _ => entry, ⟨config.tunnels ++ [entry]⟩)

/-- The checks of `update_tunnel`, and the entry that it finds. -/
def checkUpdate (config : TunnelsConfig) (id clientId localAddr : String) :
    Except Error TunnelEntry :=
  if Text.isBlank clientId then .error "client_id cannot be empty"
  else if Text.isBlank localAddr then .error "local_addr cannot be empty"
  else if config.tunnels.any fun t => t.clientId = clientId ∧ t.id ≠ id then
    .error ("tunnel with client_id '" ++ clientId ++ "' already exists")
  else
    match config.getTunnel id with
    | some entry => .ok entry
    | none => .error ("tunnel '" ++ id ++ "' not found")

/-- Replace the first entry with an id. -/
def setFirst (updated : TunnelEntry) : List TunnelEntry → List TunnelEntry
  | [] => []
  | t :: ts => if t.id = updated.id then updated :: ts else t :: setFirst updated ts

/-- Update a tunnel entry by ID. -/
def updateTunnel (config : TunnelsConfig) (id clientId localAddr : String) (enabled : Bool)
    (save : Except Error Unit) : Except Error TunnelEntry × TunnelsConfig :=
  match config.checkUpdate id clientId localAddr with
  | .error e => (.error e, config)
  | .ok entry =>
    let updated := { entry with clientId, localAddr, enabled }
    (save.map fun _ => updated, ⟨setFirst updated config.tunnels⟩)

/-- Remove a tunnel entry by ID. -/
def removeTunnel (config : TunnelsConfig) (id : String) (save : Except Error Unit) :
    Except Error TunnelEntry × TunnelsConfig :=
  match config.getTunnel id with
  | none => (.error ("tunnel '" ++ id ++ "' not found"), config)
  | some removed => (save.map fun _ => removed, ⟨config.tunnels.eraseP (·.id = id)⟩)

/-! ## The entries after an operation -/

/-- A found entry has the id that was looked for. -/
theorem getTunnel_id {config : TunnelsConfig} {id : String} {entry : TunnelEntry}
    (h : config.getTunnel id = some entry) : entry.id = id := by
  simpa using List.find?_some h

/-- An entry at the end of the list is found when no other has its id. -/
theorem getTunnel_append (tunnels : List TunnelEntry) (entry : TunnelEntry) (id : String) :
    getTunnel ⟨tunnels ++ [entry]⟩ id =
      (getTunnel ⟨tunnels⟩ id).or (if entry.id = id then some entry else none) := by
  unfold getTunnel
  rw [List.find?_append, List.find?_singleton]
  simp only [decide_eq_true_eq]

/-- The replaced entry is found under its id, and the others as before. -/
theorem getTunnel_setFirst (updated : TunnelEntry) (tunnels : List TunnelEntry) (id : String) :
    getTunnel ⟨setFirst updated tunnels⟩ id =
      if updated.id = id then (getTunnel ⟨tunnels⟩ id).map fun _ => updated
      else getTunnel ⟨tunnels⟩ id := by
  unfold getTunnel
  induction tunnels with
  | nil => simp [setFirst]
  | cons t ts ih =>
    unfold setFirst
    -- The first entry of the list is the one that is looked for, or the one that is replaced.
    by_cases hid : updated.id = id
    · subst hid
      by_cases ht : t.id = updated.id
      · simp [ht]
      · simpa [ht] using ih
    · by_cases ht : t.id = updated.id
      · simp [ht, hid]
      · simp only [ht, if_false, List.find?_cons]
        simp only [hid, if_false] at ih ⊢
        rw [ih]

/-- The checks of `add_tunnel` pass exactly for a new name, and when neither value is blank. -/
theorem checkAdd_eq_ok_iff {config : TunnelsConfig} {entry : TunnelEntry} :
    config.checkAdd entry = .ok () ↔ Text.isBlank entry.clientId = false ∧
      Text.isBlank entry.localAddr = false ∧
      ∀ t ∈ config.tunnels, t.clientId ≠ entry.clientId := by
  unfold checkAdd
  split_ifs with hclient haddr hany
  · simp [hclient]
  · simp [haddr]
  · obtain ⟨t, ht, heq⟩ := List.any_eq_true.mp hany
    simp only [false_iff]
    rintro ⟨-, -, hall⟩
    exact hall t ht (of_decide_eq_true heq)
  · have hall : ∀ t ∈ config.tunnels, t.clientId ≠ entry.clientId := fun t ht heq =>
      hany (List.any_eq_true.mpr ⟨t, ht, decide_eq_true heq⟩)
    simpa [hclient, haddr] using hall

/-- The values of an entry that the config takes under an id: neither is blank, and no entry with
another id has the name. -/
structure Takes (config : TunnelsConfig) (id clientId localAddr : String) : Prop where
  name : Text.isBlank clientId = false
  addr : Text.isBlank localAddr = false
  unique : ∀ t ∈ config.tunnels, t.id ≠ id → t.clientId ≠ clientId

/-- The checks of `update_tunnel` pass exactly for an id in the config and values that it takes. -/
theorem checkUpdate_eq_ok_iff {config : TunnelsConfig} {id clientId localAddr : String}
    {entry : TunnelEntry} :
    config.checkUpdate id clientId localAddr = .ok entry ↔
      config.getTunnel id = some entry ∧ config.Takes id clientId localAddr := by
  unfold checkUpdate
  split_ifs with hclient haddr hany
  · simp only [false_iff]
    rintro ⟨-, htakes⟩
    exact Bool.eq_false_iff.mp htakes.name hclient
  · simp only [false_iff]
    rintro ⟨-, htakes⟩
    exact Bool.eq_false_iff.mp htakes.addr haddr
  · obtain ⟨t, ht, heq⟩ := List.any_eq_true.mp hany
    have hboth : t.clientId = clientId ∧ t.id ≠ id := of_decide_eq_true heq
    simp only [false_iff]
    rintro ⟨-, htakes⟩
    exact htakes.unique t ht hboth.2 hboth.1
  · have htakes : config.Takes id clientId localAddr := by
      refine ⟨Bool.eq_false_iff.mpr hclient, Bool.eq_false_iff.mpr haddr, fun t ht hne heq => ?_⟩
      exact hany (List.any_eq_true.mpr ⟨t, ht, decide_eq_true ⟨heq, hne⟩⟩)
    cases config.getTunnel id with
    | none => simp
    | some found => simpa using fun _ => htakes

/-- An entry that passes the checks of `add_tunnel` has a client id that no other entry has. -/
theorem checkAdd_unique {config : TunnelsConfig} {entry t : TunnelEntry}
    (h : config.checkAdd entry = .ok ()) (ht : t ∈ config.tunnels) :
    t.clientId ≠ entry.clientId :=
  (checkAdd_eq_ok_iff.mp h).2.2 t ht

/-- An update that passes its checks replaces the entry of its id. -/
theorem checkUpdate_getTunnel {config : TunnelsConfig} {id clientId localAddr : String}
    {entry : TunnelEntry} (h : config.checkUpdate id clientId localAddr = .ok entry) :
    config.getTunnel id = some entry :=
  (checkUpdate_eq_ok_iff.mp h).1

/-- Removing the first entry with an id leaves the entries of the other ids. -/
theorem getTunnel_eraseP (tunnels : List TunnelEntry) {id id' : String} (hne : id' ≠ id) :
    getTunnel ⟨tunnels.eraseP (·.id = id)⟩ id' = getTunnel ⟨tunnels⟩ id' := by
  unfold getTunnel
  induction tunnels with
  | nil => rfl
  | cons t ts ih =>
    by_cases ht : t.id = id
    · rw [List.eraseP_cons_of_pos (by simpa using ht), List.find?_cons_of_neg]
      rw [ht]
      simpa using hne.symm
    · rw [List.eraseP_cons_of_neg (by simpa using ht), List.find?_cons, List.find?_cons]
      rw [ih]

end TunnelsConfig

end ZoTunnel
