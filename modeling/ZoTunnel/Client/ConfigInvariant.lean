import Mathlib.Data.List.Nodup
import ZoTunnel.Client.Config
import ZoTunnel.Lib.Run

/-!
# The configuration stays unambiguous

`add_tunnel` checks that the client id of a new entry is new, and generates an id for an entry that
has none. It does not check an id that the entry brings along, and `update_tunnel`, which excludes
the edited entry from its own check by its id, relies on the ids being distinct.
`config_valid_iff` characterizes the sequences of operations that keep the configuration valid: no
entry that passes the checks brings an id that a tunnel has.
-/

namespace ZoTunnel

open Transition

namespace TunnelsConfig

/-- The ids and the client ids are distinct, and no client id or address is blank. -/
structure Valid (config : TunnelsConfig) : Prop where
  ids : (config.tunnels.map (·.id)).Nodup
  clientIds : (config.tunnels.map (·.clientId)).Nodup
  notBlank : ∀ t ∈ config.tunnels,
    Text.isBlank t.clientId = false ∧ Text.isBlank t.localAddr = false

/-- The id of each tunnel denotes that tunnel, and no other has it. -/
def Unambiguous (config : TunnelsConfig) : Prop :=
  ∀ t ∈ config.tunnels,
    config.getTunnel t.id = some t ∧ ∀ t' ∈ config.tunnels, t'.id = t.id → t' = t

end TunnelsConfig

/-- An operation on the configuration, with the generated id and how its save goes. -/
inductive ConfigStep where
  | add (entry : TunnelEntry) (newId : String) (save : Except Error Unit)
  | update (id clientId localAddr : String) (enabled : Bool) (save : Except Error Unit)
  | remove (id : String) (save : Except Error Unit)

/-- The configuration after an operation. `generate_id` returns an id that is not in use. -/
def configStep (config : TunnelsConfig) : ConfigStep → Option TunnelsConfig
  | .add entry newId save =>
    if entry.id = "" ∧ config.tunnels.any (·.id = newId) then none
    else some (config.addTunnel entry newId save).2
  | .update id clientId localAddr enabled save =>
    some (config.updateTunnel id clientId localAddr enabled save).2
  | .remove id save => some (config.removeTunnel id save).2

/-- An entry that passes the checks brings no id that a tunnel has. -/
def BringsNewId (config : TunnelsConfig) : ConfigStep → Prop
  | .add entry _ _ =>
    config.checkAdd entry = .ok () → entry.id = "" ∨ ∀ t ∈ config.tunnels, t.id ≠ entry.id
  | _ => True

namespace TunnelsConfig

variable {config : TunnelsConfig}

/-- In a valid configuration an id denotes one tunnel. -/
theorem Valid.unambiguous (h : config.Valid) : config.Unambiguous := by
  have hunique : ∀ t ∈ config.tunnels, ∀ t' ∈ config.tunnels, t'.id = t.id → t' = t :=
    fun t ht t' ht' => List.inj_on_of_nodup_map h.ids ht' ht
  intro t ht
  refine ⟨?_, hunique t ht⟩
  cases hget : config.getTunnel t.id with
  | some t' =>
    have hmem : t' ∈ config.tunnels := List.mem_of_find?_eq_some hget
    rw [hunique t ht t' hmem (getTunnel_id hget)]
  | none =>
    have hnone := List.find?_eq_none.mp hget t ht
    simp at hnone

/-- The checks of `add_tunnel` do not look at the id. -/
theorem checkAdd_withId (entry : TunnelEntry) (newId : String) :
    config.checkAdd (entry.withId newId) = config.checkAdd entry := by
  unfold TunnelEntry.withId
  split_ifs <;> rfl

/-- The entry that an add appends. -/
theorem addTunnel_eq_append {entry : TunnelEntry} {newId : String} {save : Except Error Unit}
    (h : config.checkAdd entry = .ok ()) :
    (config.addTunnel entry newId save).2 = ⟨config.tunnels ++ [entry.withId newId]⟩ := by
  unfold addTunnel
  dsimp only
  rw [checkAdd_withId, h]

/-- An add that fails its checks changes nothing. -/
theorem addTunnel_eq_self {entry : TunnelEntry} {newId : String} {save : Except Error Unit}
    (h : config.checkAdd entry ≠ .ok ()) : (config.addTunnel entry newId save).2 = config := by
  unfold addTunnel
  dsimp only
  rw [checkAdd_withId]
  cases hcheck : config.checkAdd entry with
  | error e => rfl
  | ok => exact absurd hcheck h

/-- A new entry with a new id keeps the configuration valid. -/
theorem Valid.append (h : config.Valid) {entry : TunnelEntry}
    (hcheck : config.checkAdd entry = .ok ()) (hnew : ∀ t ∈ config.tunnels, t.id ≠ entry.id) :
    Valid ⟨config.tunnels ++ [entry]⟩ := by
  have hunique : ∀ t ∈ config.tunnels, t.clientId ≠ entry.clientId :=
    fun t ht => checkAdd_unique hcheck ht
  refine ⟨?_, ?_, fun t ht => ?_⟩
  · rw [List.map_append, List.map_singleton, List.nodup_append]
    refine ⟨h.ids, List.nodup_singleton _, fun id hid id' hid' => ?_⟩
    obtain ⟨t, ht, rfl⟩ := List.mem_map.mp hid
    rw [List.mem_singleton.mp hid']
    exact hnew t ht
  · rw [List.map_append, List.map_singleton, List.nodup_append]
    refine ⟨h.clientIds, List.nodup_singleton _, fun id hid id' hid' => ?_⟩
    obtain ⟨t, ht, rfl⟩ := List.mem_map.mp hid
    rw [List.mem_singleton.mp hid']
    exact hunique t ht
  · rcases List.mem_append.mp ht with ht | ht
    · exact h.notBlank t ht
    · rw [List.mem_singleton.mp ht]
      obtain ⟨hclient, haddr, -⟩ := checkAdd_eq_ok_iff.mp hcheck
      exact ⟨hclient, haddr⟩

/-- The entries after a replacement are those from before, and the new one. -/
theorem mem_setFirst {updated t : TunnelEntry} {tunnels : List TunnelEntry}
    (h : t ∈ setFirst updated tunnels) : t = updated ∨ t ∈ tunnels := by
  induction tunnels with
  | nil => cases h
  | cons u us ih =>
    unfold setFirst at h
    split_ifs at h
    · rcases List.mem_cons.mp h with rfl | h
      · exact .inl rfl
      · exact .inr (List.mem_cons_of_mem _ h)
    · rcases List.mem_cons.mp h with rfl | h
      · exact .inr List.mem_cons_self
      · exact (ih h).imp id (List.mem_cons_of_mem _)

/-- A replacement keeps the ids. -/
theorem map_id_setFirst (updated : TunnelEntry) (tunnels : List TunnelEntry) :
    (setFirst updated tunnels).map (·.id) = tunnels.map (·.id) := by
  induction tunnels with
  | nil => rfl
  | cons t ts ih =>
    unfold setFirst
    split_ifs with ht
    · rw [List.map_cons, List.map_cons, ht]
    · rw [List.map_cons, List.map_cons, ih]

/-- A replacement by an entry with a client id that no other entry has keeps the client ids
distinct. That no second entry has the replaced one's id is used here. -/
theorem nodup_setFirst {updated : TunnelEntry} {tunnels : List TunnelEntry}
    (hids : (tunnels.map (·.id)).Nodup) (hclientIds : (tunnels.map (·.clientId)).Nodup)
    (hunique : ∀ t ∈ tunnels, t.id ≠ updated.id → t.clientId ≠ updated.clientId) :
    ((setFirst updated tunnels).map (·.clientId)).Nodup := by
  induction tunnels with
  | nil => exact List.nodup_nil
  | cons t ts ih =>
    rw [List.map_cons, List.nodup_cons] at hids hclientIds
    unfold setFirst
    split_ifs with ht
    · rw [List.map_cons, List.nodup_cons]
      refine ⟨fun hmem => ?_, hclientIds.2⟩
      obtain ⟨t', ht', heq⟩ := List.mem_map.mp hmem
      refine hunique t' (List.mem_cons_of_mem _ ht') (fun hid => ?_) heq
      exact hids.1 (List.mem_map.mpr ⟨t', ht', hid.trans ht.symm⟩)
    · rw [List.map_cons, List.nodup_cons]
      refine ⟨fun hmem => ?_, ih hids.2 hclientIds.2 fun t' ht' =>
        hunique t' (List.mem_cons_of_mem _ ht')⟩
      obtain ⟨t', ht', heq⟩ := List.mem_map.mp hmem
      rcases mem_setFirst ht' with rfl | ht'
      · exact hunique t List.mem_cons_self ht heq.symm
      · exact hclientIds.1 (List.mem_map.mpr ⟨t', ht', heq⟩)

/-- An update keeps the configuration valid. -/
theorem Valid.updateTunnel (h : config.Valid) (id clientId localAddr : String) (enabled : Bool)
    (save : Except Error Unit) :
    (config.updateTunnel id clientId localAddr enabled save).2.Valid := by
  unfold TunnelsConfig.updateTunnel
  cases hcheck : config.checkUpdate id clientId localAddr with
  | error e => exact h
  | ok entry =>
    have hid : entry.id = id := getTunnel_id (checkUpdate_getTunnel hcheck)
    obtain ⟨-, hclient, haddr, hunique⟩ := checkUpdate_eq_ok_iff.mp hcheck
    refine ⟨?_, ?_, fun t ht => ?_⟩
    · rw [map_id_setFirst]
      exact h.ids
    · refine nodup_setFirst h.ids h.clientIds fun t ht hne => hunique t ht ?_
      rw [← hid]
      exact hne
    · rcases mem_setFirst ht with rfl | ht
      · exact ⟨hclient, haddr⟩
      · exact h.notBlank t ht

/-- A removal keeps the configuration valid. -/
theorem Valid.removeTunnel (h : config.Valid) (id : String) (save : Except Error Unit) :
    (config.removeTunnel id save).2.Valid := by
  unfold TunnelsConfig.removeTunnel
  split
  · exact h
  · have hsub : (config.tunnels.eraseP (·.id = id)).Sublist config.tunnels := List.eraseP_sublist
    exact ⟨(hsub.map _).nodup h.ids, (hsub.map _).nodup h.clientIds,
      fun t ht => h.notBlank t (hsub.subset ht)⟩

/-- An add that brings no id of another tunnel keeps the configuration valid. -/
theorem Valid.addTunnel (h : config.Valid) {entry : TunnelEntry} {newId : String}
    (save : Except Error Unit)
    (hfresh : ¬ (entry.id = "" ∧ config.tunnels.any (·.id = newId) = true))
    (hbrings : config.checkAdd entry = .ok () →
      entry.id = "" ∨ ∀ t ∈ config.tunnels, t.id ≠ entry.id) :
    (config.addTunnel entry newId save).2.Valid := by
  by_cases hcheck : config.checkAdd entry = .ok ()
  · rw [addTunnel_eq_append hcheck]
    refine h.append (by rw [checkAdd_withId]; exact hcheck) fun t ht heq => ?_
    unfold TunnelEntry.withId at heq
    split_ifs at heq with hempty
    · exact hfresh ⟨hempty, List.any_eq_true.mpr ⟨t, ht, decide_eq_true heq⟩⟩
    · exact (hbrings hcheck).elim hempty fun hnew => hnew t ht heq
  · rw [addTunnel_eq_self hcheck]
    exact h

end TunnelsConfig

/-- From a valid configuration, every configuration of a run is valid and unambiguous exactly if no
entry that passes the checks of `add_tunnel` brings an id that a tunnel has. -/
theorem config_valid_iff (config : TunnelsConfig) (hvalid : config.Valid)
    (labels : List ConfigStep) :
    Visits configStep (fun c => c.Valid ∧ c.Unambiguous) config labels ↔
      Meets configStep BringsNewId config labels := by
  refine visits_iff_meets (I := TunnelsConfig.Valid) ?_ (fun c h => ⟨h, h.unambiguous⟩) ?_ hvalid
    labels
  · intro c l c' hc hbrings h
    cases l with
    | add entry newId save =>
      unfold configStep at h
      dsimp only at h
      split_ifs at h with hfresh
      obtain rfl := Option.some.inj h
      exact hc.addTunnel save hfresh hbrings
    | update id clientId localAddr enabled save =>
      obtain rfl := Option.some.inj h
      exact hc.updateTunnel id clientId localAddr enabled save
    | remove id save =>
      obtain rfl := Option.some.inj h
      exact hc.removeTunnel id save
  · rintro c l c' hc hbrings h ⟨hvalid', -⟩
    cases l with
    | add entry newId save =>
      unfold configStep at h
      dsimp only at h
      split_ifs at h with hfresh
      obtain rfl := Option.some.inj h
      unfold BringsNewId at hbrings
      dsimp only at hbrings
      push Not at hbrings
      obtain ⟨hcheck, hown, t, ht, hid⟩ := hbrings
      -- The new entry is a second one with its id.
      have hids := hvalid'.ids
      rw [TunnelsConfig.addTunnel_eq_append hcheck, List.map_append, List.nodup_append] at hids
      refine hids.2.2 t.id (List.mem_map_of_mem ht) entry.id ?_ hid
      unfold TunnelEntry.withId
      rw [if_neg hown]
      exact List.mem_singleton_self _
    | update => exact hbrings trivial
    | remove => exact hbrings trivial

/-- Adding two tunnels with no id, the second with a blank address, and renaming the first keeps the
configuration valid. -/
theorem config_valid_run :
    Visits configStep (fun c => c.Valid ∧ c.Unambiguous) ⟨[]⟩
      [.add ⟨"", "web", "localhost:3000", true⟩ "a1" (.ok ()),
        .add ⟨"", "api", " ", true⟩ "b2" (.ok ()),
        .update "a1" "site" "localhost:3000" true (.error "disk full")] := by
  refine (config_valid_iff ⟨[]⟩ ⟨List.nodup_nil, List.nodup_nil, fun t ht => by cases ht⟩ _).mpr ?_
  refine fun c _ => ⟨fun _ => .inl rfl, fun c _ => ⟨fun _ => .inl rfl, fun c _ => ⟨trivial, ?_⟩⟩⟩
  trivial

/-- An entry that brings the id of a tunnel is added beside it. -/
theorem duplicate_id_added :
    ¬ ∀ config : TunnelsConfig, config.Valid → ∀ labels : List ConfigStep,
      Visits configStep (fun c => c.Valid ∧ c.Unambiguous) config labels := by
  intro h
  let labels : List ConfigStep := [.add ⟨"a1", "web", "localhost:3000", true⟩ "x" (.ok ()),
    .add ⟨"a1", "api", "localhost:4000", true⟩ "y" (.ok ())]
  have hrun : exec configStep ⟨[]⟩ labels =
      some ⟨[⟨"a1", "web", "localhost:3000", true⟩, ⟨"a1", "api", "localhost:4000", true⟩]⟩ := by
    decide
  have hempty : TunnelsConfig.Valid ⟨[]⟩ :=
    ⟨List.nodup_nil, List.nodup_nil, fun t ht => by cases ht⟩
  have hvalid := ((h ⟨[]⟩ hempty labels).last hrun).1
  exact absurd hvalid.ids (by decide)

end ZoTunnel
