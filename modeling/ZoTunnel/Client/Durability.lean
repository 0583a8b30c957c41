import Mathlib.Data.List.Nodup
import ZoTunnel.Client.Persistence
import ZoTunnel.Lib.Run

/-!
# Saved tunnels survive

`save` rewrites `tunnels.yaml` in place, so a process that dies on the way leaves a part of it, and
a failed load counts as an empty configuration, which the next save writes over the file.
`tunnels_survive` says when the entries of a file survive: no save is cut off, nothing is loaded
during one, and a manager saves only what it has made of the file as it is.

The invariant says that each fresh manager has all the entries that must stay, and so does the file,
unless one of them, then the only fresh one, is writing it.
-/

namespace ZoTunnel

open FileSystem Transition

variable {Y : Yaml} {config config' : TunnelsConfig} {newId : String} {call : ConfigCall}
  {entry : TunnelEntry}

/-! ## The entries under an operation -/

/-- All values of an entry have its id. -/
def Kept.Named (k : Kept) : Prop := ∀ entry ∈ k.entries, entry.id = k.id

/-- A replacement leaves an entry with another id. -/
theorem TunnelsConfig.mem_setFirst_of_ne {updated t : TunnelEntry} {tunnels : List TunnelEntry}
    (ht : t ∈ tunnels) (hne : t.id ≠ updated.id) : t ∈ setFirst updated tunnels := by
  induction tunnels with
  | nil => exact ht
  | cons u us ih =>
    unfold setFirst
    split_ifs with hu
    · rcases List.mem_cons.mp ht with rfl | ht
      · exact absurd hu hne
      · exact List.mem_cons_of_mem _ ht
    · rcases List.mem_cons.mp ht with rfl | ht
      · exact List.mem_cons_self
      · exact List.mem_cons_of_mem _ (ih ht)

/-- A replacement of an entry that is there puts the new one into the list. -/
theorem TunnelsConfig.mem_setFirst_self {updated : TunnelEntry} {tunnels : List TunnelEntry}
    (h : (getTunnel ⟨tunnels⟩ updated.id).isSome = true) : updated ∈ setFirst updated tunnels := by
  have hget := getTunnel_setFirst updated tunnels updated.id
  obtain ⟨t, ht⟩ := Option.isSome_iff_exists.mp h
  rw [if_pos rfl, ht] at hget
  exact List.mem_of_find?_eq_some hget

/-- What an update that passes its checks does. -/
theorem TunnelsConfig.call_update {id clientId localAddr : String} {enabled : Bool}
    (h : config.call newId (.update id clientId localAddr enabled) = (.ok entry, config')) :
    config' = ⟨setFirst entry config.tunnels⟩ ∧ entry ∈ config'.tunnels := by
  unfold TunnelsConfig.call updateTunnel at h
  dsimp only at h
  cases hcheck : config.checkUpdate id clientId localAddr with
  | error e =>
    rw [hcheck] at h
    cases h
  | ok old =>
    rw [hcheck] at h
    obtain ⟨hresult, rfl⟩ := Prod.mk.inj h
    obtain rfl := Except.ok.inj hresult
    refine ⟨rfl, mem_setFirst_self ?_⟩
    have hget := checkUpdate_getTunnel hcheck
    have hid := getTunnel_id hget
    dsimp only
    rw [hid, hget]
    rfl

/-- What an operation leaves of an entry is in the configuration after it, if the entry was in the
one before. -/
theorem Kept.in_call {k k' : Kept} (hnamed : k.Named) (hin : k.In config)
    (h : config.call newId call = (.ok entry, config')) (hk : k.executed call entry = some k') :
    k'.In config' := by
  obtain ⟨t, ht, hmem⟩ := hin
  cases call with
  | add new =>
    obtain rfl := Option.some.inj hk
    unfold TunnelsConfig.call TunnelsConfig.addTunnel at h
    dsimp only at h
    split at h
    · cases h
    · obtain ⟨-, rfl⟩ := Prod.mk.inj h
      exact ⟨t, ht, List.mem_append_left _ hmem⟩
  | update =>
    obtain ⟨rfl, hentry⟩ := TunnelsConfig.call_update h
    unfold Kept.executed at hk
    dsimp only at hk
    split_ifs at hk with hid
    · obtain rfl := Option.some.inj hk
      exact ⟨entry, List.mem_cons_self, hentry⟩
    · obtain rfl := Option.some.inj hk
      exact ⟨t, ht, TunnelsConfig.mem_setFirst_of_ne hmem (by rw [hnamed t ht]; exact hid)⟩
  | remove id =>
    unfold Kept.executed at hk
    dsimp only at hk
    split_ifs at hk with hid
    obtain rfl := Option.some.inj hk
    unfold TunnelsConfig.call TunnelsConfig.removeTunnel at h
    dsimp only at h
    split at h
    · cases h
    · rename_i removed hget
      obtain ⟨hresult, rfl⟩ := Prod.mk.inj h
      obtain rfl := Except.ok.inj hresult
      refine ⟨t, ht, (List.mem_eraseP_of_neg ?_).mpr hmem⟩
      rw [← TunnelsConfig.getTunnel_id hget, hnamed t ht]
      simpa using hid

/-- An entry has its old values too, after an operation. -/
theorem Kept.In.executed {k k' : Kept} (hin : k.In config) (hk : k.executed call entry = some k') :
    k'.In config := by
  obtain ⟨t, ht, hmem⟩ := hin
  unfold Kept.executed at hk
  split at hk
  · exact ⟨t, by rwa [← Option.some.inj hk], hmem⟩
  · split_ifs at hk
    · exact ⟨t, by rw [← Option.some.inj hk]; exact List.mem_cons_of_mem _ ht, hmem⟩
    · exact ⟨t, by rwa [← Option.some.inj hk], hmem⟩
  · split_ifs at hk
    exact ⟨t, by rwa [← Option.some.inj hk], hmem⟩

/-- The values of an entry have its id, after an operation. -/
theorem Kept.Named.executed {k k' : Kept} (hnamed : k.Named)
    (hk : k.executed call entry = some k') : k'.Named := by
  unfold Kept.executed at hk
  split at hk
  · rwa [← Option.some.inj hk]
  · split_ifs at hk with hid
    · rw [← Option.some.inj hk]
      intro t ht
      rcases List.mem_cons.mp ht with rfl | ht
      · exact hid.symm
      · exact hnamed t ht
    · rwa [← Option.some.inj hk]
  · split_ifs at hk
    rwa [← Option.some.inj hk]

/-- The values of an entry have its id, after an operation has been written. -/
theorem Kept.Named.written {k : Kept} (hnamed : k.Named) : (k.written call entry).Named := by
  unfold Kept.written
  split
  · split_ifs with hid
    · intro t ht
      rw [List.mem_singleton.mp ht]
      exact hid.symm
    · exact hnamed
  · exact hnamed
  · exact hnamed

/-- The result of an update is in the configuration. -/
def ConfigCall.Done (config : TunnelsConfig) (entry : TunnelEntry) : ConfigCall → Prop
  | .update .. => entry ∈ config.tunnels
  | .add _ | .remove _ => True

/-- An operation in memory is done. -/
theorem ConfigCall.done_of_call (h : config.call newId call = (.ok entry, config')) :
    call.Done config' entry := by
  cases call with
  | add | remove => trivial
  | update => exact (TunnelsConfig.call_update h).2

/-- A configuration in which an operation is done has the entry with its new value. -/
theorem Kept.In.written {k : Kept} (hin : k.In config) (hdone : call.Done config entry) :
    (k.written call entry).In config := by
  unfold Kept.written
  split
  · split_ifs
    · exact ⟨entry, List.mem_singleton_self _, hdone⟩
    · exact hin
  · exact hin
  · exact hin

/-- The load of a file that exists. -/
theorem TunnelsConfig.load_some (Y : Yaml) (file : File) :
    load Y (some file) = file.readToString.bind Y.fromStr := rfl

/-! ## The invariant -/

/-- The manager that a request is for. -/
def ConfigRequest.mgr? : ConfigRequest → Option ℕ
  | .connecting mgr | .waiting mgr _ | .saving mgr _ _ _ => some mgr
  | .idle | .returned _ => none

/-- The manager that a request saves, and that it has locked. -/
def ConfigRequest.saves? : ConfigRequest → Option ℕ
  | .saving mgr _ _ _ => some mgr
  | _ => none

/-- What a save of a configuration relies on at each of its points. -/
def SavePoint.Ready (Y : Yaml) (config : TunnelsConfig) (mgr : ℕ) (file : Option File)
    (ledger : Ledger) : SavePoint → Prop
  | .preparing => mgr ∈ ledger.unsaved
  | .opening text => mgr ∈ ledger.unsaved ∧ Y.toString config = .ok text
  | .writing w => ledger.fresh = [mgr] ∧ mgr ∈ ledger.unsaved ∧ ∃ text f,
      Y.toString config = .ok text ∧ file = some f ∧ f.readable = true ∧
        w.Behind f (Bytes.asBytes text)
  | .finishing => ∃ f, file = some f ∧ f.readable = true

/-- The file has what must stay. It loads if any manager is fresh, and to the configuration of each
fresh manager that has nothing unsaved. -/
structure Settled (Y : Yaml) (s : Clients) (ledger : Ledger) : Prop where
  loads : ledger.fresh ≠ [] → (TunnelsConfig.load Y s.file).isSome = true
  stays : ∀ k ∈ ledger.kept, ∃ config, TunnelsConfig.load Y s.file = some config ∧ k.In config
  saved : ∀ mgr ∈ ledger.fresh, mgr ∉ ledger.unsaved →
    TunnelsConfig.load Y s.file = some (s.managers mgr).config

/-- The invariant of the runs in which every save is safe. -/
structure Durable (Y : Yaml) (s : Clients) (ledger : Ledger) : Prop where
  inner : ∀ pid mgr, s.inner pid = some mgr → mgr < s.nextManager
  numbers : ∀ pid rid mgr, (s.requests pid rid).mgr? = some mgr → mgr < s.nextManager
  fresh : ∀ mgr ∈ ledger.fresh, mgr < s.nextManager
  unique : ∀ pid rid pid' rid' mgr, (s.requests pid rid).saves? = some mgr →
    (s.requests pid' rid').saves? = some mgr → pid' = pid ∧ rid' = rid
  savers : ∀ pid rid mgr call entry point, s.requests pid rid = .saving mgr call entry point →
    (s.managers mgr).locked = true ∧ call.Done (s.managers mgr).config entry ∧
      point.Ready Y (s.managers mgr).config mgr s.file ledger
  named : ∀ k ∈ ledger.kept, k.Named
  known : ∀ mgr ∈ ledger.fresh, ∀ k ∈ ledger.kept, k.In (s.managers mgr).config
  failed : ledger.loadFailed = true → ledger.fresh = [] ∧ TunnelsConfig.load Y s.file = none
  settled : s.NoneWriting → Settled Y s ledger

variable {s : Clients} {ledger ledger' : Ledger} {pid rid mgr : ℕ} {point point' : SavePoint}
  {file' : Option File}

/-- The managers after a request is replaced. -/
theorem Clients.setRequest_managers (s : Clients) (pid rid : ℕ) (request : ConfigRequest) :
    (s.setRequest pid rid request).managers = s.managers := rfl

/-- The requests after one is replaced. -/
theorem Clients.setRequest_requests (s : Clients) (pid rid : ℕ) (request : ConfigRequest)
    (pid' rid' : ℕ) : (s.setRequest pid rid request).requests pid' rid' =
      if pid' = pid ∧ rid' = rid then request else s.requests pid' rid' := by
  unfold setRequest
  dsimp only
  by_cases hpid : pid' = pid
  · subst hpid
    rw [Function.update_self]
    by_cases hrid : rid' = rid
    · subst hrid
      rw [Function.update_self, if_pos ⟨rfl, rfl⟩]
    · rw [Function.update_of_ne hrid, if_neg fun h => hrid h.2]
  · rw [Function.update_of_ne hpid, if_neg fun h => hpid h.1]

/-- A request that is set to write is writing. -/
theorem Clients.writing_setRequest (s : Clients) (pid rid mgr : ℕ) (call : ConfigCall)
    (entry : TunnelEntry) (w : Descriptor) :
    (s.setRequest pid rid (.saving mgr call entry (.writing w))).Writing pid rid :=
  ⟨mgr, call, entry, w, by rw [setRequest_requests, if_pos ⟨rfl, rfl⟩]⟩

/-- A request that is at another point is not writing. -/
theorem Clients.not_writing_of_eq {request : ConfigRequest} (hreq : s.requests pid rid = request)
    (hrequest : ∀ mgr call entry w, request ≠ .saving mgr call entry (.writing w)) :
    ¬ s.Writing pid rid := by
  rintro ⟨mgr, call, entry, w, hwriting⟩
  exact hrequest mgr call entry w (hreq.symm.trans hwriting)

/-- A request that replaces one which is not writing, and which is not writing itself, leaves the
others to write. -/
theorem Clients.noneWriting_of_setRequest {request : ConfigRequest}
    (h : (s.setRequest pid rid request).NoneWriting) (hold : ¬ s.Writing pid rid) :
    s.NoneWriting := by
  rintro pid' rid' ⟨mgr, call, entry, w, hreq⟩
  by_cases hsame : pid' = pid ∧ rid' = rid
  · obtain ⟨rfl, rfl⟩ := hsame
    exact hold ⟨mgr, call, entry, w, hreq⟩
  · refine h pid' rid' ⟨mgr, call, entry, w, ?_⟩
    rw [setRequest_requests, if_neg hsame]
    exact hreq

namespace Durable

/-- At the start there is nothing to keep. -/
theorem new (Y : Yaml) (file : Option File) : Durable Y (.new file) ⟨false, [], [], []⟩ where
  inner := nofun
  numbers := nofun
  fresh := nofun
  unique := nofun
  savers := nofun
  named := nofun
  known := nofun
  failed := nofun
  settled _ := ⟨fun h => absurd rfl h, nofun, nofun⟩

/-- The manager of a process is replaced by none, or by a manager. -/
theorem setInner (h : Durable Y s ledger) {inner : Option ℕ}
    (hinner : ∀ mgr, inner = some mgr → mgr < s.nextManager) :
    Durable Y (s.setInner pid inner) ledger where
  inner pid' mgr hmgr := by
    unfold Clients.setInner at hmgr
    dsimp only at hmgr
    by_cases hpid : pid' = pid
    · rw [hpid, Function.update_self] at hmgr
      exact hinner mgr hmgr
    · rw [Function.update_of_ne hpid] at hmgr
      exact h.inner pid' mgr hmgr
  numbers := h.numbers
  fresh := h.fresh
  unique := h.unique
  savers := h.savers
  named := h.named
  known := h.known
  failed := h.failed
  settled hnone := ⟨(h.settled hnone).loads, (h.settled hnone).stays, (h.settled hnone).saved⟩

/-- The managers that requests are for, after one request is replaced. -/
theorem numbers_setRequest (h : Durable Y s ledger) {request : ConfigRequest}
    (hnumber : ∀ mgr, request.mgr? = some mgr → mgr < s.nextManager) (pid' rid' mgr : ℕ)
    (hmgr : ((s.setRequest pid rid request).requests pid' rid').mgr? = some mgr) :
    mgr < s.nextManager := by
  rw [Clients.setRequest_requests] at hmgr
  split_ifs at hmgr
  · exact hnumber mgr hmgr
  · exact h.numbers pid' rid' mgr hmgr

/-- Each manager is still saved by at most one request, after a request is replaced by one whose
manager no other request saves. -/
theorem unique_setRequest (h : Durable Y s ledger) {request : ConfigRequest}
    (hsaves : ∀ mgr, request.saves? = some mgr → ∀ pid' rid',
      (s.requests pid' rid').saves? = some mgr → pid' = pid ∧ rid' = rid)
    (pid₁ rid₁ pid₂ rid₂ mgr : ℕ)
    (h₁ : ((s.setRequest pid rid request).requests pid₁ rid₁).saves? = some mgr)
    (h₂ : ((s.setRequest pid rid request).requests pid₂ rid₂).saves? = some mgr) :
    pid₂ = pid₁ ∧ rid₂ = rid₁ := by
  rw [Clients.setRequest_requests] at h₁ h₂
  split_ifs at h₁ h₂ with hsame₁ hsame₂ hsame₂
  · exact ⟨hsame₂.1.trans hsame₁.1.symm, hsame₂.2.trans hsame₁.2.symm⟩
  · exact absurd (hsaves mgr h₁ pid₂ rid₂ h₂) hsame₂
  · exact absurd (hsaves mgr h₂ pid₁ rid₁ h₁) hsame₁
  · exact h.unique pid₁ rid₁ pid₂ rid₂ mgr h₁ h₂

/-- A request goes on to something else than a save. -/
theorem setRequest (h : Durable Y s ledger) {request : ConfigRequest}
    (hnumber : ∀ mgr, request.mgr? = some mgr → mgr < s.nextManager)
    (hsaves : request.saves? = none) (hold : ¬ s.Writing pid rid) :
    Durable Y (s.setRequest pid rid request) ledger where
  inner := h.inner
  numbers := h.numbers_setRequest hnumber
  fresh := h.fresh
  unique := h.unique_setRequest fun mgr hmgr => absurd (hsaves.symm.trans hmgr) nofun
  savers pid' rid' mgr call entry point hreq := by
    rw [Clients.setRequest_requests] at hreq
    split_ifs at hreq
    · rw [hreq] at hsaves
      cases hsaves
    · exact h.savers pid' rid' mgr call entry point hreq
  named := h.named
  known := h.known
  failed := h.failed
  settled hnone :=
    have hsettled := h.settled (Clients.noneWriting_of_setRequest hnone hold)
    ⟨hsettled.loads, hsettled.stays, hsettled.saved⟩

/-- A save that is not writing ends, and gives its lock back. -/
theorem finish (h : Durable Y s ledger) (hreq : s.requests pid rid = .saving mgr call entry point)
    (hpoint : ∀ w, point ≠ .writing w) (result : Except Error (Option TunnelEntry)) :
    Durable Y (s.finish pid rid mgr result) ledger := by
  have hold : ¬ s.Writing pid rid := Clients.not_writing_of_eq hreq fun _ _ _ w heq =>
    hpoint w (ConfigRequest.saving.inj heq).2.2.2
  have hreturned : Durable Y (s.setRequest pid rid (.returned result)) ledger :=
    h.setRequest nofun rfl hold
  have hconfig : ∀ mgr', ((s.finish pid rid mgr result).managers mgr').config =
      (s.managers mgr').config := by
    intro mgr'
    unfold Clients.finish Clients.setRequest Clients.setManager
    dsimp only
    by_cases hmgr : mgr' = mgr
    · rw [hmgr, Function.update_self]
    · rw [Function.update_of_ne hmgr]
  refine ⟨h.inner, hreturned.numbers, h.fresh, hreturned.unique, ?_, h.named, ?_, h.failed, ?_⟩
  · intro pid' rid' mgr' call' entry' point' hreq'
    obtain ⟨hlocked, hdone, hready⟩ :=
      hreturned.savers pid' rid' mgr' call' entry' point' hreq'
    -- No other request saves the manager that is unlocked.
    have hne : mgr' ≠ mgr := by
      rintro rfl
      have hsaves : (s.requests pid rid).saves? = some mgr' := by rw [hreq]; rfl
      rw [show (s.finish pid rid mgr' result).requests pid' rid' =
        (s.setRequest pid rid (.returned result)).requests pid' rid' from rfl,
        Clients.setRequest_requests] at hreq'
      split_ifs at hreq' with hsame
      have hsaves' : (s.requests pid' rid').saves? = some mgr' := by rw [hreq']; rfl
      exact hsame (h.unique pid rid pid' rid' mgr' hsaves hsaves')
    rw [hconfig]
    refine ⟨?_, hdone, hready⟩
    rw [show (s.finish pid rid mgr result).managers mgr' = s.managers mgr' from
      Function.update_of_ne hne _ _]
    exact hlocked
  · intro mgr' hmgr' k hk
    rw [hconfig]
    exact h.known mgr' hmgr' k hk
  · intro hnone
    obtain ⟨hloads, hstays, hsaved⟩ := hreturned.settled hnone
    refine ⟨hloads, hstays, fun mgr' hfresh hunsaved => ?_⟩
    rw [hconfig]
    exact hsaved mgr' hfresh hunsaved

/-- The managers that a new one does not replace. -/
theorem newManager_managers (hmgr : mgr < s.nextManager) :
    (s.newManager Y).managers mgr = s.managers mgr :=
  Function.update_of_ne (Nat.ne_of_lt hmgr) _ _

/-- A new manager loads the file while no save is writing it. -/
theorem newManager (h : Durable Y s ledger) (hnone : s.NoneWriting) :
    Durable Y (s.newManager Y) (ledger.after (s.loadEvent Y)) := by
  have hnext : ∀ mgr, mgr < s.nextManager → mgr < s.nextManager + 1 :=
    fun _ hmgr => Nat.lt_succ_of_lt hmgr
  have hsettled := h.settled hnone
  have hsavers : ∀ ledger', ledger'.unsaved = ledger.unsaved →
      ∀ pid rid mgr call entry point, s.requests pid rid = .saving mgr call entry point →
        ((s.newManager Y).managers mgr).locked = true ∧
          call.Done ((s.newManager Y).managers mgr).config entry ∧
            point.Ready Y ((s.newManager Y).managers mgr).config mgr s.file ledger' := by
    intro ledger' hunsaved pid rid mgr call entry point hreq
    obtain ⟨hlocked, hdone, hready⟩ := h.savers pid rid mgr call entry point hreq
    rw [newManager_managers (h.numbers pid rid mgr (by rw [hreq]; rfl))]
    refine ⟨hlocked, hdone, ?_⟩
    cases point with
    | preparing =>
      unfold SavePoint.Ready
      rwa [hunsaved]
    | opening text =>
      unfold SavePoint.Ready
      rwa [hunsaved]
    | writing w => exact absurd ⟨mgr, call, entry, w, hreq⟩ (hnone pid rid)
    | finishing => exact hready
  have hknown : ∀ mgr ∈ ledger.fresh, ∀ k ∈ ledger.kept,
      k.In ((s.newManager Y).managers mgr).config := by
    intro mgr hmgr k hk
    rw [newManager_managers (h.fresh mgr hmgr)]
    exact h.known mgr hmgr k hk
  have hsaved : ∀ mgr ∈ ledger.fresh, mgr ∉ ledger.unsaved →
      TunnelsConfig.load Y s.file = some ((s.newManager Y).managers mgr).config := by
    intro mgr hmgr hunsaved
    rw [newManager_managers (h.fresh mgr hmgr)]
    exact hsettled.saved mgr hmgr hunsaved
  unfold Clients.loadEvent
  cases hload : TunnelsConfig.load Y s.file with
  | none =>
    -- A file that does not load has no fresh manager.
    have hfresh : ledger.fresh = [] := by
      by_contra hne
      have hloads := hsettled.loads hne
      rw [hload] at hloads
      cases hloads
    exact
      { inner := fun pid mgr hmgr => hnext mgr (h.inner pid mgr hmgr)
        numbers := fun pid rid mgr hmgr => hnext mgr (h.numbers pid rid mgr hmgr)
        fresh := fun mgr hmgr => hnext mgr (h.fresh mgr hmgr)
        unique := h.unique
        savers := hsavers _ rfl
        named := h.named
        known := hknown
        failed := fun _ => ⟨hfresh, hload⟩
        settled := fun _ => ⟨hsettled.loads, hsettled.stays, hsaved⟩ }
  | some config =>
    have hnew : ((s.newManager Y).managers s.nextManager).config = config := by
      unfold Clients.newManager Clients.setManager
      dsimp only
      rw [Function.update_self, hload]
      rfl
    have hin : ∀ k ∈ config.tunnels.map Kept.ofEntry ++ ledger.kept, k.In config := by
      intro k hk
      rcases List.mem_append.mp hk with hk | hk
      · obtain ⟨t, ht, rfl⟩ := List.mem_map.mp hk
        exact ⟨t, List.mem_singleton_self t, ht⟩
      · obtain ⟨config', hload', hin⟩ := hsettled.stays k hk
        obtain rfl := Option.some.inj (hload.symm.trans hload')
        exact hin
    -- The fresh managers that stay fresh have the configuration that has been loaded.
    have hsame : ∀ mgr ∈ s.nextManager :: ledger.fresh.filter (· ∉ ledger.unsaved),
        mgr < s.nextManager + 1 ∧ ((s.newManager Y).managers mgr).config = config := by
      intro mgr hmgr
      rcases List.mem_cons.mp hmgr with rfl | hmgr
      · exact ⟨Nat.lt_succ_self _, hnew⟩
      · obtain ⟨hfresh, hunsaved⟩ := List.mem_filter.mp hmgr
        have hload' := hsaved mgr hfresh (of_decide_eq_true hunsaved)
        exact ⟨hnext mgr (h.fresh mgr hfresh), (Option.some.inj (hload.symm.trans hload')).symm⟩
    exact
      { inner := fun pid mgr hmgr => hnext mgr (h.inner pid mgr hmgr)
        numbers := fun pid rid mgr hmgr => hnext mgr (h.numbers pid rid mgr hmgr)
        fresh := fun mgr hmgr => (hsame mgr hmgr).1
        unique := h.unique
        savers := hsavers _ rfl
        named := by
          intro k hk
          rcases List.mem_append.mp hk with hk | hk
          · obtain ⟨t, -, rfl⟩ := List.mem_map.mp hk
            intro t' ht'
            rw [List.mem_singleton.mp ht']
            rfl
          · exact h.named k hk
        known := by
          intro mgr hmgr k hk
          rw [(hsame mgr hmgr).2]
          exact hin k hk
        failed := fun hfailed => absurd (hload.symm.trans (h.failed hfailed).2) nofun
        settled := fun _ =>
          { loads := fun _ => by
              rw [show (s.newManager Y).file = s.file from rfl, hload]
              rfl
            stays := fun k hk => ⟨config, hload, hin k hk⟩
            saved := fun mgr hmgr _ => by
              rw [(hsame mgr hmgr).2]
              exact hload } }

/-- A manager that a waiting request locks is saved by no other. -/
theorem not_saves_of_unlocked (h : Durable Y s ledger) (hunlocked : (s.managers mgr).locked = false)
    (pid rid : ℕ) : (s.requests pid rid).saves? ≠ some mgr := by
  intro hsaves
  cases hreq : s.requests pid rid with
  | saving mgr' call entry point =>
    rw [hreq] at hsaves
    obtain rfl := Option.some.inj hsaves
    have hlocked := (h.savers pid rid mgr' call entry point hreq).1
    rw [hunlocked] at hlocked
    cases hlocked
  | idle | connecting | waiting | returned =>
    rw [hreq] at hsaves
    cases hsaves

/-- An operation changes the configuration of a manager that it has locked. -/
theorem execute (h : Durable Y s ledger) (hreq : s.requests pid rid = .waiting mgr call)
    (hunlocked : (s.managers mgr).locked = false)
    (hcall : (s.managers mgr).config.call newId call = (.ok entry, config')) :
    Durable Y ((s.setManager mgr ⟨config', true⟩).setRequest pid rid
      (.saving mgr call entry .preparing)) (ledger.after (.executed mgr call entry)) := by
  have hmgr : mgr < s.nextManager := h.numbers pid rid mgr (by rw [hreq]; rfl)
  have hself : (s.setManager mgr ⟨config', true⟩).managers mgr = ⟨config', true⟩ :=
    Function.update_self _ _ _
  have hother : ∀ mgr', mgr' ≠ mgr →
      (s.setManager mgr ⟨config', true⟩).managers mgr' = s.managers mgr' :=
    fun mgr' hne => Function.update_of_ne hne _ _
  -- The manager was not locked, so no other request saves it.
  have hne : ∀ pid' rid' mgr', (s.requests pid' rid').saves? = some mgr' → mgr' ≠ mgr := by
    rintro pid' rid' mgr' hsaves rfl
    exact h.not_saves_of_unlocked hunlocked pid' rid' hsaves
  refine
    { inner := h.inner
      numbers := h.numbers_setRequest fun mgr' heq => by rwa [← Option.some.inj heq]
      fresh := h.fresh
      unique := h.unique_setRequest fun mgr' heq pid' rid' hsaves =>
        absurd (Option.some.inj heq).symm (hne pid' rid' mgr' hsaves)
      savers := ?_
      named := ?_
      known := ?_
      failed := h.failed
      settled := ?_ }
  · intro pid' rid' mgr' call' entry' point' hreq'
    rw [Clients.setRequest_requests] at hreq'
    split_ifs at hreq'
    · obtain ⟨rfl, rfl, rfl, rfl⟩ := ConfigRequest.saving.inj hreq'
      rw [Clients.setRequest_managers, hself]
      exact ⟨rfl, ConfigCall.done_of_call hcall, List.mem_cons_self⟩
    · have hsaving : s.requests pid' rid' = .saving mgr' call' entry' point' := hreq'
      obtain ⟨hlocked, hdone, hready⟩ := h.savers pid' rid' mgr' call' entry' point' hsaving
      have hne' : mgr' ≠ mgr := hne pid' rid' mgr' (by rw [hsaving]; rfl)
      rw [Clients.setRequest_managers, hother mgr' hne']
      refine ⟨hlocked, hdone, ?_⟩
      cases point' with
      | preparing => exact List.mem_cons_of_mem _ hready
      | opening text => exact ⟨List.mem_cons_of_mem _ hready.1, hready.2⟩
      | writing w => exact ⟨hready.1, List.mem_cons_of_mem _ hready.2.1, hready.2.2⟩
      | finishing => exact hready
  · intro k' hk'
    obtain ⟨k, hk, hexecuted⟩ := List.mem_filterMap.mp hk'
    exact (h.named k hk).executed hexecuted
  · intro mgr' hmgr' k' hk'
    obtain ⟨k, hk, hexecuted⟩ := List.mem_filterMap.mp hk'
    by_cases hsame : mgr' = mgr
    · subst hsame
      rw [Clients.setRequest_managers, hself]
      exact (Kept.in_call (h.named k hk) (h.known mgr' hmgr' k hk) hcall hexecuted)
    · rw [Clients.setRequest_managers, hother mgr' hsame]
      exact (h.known mgr' hmgr' k hk).executed hexecuted
  · intro hnone
    -- The file stays as it is, and so does what can be loaded.
    have hold : ¬ s.Writing pid rid := Clients.not_writing_of_eq hreq fun _ _ _ _ heq => by
      cases heq
    obtain ⟨hloads, hstays, hsaved⟩ := h.settled (Clients.noneWriting_of_setRequest hnone hold)
    refine ⟨hloads, fun k' hk' => ?_, fun mgr' hmgr' hunsaved => ?_⟩
    · obtain ⟨k, hk, hexecuted⟩ := List.mem_filterMap.mp hk'
      obtain ⟨config, hload, hin⟩ := hstays k hk
      exact ⟨config, hload, hin.executed hexecuted⟩
    · have hne' : mgr' ≠ mgr := fun heq => hunsaved (heq ▸ List.mem_cons_self)
      rw [Clients.setRequest_managers, hother mgr' hne']
      exact hsaved mgr' hmgr' fun hmem => hunsaved (List.mem_cons_of_mem _ hmem)

/-- A save goes on to its next point, and may change the file and what is to be said about it. -/
theorem save (h : Durable Y s ledger) (hreq : s.requests pid rid = .saving mgr call entry point)
    (hothers : ∀ pid' rid' mgr' call' entry' p,
      s.requests pid' rid' = .saving mgr' call' entry' p → mgr' ≠ mgr →
        p.Ready Y (s.managers mgr').config mgr' s.file ledger →
          p.Ready Y (s.managers mgr').config mgr' file' ledger')
    (hown : point'.Ready Y (s.managers mgr).config mgr file' ledger')
    (hfresh : ∀ m ∈ ledger'.fresh, m ∈ ledger.fresh)
    (hkept : ∀ k ∈ ledger'.kept, k.Named ∧ ∀ m ∈ ledger'.fresh, k.In (s.managers m).config)
    (hfailed : ledger'.loadFailed = true → ledger'.fresh = [] ∧ TunnelsConfig.load Y file' = none)
    (hsettled : ({ s with file := file' }.setRequest pid rid
      (.saving mgr call entry point')).NoneWriting → Settled Y { s with file := file' } ledger') :
    Durable Y ({ s with file := file' }.setRequest pid rid (.saving mgr call entry point'))
      ledger' := by
  have hmgr : mgr < s.nextManager := h.numbers pid rid mgr (by rw [hreq]; rfl)
  have hsaves : (s.requests pid rid).saves? = some mgr := by rw [hreq]; rfl
  refine
    { inner := h.inner
      numbers := h.numbers_setRequest fun mgr' heq => by rwa [← Option.some.inj heq]
      fresh := fun m hm => h.fresh m (hfresh m hm)
      unique := h.unique_setRequest fun mgr' heq pid' rid' hsaves' =>
        h.unique pid rid pid' rid' mgr' (hsaves.trans heq) hsaves'
      savers := ?_
      named := fun k hk => (hkept k hk).1
      known := fun m hm k hk => (hkept k hk).2 m hm
      failed := hfailed
      settled := fun hnone => ?_ }
  · intro pid' rid' mgr' call' entry' p hreq'
    rw [Clients.setRequest_requests] at hreq'
    split_ifs at hreq' with hsame
    · obtain ⟨rfl, rfl, rfl, rfl⟩ := ConfigRequest.saving.inj hreq'
      obtain ⟨hlocked, hdone, -⟩ := h.savers pid rid mgr call entry point hreq
      exact ⟨hlocked, hdone, hown⟩
    · obtain ⟨hlocked, hdone, hready⟩ := h.savers pid' rid' mgr' call' entry' p hreq'
      refine ⟨hlocked, hdone, hothers pid' rid' mgr' call' entry' p hreq' ?_ hready⟩
      rintro rfl
      exact hsame (h.unique pid rid pid' rid' mgr' hsaves (by rw [hreq']; rfl))
  · obtain ⟨hloads, hstays, hsaved⟩ := hsettled hnone
    exact ⟨hloads, hstays, hsaved⟩

/-- The configuration is serialized. -/
theorem prepare (h : Durable Y s ledger)
    (hreq : s.requests pid rid = .saving mgr call entry .preparing) {text : String}
    (htext : Y.toString (s.managers mgr).config = .ok text) :
    Durable Y (s.setRequest pid rid (.saving mgr call entry (.opening text))) ledger := by
  have hunsaved : mgr ∈ ledger.unsaved := (h.savers pid rid mgr call entry .preparing hreq).2.2
  have hold : ¬ s.Writing pid rid := Clients.not_writing_of_eq hreq fun _ _ _ _ heq => by
    cases heq
  have hsaved : Durable Y ({ s with file := s.file }.setRequest pid rid
      (.saving mgr call entry (.opening text))) ledger := by
    refine h.save hreq (fun _ _ _ _ _ _ _ _ hready => hready) ⟨hunsaved, htext⟩ (fun m hm => hm)
      (fun k hk => ⟨h.named k hk, fun m hm => h.known m hm k hk⟩) h.failed fun hnone => ?_
    exact h.settled (Clients.noneWriting_of_setRequest hnone hold)
  exact hsaved

/-- Nobody is writing when a fresh manager is about to open the file. -/
theorem noneWriting_of_fresh (h : Durable Y s ledger)
    (hreq : s.requests pid rid = .saving mgr call entry point) (hpoint : ∀ w, point ≠ .writing w)
    (hfresh : mgr ∈ ledger.fresh) : s.NoneWriting := by
  rintro pid' rid' ⟨mgr', call', entry', w, hreq'⟩
  have honly : ledger.fresh = [mgr'] :=
    (h.savers pid' rid' mgr' call' entry' (.writing w) hreq').2.2.1
  rw [honly] at hfresh
  obtain rfl := List.mem_singleton.mp hfresh
  obtain ⟨rfl, rfl⟩ := h.unique pid rid pid' rid' mgr (by rw [hreq]; rfl) (by rw [hreq']; rfl)
  rw [hreq] at hreq'
  exact hpoint w (ConfigRequest.saving.inj hreq').2.2.2

/-- A file that loads is truncated to a readable one. -/
theorem create_readable {file : Option File} (h : (TunnelsConfig.load Y file).isSome = true) :
    (FileSystem.create file).readable = true := by
  cases file with
  | none => rfl
  | some f =>
    by_contra hreadable
    have hnone : f.readToString = none := if_neg hreadable
    rw [TunnelsConfig.load_some, hnone] at h
    cases h

/-- The file is truncated by a manager that is not behind it. -/
theorem truncate (h : Durable Y s ledger) {text : String}
    (hreq : s.requests pid rid = .saving mgr call entry (.opening text))
    (hfresh : mgr ∈ ledger.fresh) :
    Durable Y ({ s with file := some (FileSystem.create s.file) }.setRequest pid rid
      (.saving mgr call entry (.writing ⟨0, Bytes.asBytes text⟩)))
      (ledger.after (.truncated mgr)) := by
  obtain ⟨hunsaved, htext⟩ := (h.savers pid rid mgr call entry (.opening text) hreq).2.2
  have hnone : s.NoneWriting := h.noneWriting_of_fresh hreq (fun _ => nofun) hfresh
  have hloads : (TunnelsConfig.load Y s.file).isSome = true :=
    (h.settled hnone).loads (List.ne_nil_of_mem hfresh)
  refine h.save hreq ?_ ?_ ?_ ?_ nofun ?_
  · intro pid' rid' mgr' call' entry' p hreq' hne hready
    cases p with
    | preparing | opening => exact hready
    | writing w => exact absurd ⟨mgr', call', entry', w, hreq'⟩ (hnone pid' rid')
    | finishing =>
      obtain ⟨f, hf, hreadable⟩ := hready
      refine ⟨_, rfl, ?_⟩
      rw [hf]
      exact hreadable
  · exact ⟨rfl, hunsaved, text, _, htext, rfl, create_readable hloads, Descriptor.behind_create _ _⟩
  · intro m hm
    rwa [List.mem_singleton.mp hm]
  · intro k hk
    refine ⟨h.named k hk, fun m hm => ?_⟩
    rw [List.mem_singleton.mp hm]
    exact h.known mgr hfresh k hk
  · exact fun hnone' => absurd (Clients.writing_setRequest _ pid rid mgr call entry _)
      (hnone' pid rid)

/-- While a save is writing, every other is before its truncation or after its write. -/
theorem ready_of_writing {w : Descriptor} {f : File} (h : Durable Y s ledger)
    (hreq : s.requests pid rid = .saving mgr call entry (.writing w)) (hfile : s.file = some f)
    {f' : File} (hreadable : f'.readable = f.readable)
    (hunsaved : ∀ m ∈ ledger.unsaved, m ≠ mgr → m ∈ ledger'.unsaved) :
    ∀ pid' rid' mgr' call' entry' p, s.requests pid' rid' = .saving mgr' call' entry' p →
      mgr' ≠ mgr → p.Ready Y (s.managers mgr').config mgr' s.file ledger →
        p.Ready Y (s.managers mgr').config mgr' (some f') ledger' := by
  intro pid' rid' mgr' call' entry' p _ hne hready
  have honly : ledger.fresh = [mgr] := (h.savers pid rid mgr call entry (.writing w) hreq).2.2.1
  cases p with
  | preparing => exact hunsaved mgr' hready hne
  | opening text => exact ⟨hunsaved mgr' hready.1 hne, hready.2⟩
  | writing w' => exact absurd (List.cons.inj (hready.1.symm.trans honly)).1 hne
  | finishing =>
    obtain ⟨g, hg, hread⟩ := hready
    obtain rfl := Option.some.inj (hfile.symm.trans hg)
    exact ⟨f', rfl, hreadable.trans hread⟩

/-- A piece of the text is written, and there is more. -/
theorem writePiece {w : Descriptor} {f : File} (h : Durable Y s ledger)
    (hreq : s.requests pid rid = .saving mgr call entry (.writing w)) (hfile : s.file = some f)
    (n : ℕ) :
    Durable Y ({ s with file := some (w.write n f).2 }.setRequest pid rid
      (.saving mgr call entry (.writing (w.write n f).1))) ledger := by
  obtain ⟨honly, hunsaved, text, g, htext, hg, hreadable, hbehind⟩ :=
    (h.savers pid rid mgr call entry (.writing w) hreq).2.2
  obtain rfl := Option.some.inj (hfile.symm.trans hg)
  refine h.save hreq
    (h.ready_of_writing hreq hfile (w.write_readable n f) fun m hm _ => hm) ?_ (fun m hm => hm)
    (fun k hk => ⟨h.named k hk, fun m hm => h.known m hm k hk⟩) ?_ ?_
  · exact ⟨honly, hunsaved, text, _, htext, rfl, hreadable, hbehind.write n⟩
  · intro hfailed
    have hfresh := (h.failed hfailed).1
    rw [honly] at hfresh
    cases hfresh
  · exact fun hnone => absurd (Clients.writing_setRequest _ pid rid mgr call entry _)
      (hnone pid rid)

/-- The last piece of the text is written. -/
theorem writeLast {w : Descriptor} {f : File} (hY : Y.Lawful) (h : Durable Y s ledger)
    (hreq : s.requests pid rid = .saving mgr call entry (.writing w)) (hfile : s.file = some f)
    {n : ℕ} (hrest : (w.write n f).1.rest = []) :
    Durable Y ({ s with file := some (w.write n f).2 }.setRequest pid rid
      (.saving mgr call entry .finishing)) (ledger.after (.written mgr call entry)) := by
  obtain ⟨-, hdone, honly, hunsaved, text, g, htext, hg, hreadable, hbehind⟩ :=
    h.savers pid rid mgr call entry (.writing w) hreq
  obtain rfl := Option.some.inj (hfile.symm.trans hg)
  have hfresh : mgr ∈ ledger.fresh := by
    rw [honly]
    exact List.mem_singleton_self _
  -- The text is complete, and loads as what the manager has.
  have hload : TunnelsConfig.load Y (some (w.write n f).2) = some (s.managers mgr).config := by
    have hread := (hbehind.write n).read hrest hreadable
    rw [TunnelsConfig.load_some, hread, Option.bind_some]
    exact hY _ _ htext
  -- What is kept from now on is what the save contains.
  have hkept : ∀ k ∈ ledger.kept.map (Kept.written call entry),
      k.Named ∧ k.In (s.managers mgr).config := by
    intro k' hk'
    obtain ⟨k, hk, rfl⟩ := List.mem_map.mp hk'
    exact ⟨(h.named k hk).written, (h.known mgr hfresh k hk).written hdone⟩
  refine h.save hreq (h.ready_of_writing hreq hfile (w.write_readable n f) ?_) ⟨_, rfl, hreadable⟩
    (fun m hm => hm) ?_ ?_ ?_
  · exact fun m hm hne => List.mem_filter.mpr ⟨hm, decide_eq_true hne⟩
  · intro k hk
    refine ⟨(hkept k hk).1, fun m hm => ?_⟩
    have hm : m ∈ ledger.fresh := hm
    rw [honly] at hm
    rw [List.mem_singleton.mp hm]
    exact (hkept k hk).2
  · intro hfailed
    have hnone := (h.failed hfailed).1
    rw [honly] at hnone
    cases hnone
  · intro _
    refine ⟨fun _ => ?_, fun k hk => ⟨_, hload, (hkept k hk).2⟩, fun m hm _ => ?_⟩
    · exact Option.isSome_iff_exists.mpr ⟨_, hload⟩
    · have hm : m ∈ ledger.fresh := hm
      rw [honly] at hm
      rw [List.mem_singleton.mp hm]
      exact hload

/-- A process dies while none of its saves is writing. -/
theorem die (h : Durable Y s ledger) (hnot : ∀ rid, ¬ s.Writing pid rid) (running : ℕ → Bool) :
    Durable Y { s.setInner pid none with
      running
      requests := Function.update s.requests pid fun _ => .idle } ledger := by
  have hinner : Durable Y (s.setInner pid none) ledger := h.setInner nofun
  have hrequests : ∀ pid' rid', (Function.update s.requests pid fun _ => .idle) pid' rid' =
      if pid' = pid then .idle else s.requests pid' rid' := by
    intro pid' rid'
    by_cases hpid : pid' = pid
    · rw [hpid, Function.update_self, if_pos rfl]
    · rw [Function.update_of_ne hpid, if_neg hpid]
  refine
    { inner := hinner.inner
      numbers := fun pid' rid' mgr hmgr => ?_
      fresh := h.fresh
      unique := fun pid₁ rid₁ pid₂ rid₂ mgr h₁ h₂ => ?_
      savers := fun pid' rid' mgr call entry point hreq => ?_
      named := h.named
      known := h.known
      failed := h.failed
      settled := fun hnone => ?_ }
  · dsimp only at hmgr
    rw [hrequests] at hmgr
    split_ifs at hmgr
    · cases hmgr
    · exact h.numbers pid' rid' mgr hmgr
  · dsimp only at h₁ h₂
    rw [hrequests] at h₁ h₂
    split_ifs at h₁ h₂
    · cases h₁
    · cases h₁
    · cases h₂
    · exact h.unique pid₁ rid₁ pid₂ rid₂ mgr h₁ h₂
  · dsimp only at hreq
    rw [hrequests] at hreq
    split_ifs at hreq
    exact h.savers pid' rid' mgr call entry point hreq
  · -- The requests of the process were not writing, so none is written off.
    have hnone' : s.NoneWriting := by
      rintro pid' rid' hwriting
      have hpid : pid' ≠ pid := by
        rintro rfl
        exact hnot rid' hwriting
      obtain ⟨mgr, call, entry, w, hreq⟩ := hwriting
      refine hnone pid' rid' ⟨mgr, call, entry, w, ?_⟩
      dsimp only
      rw [hrequests, if_neg hpid]
      exact hreq
    obtain ⟨hloads, hstays, hsaved⟩ := h.settled hnone'
    exact ⟨hloads, hstays, hsaved⟩

/-- A process starts. -/
theorem setRunning (h : Durable Y s ledger) (running : ℕ → Bool) :
    Durable Y { s with running } ledger :=
  ⟨h.inner, h.numbers, h.fresh, h.unique, h.savers, h.named, h.known, h.failed,
    fun hnone => ⟨(h.settled hnone).loads, (h.settled hnone).stays, (h.settled hnone).saved⟩⟩

/-- A step preserves the invariant if the saves are safe. -/
theorem step {r r' : ClientRun} {l : ℕ × ClientStep} (hY : Y.Lawful)
    (h : Durable Y r.clients r.ledger) (hsafe : SavesSafely r l)
    (hstep : persistStep Y r l = some r') :
    Durable Y r'.clients r'.ledger := by
  obtain ⟨pid, l⟩ := l
  obtain ⟨s, ledger⟩ := r
  obtain ⟨⟨s', e⟩, hs, rfl⟩ := Option.map_eq_some_iff.mp hstep
  have hidle : ∀ {rid request}, s.requests pid rid = request → request.saves? = none →
      ¬ s.Writing pid rid := by
    intro rid request hreq hsaves
    refine Clients.not_writing_of_eq hreq fun mgr call entry w heq => ?_
    rw [heq] at hsaves
    cases hsaves
  dsimp only at h hs ⊢
  unfold clientStep at hs
  cases hrunning : s.running pid with
  | false =>
    rw [hrunning] at hs
    cases l with
    | start credentials =>
      dsimp only at hs
      split_ifs at hs with hcredentials
      · obtain ⟨rfl, rfl⟩ := Prod.mk.inj (Option.some.inj hs)
        subst hcredentials
        have hstarted : Durable Y { s with running := Function.update s.running pid true } ledger :=
          h.setRunning _
        have hnew := hstarted.newManager hsafe
        refine hnew.setInner fun mgr hmgr => ?_
        rw [← Option.some.inj hmgr]
        exact Nat.lt_succ_self _
      · obtain ⟨rfl, rfl⟩ := Prod.mk.inj (Option.some.inj hs)
        exact h.setRunning _
    | _ => cases hs
  | true =>
    rw [hrunning] at hs
    cases l with
    | start => cases hs
    | die =>
      obtain ⟨rfl, rfl⟩ := Prod.mk.inj (Option.some.inj hs)
      exact h.die hsafe _
    | connect rid save =>
      dsimp only at hs
      split at hs
      · rename_i hreq
        have hinner : Durable Y (s.setInner pid none) ledger := h.setInner nofun
        split at hs
        · obtain ⟨rfl, rfl⟩ := Prod.mk.inj (Option.some.inj hs)
          exact hinner.setRequest nofun rfl (hidle hreq rfl)
        · obtain ⟨rfl, rfl⟩ := Prod.mk.inj (Option.some.inj hs)
          refine (hinner.newManager hsafe).setRequest (fun mgr hmgr => ?_) rfl (hidle hreq rfl)
          rw [← Option.some.inj hmgr]
          exact Nat.lt_succ_self _
      · cases hs
    | install rid =>
      dsimp only at hs
      split at hs
      · rename_i mgr hreq
        obtain ⟨rfl, rfl⟩ := Prod.mk.inj (Option.some.inj hs)
        have hmgr : mgr < s.nextManager := h.numbers pid rid mgr (by rw [hreq]; rfl)
        have hinner : Durable Y (s.setInner pid (some mgr)) ledger :=
          h.setInner fun mgr' heq => by rwa [← Option.some.inj heq]
        exact hinner.setRequest nofun rfl (hidle hreq rfl)
      · cases hs
    | disconnect =>
      obtain ⟨rfl, rfl⟩ := Prod.mk.inj (Option.some.inj hs)
      exact h.setInner nofun
    | request rid call =>
      dsimp only at hs
      split at hs
      · rename_i mgr hreq hinner
        obtain ⟨rfl, rfl⟩ := Prod.mk.inj (Option.some.inj hs)
        refine h.setRequest (fun mgr' hmgr' => ?_) rfl (hidle hreq rfl)
        rw [← Option.some.inj hmgr']
        exact h.inner pid mgr hinner
      · rename_i hreq _
        obtain ⟨rfl, rfl⟩ := Prod.mk.inj (Option.some.inj hs)
        exact h.setRequest nofun rfl (hidle hreq rfl)
      · cases hs
    | lock rid newId =>
      dsimp only at hs
      split at hs
      · rename_i mgr call hreq
        split_ifs at hs with hlocked
        split at hs
        · obtain ⟨rfl, rfl⟩ := Prod.mk.inj (Option.some.inj hs)
          exact h.setRequest nofun rfl (hidle hreq rfl)
        · rename_i entry config hcall
          obtain ⟨rfl, rfl⟩ := Prod.mk.inj (Option.some.inj hs)
          exact h.execute hreq (Bool.eq_false_iff.mpr hlocked) hcall
      · cases hs
    | prepare rid directory =>
      dsimp only at hs
      split at hs
      · rename_i mgr call entry hreq
        split at hs
        · obtain ⟨rfl, rfl⟩ := Prod.mk.inj (Option.some.inj hs)
          exact h.finish hreq (fun _ => nofun) _
        · obtain ⟨rfl, rfl⟩ := Prod.mk.inj (Option.some.inj hs)
          exact h.finish hreq (fun _ => nofun) _
        · rename_i text htext
          obtain ⟨rfl, rfl⟩ := Prod.mk.inj (Option.some.inj hs)
          exact h.prepare hreq htext
      · cases hs
    | create rid opened =>
      dsimp only at hs
      split at hs
      · rename_i mgr call entry text hreq
        split at hs
        · obtain ⟨rfl, rfl⟩ := Prod.mk.inj (Option.some.inj hs)
          exact h.finish hreq (fun _ => nofun) _
        · obtain ⟨rfl, rfl⟩ := Prod.mk.inj (Option.some.inj hs)
          exact h.truncate hreq (hsafe mgr call entry _ hreq)
      · cases hs
    | write rid written =>
      dsimp only at hs
      split at hs
      · rename_i mgr call entry w file hreq hfile
        split at hs
        · exact absurd hsafe id
        · rename_i n
          split_ifs at hs with hrest
          · obtain ⟨rfl, rfl⟩ := Prod.mk.inj (Option.some.inj hs)
            exact h.writeLast hY hreq hfile hrest
          · obtain ⟨rfl, rfl⟩ := Prod.mk.inj (Option.some.inj hs)
            exact h.writePiece hreq hfile (n + 1)
      · cases hs
    | setPermissions rid set =>
      dsimp only at hs
      split at hs
      · rename_i mgr call entry hreq
        split at hs
        · obtain ⟨rfl, rfl⟩ := Prod.mk.inj (Option.some.inj hs)
          exact h.finish hreq (fun _ => nofun) _
        · obtain ⟨rfl, rfl⟩ := Prod.mk.inj (Option.some.inj hs)
          -- The file has been readable before.
          obtain ⟨⟨readable, bytes⟩, hfile, rfl⟩ :=
            (h.savers pid rid mgr call entry .finishing hreq).2.2
          have hsame : s.file.map (fun file => { file with readable := true }) = s.file := by
            rw [hfile]
            rfl
          rw [hsame]
          exact h.finish hreq (fun _ => nofun) _
      · cases hs

/-- A step spares a file whose load failed if the saves are safe. -/
theorem sparesFailed {r r' : ClientRun} {l : ℕ × ClientStep} (h : Durable Y r.clients r.ledger)
    (hsafe : SavesSafely r l) (hstep : persistStep Y r l = some r') : SparesFailed r l r' := by
  obtain ⟨pid, l⟩ := l
  obtain ⟨⟨s', e⟩, hs, -⟩ := Option.map_eq_some_iff.mp hstep
  intro hoverwrites
  -- The file is truncated and written with a fresh manager, and after a failed load there is none.
  have hfresh : r.ledger.fresh ≠ [] := by
    unfold clientStep at hs
    dsimp only at hs hoverwrites
    cases hrunning : r.clients.running pid with
    | false =>
      rw [hrunning] at hs
      cases l with
      | start => cases hoverwrites
      | _ => cases hs
    | true =>
      rw [hrunning] at hs
      cases l with
      | create rid opened =>
        dsimp only at hs
        split at hs
        · rename_i mgr call entry text hreq
          cases opened with
          | error => cases hoverwrites
          | ok => exact List.ne_nil_of_mem (hsafe mgr call entry _ hreq)
        · cases hs
      | write rid written =>
        dsimp only at hs
        split at hs
        · rename_i mgr call entry w file hreq hfile
          rw [(h.savers pid rid mgr call entry (.writing w) hreq).2.2.1]
          exact List.cons_ne_nil _ _
        · cases hs
      | _ => cases hoverwrites
  exact Bool.eq_false_iff.mpr fun hfailed => hfresh (h.failed hfailed).1

end Durable

/-! ## The runs -/

/-- Along a run whose saves are all safe, no file is overwritten whose load failed, and every entry
of a file that loaded is loaded again, with its last updated values, until its removal. -/
theorem tunnels_survive (Y : Yaml) (hY : Y.Lawful) (file : Option File)
    (labels : List (ℕ × ClientStep))
    (hsafe : Meets (persistStep Y) SavesSafely (.new file) labels) :
    Steps (persistStep Y) SparesFailed (.new file) labels ∧
      Visits (persistStep Y) (EntriesStay Y) (.new file) labels := by
  have hstep : ∀ r l r', Durable Y r.clients r.ledger → SavesSafely r l →
      persistStep Y r l = some r' → Durable Y r'.clients r'.ledger ∧ SparesFailed r l r' :=
    fun r l r' h hsafe hstep => ⟨h.step hY hsafe hstep, h.sparesFailed hsafe hstep⟩
  obtain ⟨hspares, hdurable⟩ := holds_of_meets hstep (Durable.new Y file) hsafe
  exact ⟨hspares, hdurable.mono fun r h hnone => (h.settled hnone).stays⟩

/-- A `serde_yaml` that knows some configurations and their texts, and fails on every other. -/
def Yaml.ofTexts (texts : List (TunnelsConfig × String)) : Yaml where
  toString config :=
    match texts.find? (·.1 = config) with
    | some p => .ok p.2
    | none => .error "unsupported"
  fromStr text := (texts.find? (·.2 = text)).map (·.1)

/-- It is lawful when no two configurations have one text. -/
theorem Yaml.ofTexts_lawful {texts : List (TunnelsConfig × String)}
    (h : (texts.map (·.2)).Nodup) : (Yaml.ofTexts texts).Lawful := by
  intro config text htext
  unfold ofTexts at htext ⊢
  dsimp only at htext ⊢
  split at htext
  · rename_i p hp
    obtain rfl := Except.ok.inj htext
    have hconfig : p.1 = config := by simpa using List.find?_some hp
    have hfound : (texts.find? (·.2 = p.2)).isSome = true :=
      List.find?_isSome.mpr ⟨p, List.mem_of_find?_eq_some hp, decide_eq_true rfl⟩
    obtain ⟨q, hq⟩ := Option.isSome_iff_exists.mp hfound
    have htexts : q.2 = p.2 := by simpa using List.find?_some hq
    have hsame : q = p := List.inj_on_of_nodup_map h (List.mem_of_find?_eq_some hq)
      (List.mem_of_find?_eq_some hp) htexts
    rw [hq, hsame, Option.map_some, hconfig]
  · cases htext

/-- The entries of two tunnels. -/
def webEntry : TunnelEntry := ⟨"a1", "web", "localhost:3000", true⟩

@[inherit_doc webEntry]
def apiEntry : TunnelEntry := ⟨"b2", "api", "localhost:4000", false⟩

/-- The texts of these entries. -/
def webText : String :=
  "- id: a1\n  client_id: web\n  local_addr: localhost:3000\n  enabled: true\n"

@[inherit_doc webText]
def apiText : String :=
  "- id: b2\n  client_id: api\n  local_addr: localhost:4000\n  enabled: false\n"

/-- A `serde_yaml` that knows the configurations of these entries. -/
def webYaml : Yaml := .ofTexts
  [(⟨[webEntry]⟩, "tunnels:\n" ++ webText), (⟨[apiEntry]⟩, "tunnels:\n" ++ apiText),
    (⟨[webEntry, apiEntry]⟩, "tunnels:\n" ++ webText ++ apiText)]

/-- It is lawful. -/
theorem webYaml_lawful : webYaml.Lawful := Yaml.ofTexts_lawful (by decide +kernel)

/-- The file of a client with one tunnel. -/
def webFile : File := ⟨true, Bytes.asBytes ("tunnels:\n" ++ webText)⟩

/-- A client adds a tunnel beside the one in its file, up to the truncation of the file. -/
def addApi : List (ℕ × ClientStep) :=
  [(0, .start true), (0, .request 0 (.add ⟨"", "api", "localhost:4000", false⟩)), (0, .lock 0 "b2"),
    (0, .prepare 0 (.ok ())), (0, .create 0 (.ok ()))]

/-- Its truncation is safe. -/
theorem savesSafely_addApi :
    Meets (persistStep webYaml) SavesSafely (.new (some webFile)) addApi := by
  have hnone : (ClientRun.new (some webFile)).clients.NoneWriting := by
    rintro pid rid ⟨mgr, call, entry, w, hreq⟩
    cases hreq
  refine fun r₁ h₁ => ⟨hnone, fun r₂ h₂ => ⟨trivial, fun r₃ h₃ => ⟨trivial, fun r₄ h₄ =>
    ⟨trivial, fun r₅ h₅ => ⟨fun mgr call entry point hreq => ?_, trivial⟩⟩⟩⟩⟩
  have hrun : exec (persistStep webYaml) (.new (some webFile)) (addApi.take 4) = some r₄ :=
    exec_cons.mpr ⟨r₁, h₁, exec_cons.mpr ⟨r₂, h₂, exec_cons.mpr ⟨r₃, h₃, exec_cons.mpr
      ⟨r₄, h₄, rfl⟩⟩⟩⟩
  have hstate : ((exec (persistStep webYaml) (.new (some webFile)) (addApi.take 4)).map fun r =>
      ((r.clients.requests 0 0).mgr?, r.ledger.fresh)) = some (some 0, [0]) := by decide +kernel
  rw [hrun] at hstate
  obtain ⟨hmgr, hfresh⟩ := Prod.mk.inj (Option.some.inj hstate)
  rw [hreq] at hmgr
  rw [hfresh, Option.some.inj hmgr]
  exact List.mem_singleton_self _

/-- The tunnels survive when the save is completed. -/
theorem tunnels_survive_add :
    Steps (persistStep webYaml) SparesFailed (.new (some webFile))
        (addApi ++
          [(0, .write 0 (.ok 99)), (0, .write 0 (.ok 99)), (0, .setPermissions 0 (.ok ()))]) ∧
      Visits (persistStep webYaml) (EntriesStay webYaml) (.new (some webFile))
        (addApi ++
          [(0, .write 0 (.ok 99)), (0, .write 0 (.ok 99)), (0, .setPermissions 0 (.ok ()))]) := by
  refine tunnels_survive webYaml webYaml_lawful _ _ ?_
  have hopen : (exec (persistStep webYaml) (.new (some webFile)) addApi).isSome = true := by
    decide +kernel
  obtain ⟨r, hr⟩ := Option.isSome_iff_exists.mp hopen
  exact Steps.append savesSafely_addApi hr fun _ _ => ⟨trivial, fun _ _ => ⟨trivial, fun _ _ =>
    ⟨trivial, trivial⟩⟩⟩

/-- A process dies in the middle of a save. Then the file does not load, and the next process
overwrites it. -/
theorem tunnels_lost :
    ¬ ∀ Y : Yaml, Y.Lawful → ∀ (file : Option File) (labels : List (ℕ × ClientStep)),
      Steps (persistStep Y) SparesFailed (.new file) labels ∧
        Visits (persistStep Y) (EntriesStay Y) (.new file) labels := by
  intro h
  let labels := addApi ++ [(0, .write 0 (.ok 17)), (0, .die)] ++ addApi.take 4
  have hsteps := (h webYaml webYaml_lawful (some webFile) (labels ++ [(0, .create 0 (.ok ()))])).1
  have hrun : ((exec (persistStep webYaml) (.new (some webFile)) labels).map fun r =>
      (r.ledger.loadFailed, (persistStep webYaml r (0, .create 0 (.ok ()))).isSome)) =
      some (true, true) := by decide +kernel
  obtain ⟨r, hrun, hr⟩ := Option.map_eq_some_iff.mp hrun
  obtain ⟨hfailed, hcreate⟩ := Prod.mk.inj hr
  obtain ⟨r', hcreate⟩ := Option.isSome_iff_exists.mp hcreate
  have hspares : r.ledger.loadFailed = false := hsteps.last hrun hcreate rfl
  rw [hfailed] at hspares
  cases hspares

end ZoTunnel
