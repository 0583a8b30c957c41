import ZoTunnel.Server.Caddy

/-!
# Displaced endpoints

Every PATCH of the server displaces the endpoint that another application had in Caddy. A
`CaddyHistory` keeps a record of the displaced endpoints, over any number of crashes. The server
itself has one slot for a fallback, and starts with an empty one. `remembered_iff` says along which
runs every displaced endpoint keeps being consulted.
-/

namespace ZoTunnel

open Transition

/-- A server beside Caddy, with the endpoints of other applications that it has displaced. -/
structure CaddyHistory where
  host : CaddyHost
  displaced : List String
  /-- The endpoint of another application that the last GET of `register` has found. -/
  found : Option String
  deriving DecidableEq, Repr

/-- A server at its start, which has displaced nothing. -/
def CaddyHistory.new (ourEndpoint : String) (endpoint : Option String) : CaddyHistory :=
  ⟨.new ourEndpoint endpoint, [], none⟩

/-- Whether a step is a PATCH to the server's endpoint that Caddy carries out. -/
def HostStep.displaces : HostStep → Bool
  | .server (.registerPatch reply) | .server (.watchdogPatch reply) => reply ≠ .failed
  | _ => false

/-- What the last GET of `register` has found, after a step. -/
def CaddyHistory.foundAfter (s : CaddyHistory) : HostStep → Option String
  | .server (.registerGet ok) => if ok then s.host.other else none
  | _ => s.found

/-- One step of a server that never shuts down, with the record of what it displaces. -/
def historyStep (s : CaddyHistory) (l : HostStep) : Option CaddyHistory :=
  match l with
  | .server .shutdown | .server (.unregisterPatch _) => none
  | _ =>
    (hostStep s.host l).map fun host =>
      ⟨host, if l.displaces then s.host.other.toList ++ s.displaced else s.displaced,
        s.foundAfter l⟩

/-- A server that answers TLS checks consults every endpoint that it has displaced. -/
def Remembers (s : CaddyHistory) : Prop :=
  s.host.server.main = .serving ∨ s.host.server.main = .failed →
    ∀ e ∈ s.displaced, Consults s.host.server.tlsManager e

/-- The slot is not taken from a displaced endpoint, and no endpoint is displaced that is not in
it. -/
def KeepsDisplaced (s : CaddyHistory) : HostStep → Prop
  | .server .watchdogSave =>
    -- The only displaced endpoint is the one that is saved.
    ∀ current, s.host.server.watchdog = .saving current → ∀ e ∈ s.displaced, e = current
  | .server (.watchdogPatch reply) =>
    -- Caddy still has the endpoint that was saved.
    reply ≠ .failed → ∀ e, s.host.other = some e →
      s.host.server.manager.fallbackEndpoint = some e
  | .server (.registerPatch .ok) =>
    -- Caddy has the endpoint that the GET found, or none, and no other was displaced before.
    (s.host.other = none ∨ s.host.other = s.found) ∧ ∀ e ∈ s.displaced, s.found = some e
  | .server (.registerPatch reply) =>
    -- A server that fails to register has displaced nothing.
    s.displaced = [] ∧ (reply ≠ .failed → s.host.other = none)
  | _ => True

/-- A server with a `CaddyManager` consults its fallback. -/
theorem consults_manager_iff {manager : CaddyManager} {e : String} :
    Consults (some manager) e ↔ manager.fallbackEndpoint = some e := by
  rw [consults_iff]
  constructor
  · rintro ⟨m, hm, hslot⟩
    rw [Option.some.inj hm, hslot]
  · exact fun hslot => ⟨manager, rfl, hslot⟩

/-- A server without a `CaddyManager` consults nothing. -/
theorem not_consults_none {e : String} : ¬ Consults none e := by
  rw [consults_iff]
  exact fun ⟨m, hm, _⟩ => by cases hm

/-- A serving server that remembers has every displaced endpoint in its slot. -/
theorem Remembers.slot {s : CaddyHistory} (h : Remembers s)
    (hmain : s.host.server.main = .serving) (e : String) (he : e ∈ s.displaced) :
    s.host.server.manager.fallbackEndpoint = some e := by
  have hconsults := h (.inl hmain) e he
  unfold CaddyServer.tlsManager at hconsults
  rw [hmain] at hconsults
  exact consults_manager_iff.mp hconsults

/-- A serving server remembers when every displaced endpoint is in its slot. -/
theorem remembers_of_slot {s : CaddyHistory} (hmain : s.host.server.main = .serving)
    (h : ∀ e ∈ s.displaced, s.host.server.manager.fallbackEndpoint = some e) : Remembers s := by
  intro _ e he
  unfold CaddyServer.tlsManager
  rw [hmain]
  exact consults_manager_iff.mpr (h e he)

/-- A server that failed to register remembers nothing. -/
theorem remembers_failed {s : CaddyHistory} (hmain : s.host.server.main = .failed) :
    Remembers s ↔ s.displaced = [] := by
  have hmgr : s.host.server.tlsManager = none := by
    unfold CaddyServer.tlsManager
    rw [if_pos hmain]
  unfold Remembers
  simp only [hmain, hmgr, not_consults_none, or_true, forall_const, List.eq_nil_iff_forall_not_mem]

/-- A server that does not answer yet forgets nothing. -/
theorem remembers_of_silent {s : CaddyHistory} (hserving : s.host.server.main ≠ .serving)
    (hfailed : s.host.server.main ≠ .failed) : Remembers s := by
  rintro (h | h)
  · exact absurd h hserving
  · exact absurd h hfailed

/-- A step is one of the server, with its record, or a PATCH by another application. -/
theorem historyStep_cases {s s' : CaddyHistory} {l : HostStep} (h : historyStep s l = some s') :
    (∃ step, l = .server step ∧ (step ≠ .shutdown ∧ ∀ reply, step ≠ .unregisterPatch reply) ∧
      CaddyRule s.host.server s.host.endpoint step s'.host.server s'.host.endpoint ∧
      s'.displaced =
        (if l.displaces then s.host.other.toList ++ s.displaced else s.displaced) ∧
      s'.found = s.foundAfter l) ∨
    (∃ e, l = .other e) ∧ s'.host.server = s.host.server ∧ s'.displaced = s.displaced ∧
      s'.found = s.found := by
  unfold historyStep at h
  split at h
  · cases h
  · cases h
  · rename_i hshutdown hunregister
    obtain ⟨host, hstep, rfl⟩ := Option.map_eq_some_iff.mp h
    cases l with
    | server step =>
      obtain ⟨⟨server, endpoint⟩, hserver, rfl⟩ := Option.map_eq_some_iff.mp hstep
      refine .inl ⟨step, rfl, ⟨?_, ?_⟩, caddyStep_cases hserver, rfl, rfl⟩
      · rintro rfl
        exact hshutdown rfl
      · rintro reply rfl
        exact hunregister reply rfl
    | other e =>
      unfold hostStep at hstep
      dsimp only at hstep
      split_ifs at hstep
      obtain rfl := Option.some.inj hstep
      exact .inr ⟨⟨e, rfl⟩, rfl, rfl, rfl⟩

/-- What holds while every displaced endpoint is consulted. -/
structure HistoryInv (s : CaddyHistory) : Prop where
  remembers : Remembers s
  /-- The watchdog runs in a server that serves. -/
  watchdog : s.host.server.watchdog ≠ .off → s.host.server.main = .serving
  /-- Up to its registration, a server has in its slot what the GET has found. -/
  starting : s.host.server.main = .starting → s.host.server.manager.fallbackEndpoint = none
  registering : s.host.server.main = .registering →
    s.host.server.manager.fallbackEndpoint = s.found

/-- At the start nothing is displaced. -/
theorem historyInv_new (ourEndpoint : String) (endpoint : Option String) :
    HistoryInv (.new ourEndpoint endpoint) where
  remembers := remembers_of_silent (fun h => by cases h) (fun h => by cases h)
  watchdog h := absurd rfl h
  starting _ := rfl
  registering := nofun

/-- A registration keeps every displaced endpoint consulted exactly if each is what the GET
found. -/
theorem HistoryInv.keeps_registered_iff {s : CaddyHistory} (hinv : HistoryInv s)
    (hmain : s.host.server.main = .registering) :
    KeepsDisplaced s (.server (.registerPatch .ok)) ↔
      ∀ e ∈ s.host.other.toList ++ s.displaced,
        s.host.server.manager.fallbackEndpoint = some e := by
  rw [hinv.registering hmain, List.forall_mem_append]
  refine and_congr_left fun _ => ?_
  cases s.host.other with
  | none => exact iff_of_true (.inl rfl) fun _ he => absurd he List.not_mem_nil
  | some e => simp [eq_comm]

/-- The slot is what the GET has found after every step, too. -/
theorem HistoryInv.slot_step {s s' : CaddyHistory} {step : CaddyStep} (hinv : HistoryInv s)
    (hrule : CaddyRule s.host.server s.host.endpoint step s'.host.server s'.host.endpoint)
    (hfound : s'.found = s.foundAfter (.server step)) :
    (s'.host.server.main = .starting → s'.host.server.manager.fallbackEndpoint = none) ∧
      (s'.host.server.main = .registering →
        s'.host.server.manager.fallbackEndpoint = s'.found) := by
  rw [hfound]
  obtain ⟨⟨server', endpoint'⟩, displaced', found'⟩ := s'
  dsimp only at hrule ⊢
  cases hrule with
  | registerRead ok hmain hread =>
    refine ⟨nofun, fun _ => (hinv.starting hmain).trans ?_⟩
    have hother : ok = false ∨ s.host.other = none := hread
    unfold CaddyHistory.foundAfter
    rcases hother with rfl | hother
    · rfl
    · dsimp only
      rw [hother, ite_self]
  | registerSave existing hmain hread =>
    refine ⟨nofun, fun _ => ?_⟩
    have hother : s.host.other = some existing := hread
    unfold CaddyHistory.foundAfter
    dsimp only
    rw [if_pos rfl, hother]
  | registered | registerFailed | unregister | nothingToRestore | restored => exact ⟨nofun, nofun⟩
  | watchdogSaved current hwatchdog =>
    have hmain := hinv.watchdog (by rw [hwatchdog]; nofun)
    dsimp only
    rw [hmain]
    exact ⟨nofun, nofun⟩
  | watchdogIdle | watchdogEmpty | watchdogChanged | watchdogPatched =>
    exact ⟨hinv.starting, hinv.registering⟩
  | restart => exact ⟨fun _ => rfl, nofun⟩

/-- A step that meets its condition keeps every displaced endpoint consulted. -/
theorem HistoryInv.step {s s' : CaddyHistory} {l : HostStep} (hinv : HistoryInv s)
    (hkeeps : KeepsDisplaced s l) (h : historyStep s l = some s') : HistoryInv s' := by
  obtain ⟨step, rfl, ⟨hshutdown, hunregister⟩, hrule, hdisplaced, hfound⟩ |
    ⟨-, hserver, hdisplaced, hfound⟩ := historyStep_cases h
  rotate_left
  · -- Another application changes neither the slot nor the record.
    refine ⟨?_, ?_, ?_, ?_⟩
    · unfold Remembers
      rw [hserver, hdisplaced]
      exact hinv.remembers
    · rw [hserver]
      exact hinv.watchdog
    · rw [hserver]
      exact hinv.starting
    · rw [hserver, hfound]
      exact hinv.registering
  obtain ⟨hstarting, hregistering⟩ := hinv.slot_step hrule hfound
  suffices hmain : Remembers s' ∧
      (s'.host.server.watchdog ≠ .off → s'.host.server.main = .serving) from
    ⟨hmain.1, hmain.2, hstarting, hregistering⟩
  clear hstarting hregistering hfound
  -- Before the server serves there is no watchdog.
  have hoff : ∀ main, s.host.server.main = main → main ≠ .serving →
      s.host.server.watchdog = .off := by
    intro main hmain hne
    by_contra hwatchdog
    exact hne (hmain.symm.trans (hinv.watchdog hwatchdog))
  obtain ⟨⟨server', endpoint'⟩, displaced', found'⟩ := s'
  dsimp only at hrule hdisplaced
  cases hrule with
  | registerRead ok hmain | registerSave existing hmain =>
    refine ⟨remembers_of_silent nofun nofun, fun hwatchdog => ?_⟩
    exact absurd (hoff _ hmain nofun) hwatchdog
  | registered hmain =>
    have hdisplaces : (HostStep.server (.registerPatch .ok)).displaces = true := rfl
    rw [if_pos hdisplaces] at hdisplaced
    rw [hinv.keeps_registered_iff hmain, ← hdisplaced] at hkeeps
    exact ⟨remembers_of_slot rfl hkeeps, fun _ => rfl⟩
  | registerFailed reply hreply hmain =>
    refine ⟨(remembers_failed rfl).mpr ?_, fun hwatchdog => ?_⟩
    · obtain ⟨hnone, hother⟩ : s.displaced = [] ∧ (reply ≠ .failed → s.host.other = none) := by
        cases reply with
        | ok => exact absurd rfl hreply
        | failed | lost => exact hkeeps
      rw [hdisplaced, hnone]
      split_ifs with hdisplaces
      · rw [hother (of_decide_eq_true hdisplaces)]
        rfl
      · rfl
    · exact absurd (hoff _ hmain nofun) hwatchdog
  | unregister | nothingToRestore => exact absurd rfl hshutdown
  | restored reply => exact absurd rfl (hunregister reply)
  | watchdogIdle ok hwatchdog =>
    have hmain := hinv.watchdog (by rw [hwatchdog]; nofun)
    refine ⟨remembers_of_slot hmain ?_, fun _ => hmain⟩
    rw [hdisplaced]
    exact hinv.remembers.slot hmain
  | watchdogEmpty hwatchdog | watchdogChanged current hwatchdog =>
    have hmain := hinv.watchdog (by rw [hwatchdog]; nofun)
    refine ⟨remembers_of_slot hmain ?_, fun _ => hmain⟩
    rw [hdisplaced]
    exact hinv.remembers.slot hmain
  | watchdogSaved current hwatchdog =>
    have hmain := hinv.watchdog (by rw [hwatchdog]; nofun)
    refine ⟨remembers_of_slot hmain fun e he => ?_, fun _ => hmain⟩
    rw [hdisplaced] at he
    rw [hkeeps current hwatchdog e he]
  | watchdogPatched reply hwatchdog =>
    have hmain := hinv.watchdog (by rw [hwatchdog]; nofun)
    have hold := hinv.remembers.slot hmain
    refine ⟨remembers_of_slot hmain fun e he => ?_, fun _ => hmain⟩
    rw [hdisplaced] at he
    split_ifs at he with hdisplaces
    · rcases List.mem_append.mp he with he | he
      · exact hkeeps (of_decide_eq_true hdisplaces) e (Option.mem_toList.mp he)
      · exact hold e he
    · exact hold e he
  | restart => exact ⟨remembers_of_silent nofun nofun, fun hwatchdog => absurd rfl hwatchdog⟩

/-- A step that does not meet its condition forgets a displaced endpoint. -/
theorem HistoryInv.forgets {s s' : CaddyHistory} {l : HostStep} (hinv : HistoryInv s)
    (hloses : ¬ KeepsDisplaced s l) (h : historyStep s l = some s') : ¬ Remembers s' := by
  intro hremembers
  obtain ⟨step, rfl, -, hrule, hdisplaced, -⟩ | ⟨⟨e, rfl⟩, -, -, -⟩ := historyStep_cases h
  rotate_left
  · exact hloses trivial
  obtain ⟨⟨server', endpoint'⟩, displaced', found'⟩ := s'
  dsimp only at hrule hdisplaced
  cases hrule with
  | registered hmain =>
    have hdisplaces : (HostStep.server (.registerPatch .ok)).displaces = true := rfl
    rw [if_pos hdisplaces] at hdisplaced
    rw [hinv.keeps_registered_iff hmain, ← hdisplaced] at hloses
    exact hloses (hremembers.slot rfl)
  | registerFailed reply hreply hmain =>
    have hnone := (remembers_failed rfl).mp hremembers
    rw [hdisplaced] at hnone
    cases reply with
    | ok => exact hreply rfl
    | failed => exact hloses ⟨hnone, fun hne => absurd rfl hne⟩
    | lost =>
      obtain ⟨hother, hnone⟩ := List.append_eq_nil_iff.mp hnone
      exact hloses ⟨hnone, fun _ => by simpa using hother⟩
  | watchdogSaved current hwatchdog =>
    have hmain := hinv.watchdog (by rw [hwatchdog]; nofun)
    refine hloses fun current' hwatchdog' e he => ?_
    obtain rfl := Watchdog.saving.inj (hwatchdog.symm.trans hwatchdog')
    have hslot := hremembers.slot hmain e (by rw [hdisplaced]; exact he)
    exact (Option.some.inj hslot).symm
  | watchdogPatched reply hwatchdog =>
    have hmain := hinv.watchdog (by rw [hwatchdog]; nofun)
    refine hloses fun hreply e he => ?_
    refine hremembers.slot hmain e ?_
    have hdisplaces : (HostStep.server (.watchdogPatch reply)).displaces = true :=
      decide_eq_true hreply
    rw [if_pos hdisplaces] at hdisplaced
    rw [hdisplaced]
    exact List.mem_append_left _ (Option.mem_toList.mpr he)
  | _ => exact hloses trivial

/-- Every displaced endpoint keeps being consulted along exactly the runs in which the slot always
has room for it. -/
theorem remembered_iff (ourEndpoint : String) (endpoint : Option String)
    (labels : List HostStep) :
    Visits historyStep Remembers (.new ourEndpoint endpoint) labels ↔
      Meets historyStep KeepsDisplaced (.new ourEndpoint endpoint) labels :=
  visits_iff_meets (fun _ _ _ hinv hkeeps h => HistoryInv.step hinv hkeeps h)
    (fun _ hinv => hinv.remembers) (fun _ _ _ hinv hloses h => HistoryInv.forgets hinv hloses h)
    (historyInv_new ourEndpoint endpoint) labels

/-- A server that is started again after a crash finds its own endpoint in Caddy, and no longer
consults the one that it displaced. -/
theorem displaced_forgotten :
    ¬ ∀ (ourEndpoint : String) (endpoint : Option String) (labels : List HostStep),
      Visits historyStep Remembers (.new ourEndpoint endpoint) labels := by
  intro h
  let our := "http://127.0.0.1:6210/api/tls-check"
  let theirs := "http://localhost:2615/api/sites/check-domain"
  let labels : List HostStep := [.server (.registerGet true), .server (.registerPatch .ok),
    .server .restart, .server (.registerGet true), .server (.registerPatch .ok)]
  have hend : exec historyStep (.new our (some theirs)) labels =
      some ⟨⟨⟨⟨our, none⟩, .serving, .sleeping⟩, some our⟩, [theirs], none⟩ := by decide
  have hremembers := (h our (some theirs) labels).last hend
  have hslot := hremembers.slot rfl theirs (List.mem_singleton.mpr rfl)
  cases hslot

end ZoTunnel
