import ZoTunnel.Server.Caddy

/-!
# Handing Caddy back

`unregister` writes the fallback to Caddy without reading the endpoint first, where `register` and
the watchdog both read before they write. The watchdog is not stopped at the shutdown either, and
goes on until the process exits. `handed_back_iff` says along which runs the shutdown hands Caddy
back.
-/

namespace ZoTunnel

open Transition

/-- A server beside Caddy, and whether another application has ever set an endpoint. -/
structure CaddyShutdown where
  host : CaddyHost
  otherSet : Bool
  deriving DecidableEq, Repr

/-- A server at its start, beside Caddy with this endpoint. -/
def CaddyShutdown.new (ourEndpoint : String) (endpoint : Option String) : CaddyShutdown :=
  let host := CaddyHost.new ourEndpoint endpoint
  ⟨host, host.other.isSome⟩

/-- Whether the HTTP call of a step succeeds. -/
def HostStep.succeeds : HostStep → Bool
  | .server (.registerGet ok) | .server (.watchdogGet ok) => ok
  | .server (.registerPatch reply) | .server (.unregisterPatch reply)
  | .server (.watchdogPatch reply) => reply = .ok
  | _ => true

/-- One step in which every call to the Admin API succeeds. -/
def shutdownStep (s : CaddyShutdown) (l : HostStep) : Option CaddyShutdown :=
  if l.succeeds then
    (hostStep s.host l).map fun host =>
      match l with
      | .server _ => ⟨host, s.otherSet⟩
      | .other _ => ⟨host, true⟩
  else none

/-- `unregister` changes Caddy's endpoint only if it is the server's own at that moment. -/
def ChangesOwn (s : CaddyShutdown) (l : HostStep) (s' : CaddyShutdown) : Prop :=
  ∀ reply, l = .server (.unregisterPatch reply) → s'.host.endpoint ≠ s.host.endpoint →
    s.host.endpoint = some s.host.server.manager.ourEndpoint

/-- From the return of `unregister` on, Caddy's endpoint is not the server's own if another
application has ever set one. -/
def HandedBack (s : CaddyShutdown) : Prop :=
  s.host.server.main = .unregistered → s.otherSet = true →
    s.host.endpoint ≠ some s.host.server.manager.ourEndpoint

/-- The shutdown meets Caddy as the server left it, and the watchdog writes no more after it. -/
def LeavesCaddy (s : CaddyShutdown) : HostStep → Prop
  | .server (.unregisterPatch _) =>
    -- Caddy has the server's own endpoint, or already the one that is restored.
    ∀ fallback, s.host.server.main = .unregistering fallback →
      s.host.endpoint = some s.host.server.manager.ourEndpoint ∨ s.host.endpoint = some fallback
  | .server .shutdown =>
    -- There is an endpoint to restore if Caddy has the server's own.
    s.host.server.manager.fallbackEndpoint = none → s.otherSet = true →
      s.host.endpoint ≠ some s.host.server.manager.ourEndpoint
  | .server (.watchdogPatch _) =>
    -- The watchdog registers the server again only before the shutdown is over.
    s.host.server.main = .unregistered → s.otherSet = false
  | _ => True

/-- A step is one of the server, whose call succeeds, or a PATCH by another application. -/
theorem shutdownStep_cases {s s' : CaddyShutdown} {l : HostStep} (h : shutdownStep s l = some s') :
    (∃ step, l = .server step ∧ l.succeeds = true ∧
      CaddyRule s.host.server s.host.endpoint step s'.host.server s'.host.endpoint ∧
      s'.otherSet = s.otherSet) ∨
    (∃ e, l = .other e ∧ e ≠ s.host.server.manager.ourEndpoint ∧
      s'.host.server = s.host.server ∧ s'.host.endpoint = some e) := by
  unfold shutdownStep at h
  split_ifs at h with hsucceeds
  obtain ⟨host, hstep, rfl⟩ := Option.map_eq_some_iff.mp h
  cases l with
  | server step =>
    obtain ⟨⟨server, endpoint⟩, hserver, rfl⟩ := Option.map_eq_some_iff.mp hstep
    exact .inl ⟨step, rfl, hsucceeds, caddyStep_cases hserver, rfl⟩
  | other e =>
    unfold hostStep at hstep
    dsimp only at hstep
    split_ifs at hstep with hother
    obtain rfl := Option.some.inj hstep
    exact .inr ⟨e, rfl, hother.2, rfl, rfl⟩

/-- What holds while Caddy is handed back: the server's own endpoint is never a fallback. -/
structure ShutdownInv (s : CaddyShutdown) : Prop where
  handedBack : HandedBack s
  slot : s.host.server.manager.fallbackEndpoint ≠ some s.host.server.manager.ourEndpoint
  restoring : ∀ fallback, s.host.server.main = .unregistering fallback →
    fallback ≠ s.host.server.manager.ourEndpoint
  saving : ∀ current, s.host.server.watchdog = .saving current →
    current ≠ s.host.server.manager.ourEndpoint

/-- At the start no shutdown is over. -/
theorem shutdownInv_new (ourEndpoint : String) (endpoint : Option String) :
    ShutdownInv (.new ourEndpoint endpoint) where
  handedBack h := by cases h
  slot h := by cases h
  restoring fallback h := by cases h
  saving current h := by cases h

/-- A server that is not through with its shutdown has not handed Caddy back yet. -/
theorem handedBack_of_running {s : CaddyShutdown} (h : s.host.server.main ≠ .unregistered) :
    HandedBack s :=
  fun hmain => absurd hmain h

/-- A step that meets its condition hands Caddy back, and `unregister` changes only the server's own
endpoint. -/
theorem ShutdownInv.step {s s' : CaddyShutdown} {l : HostStep} (hinv : ShutdownInv s)
    (hleaves : LeavesCaddy s l) (h : shutdownStep s l = some s') :
    ShutdownInv s' ∧ ChangesOwn s l s' := by
  obtain ⟨step, rfl, hsucceeds, hrule, hset⟩ | ⟨e, rfl, hne, hserver, hendpoint⟩ :=
    shutdownStep_cases h
  rotate_left
  · -- The endpoint of another application is not the server's own.
    refine ⟨⟨fun _ _ hown => ?_, ?_, ?_, ?_⟩, nofun⟩
    · rw [hendpoint, hserver] at hown
      exact hne (Option.some.inj hown)
    · rw [hserver]
      exact hinv.slot
    · rw [hserver]
      exact hinv.restoring
    · rw [hserver]
      exact hinv.saving
  obtain ⟨⟨server', endpoint'⟩, otherSet'⟩ := s'
  dsimp only at hrule hset
  subst hset
  cases hrule with
  | registerRead ok hmain =>
    exact ⟨⟨handedBack_of_running nofun, hinv.slot, nofun, hinv.saving⟩, nofun⟩
  | registerSave existing hmain hread =>
    have hother := (otherEndpoint_eq_some hread).2
    exact ⟨⟨handedBack_of_running nofun, fun heq => hother (Option.some.inj heq), nofun,
      hinv.saving⟩, nofun⟩
  | registered hmain =>
    exact ⟨⟨handedBack_of_running nofun, hinv.slot, nofun, nofun⟩, nofun⟩
  | registerFailed reply hreply hmain =>
    exact absurd (of_decide_eq_true hsucceeds) hreply
  | unregister fallback hmain hslot =>
    refine ⟨⟨handedBack_of_running nofun, hinv.slot, fun fallback' heq => ?_, hinv.saving⟩, nofun⟩
    obtain rfl := MainPhase.unregistering.inj heq
    exact fun hown => hinv.slot (by rw [hslot, hown])
  | nothingToRestore hmain hslot =>
    exact ⟨⟨fun _ => hleaves hslot, hinv.slot, nofun, hinv.saving⟩, nofun⟩
  | restored reply fallback hmain =>
    have hreply : reply = .ok := of_decide_eq_true hsucceeds
    subst hreply
    refine ⟨⟨fun _ _ hown => ?_, hinv.slot, nofun, hinv.saving⟩, fun _ _ hchanged => ?_⟩
    · exact hinv.restoring fallback hmain (Option.some.inj hown)
    · rcases hleaves fallback hmain with hown | hsame
      · exact hown
      · exact absurd hsame.symm hchanged
  | watchdogIdle => exact ⟨hinv, nofun⟩
  | watchdogEmpty hwatchdog =>
    exact ⟨⟨hinv.handedBack, hinv.slot, hinv.restoring, nofun⟩, nofun⟩
  | watchdogChanged current hwatchdog hread =>
    have hother := (otherEndpoint_eq_some hread).2
    refine ⟨⟨hinv.handedBack, hinv.slot, hinv.restoring, fun current' heq => ?_⟩, nofun⟩
    obtain rfl := Watchdog.saving.inj heq
    exact hother
  | watchdogSaved current hwatchdog hmain =>
    exact ⟨⟨hinv.handedBack, fun heq => hinv.saving current hwatchdog (Option.some.inj heq),
      hinv.restoring, nofun⟩, nofun⟩
  | watchdogPatched reply hwatchdog =>
    -- The server's own endpoint is in Caddy again, and no other application has set one.
    refine ⟨⟨fun hmain hother => ?_, hinv.slot, hinv.restoring, nofun⟩, nofun⟩
    rw [hleaves hmain] at hother
    cases hother
  | restart =>
    exact ⟨⟨handedBack_of_running nofun, nofun, nofun, nofun⟩, nofun⟩

/-- A step that does not meet its condition changes an endpoint of another application, or leaves
the server's own endpoint in Caddy. -/
theorem not_handed_back_of_not_leaves {s s' : CaddyShutdown} {l : HostStep}
    (hstays : ¬ LeavesCaddy s l) (h : shutdownStep s l = some s') :
    ¬ (ChangesOwn s l s' ∧ HandedBack s') := by
  rintro ⟨hchanges, hback⟩
  obtain ⟨step, rfl, hsucceeds, hrule, hset⟩ | ⟨e, rfl, -⟩ := shutdownStep_cases h
  rotate_left
  · exact hstays trivial
  obtain ⟨⟨server', endpoint'⟩, otherSet'⟩ := s'
  dsimp only at hrule hset
  subst hset
  cases hrule with
  | nothingToRestore hmain hslot => exact hstays fun _ => hback rfl
  | unregister fallback hmain hslot =>
    refine hstays fun hnone => ?_
    rw [hslot] at hnone
    cases hnone
  | restored reply fallback hmain =>
    have hreply : reply = .ok := of_decide_eq_true hsucceeds
    subst hreply
    refine hstays fun fallback' hmain' => ?_
    obtain rfl := MainPhase.unregistering.inj (hmain.symm.trans hmain')
    by_cases hsame : s.host.endpoint = some fallback
    · exact .inr hsame
    · exact .inl (hchanges .ok rfl fun heq => hsame heq.symm)
  | watchdogPatched reply hwatchdog =>
    have hreply : reply = .ok := of_decide_eq_true hsucceeds
    subst hreply
    refine hstays fun hmain => ?_
    by_contra hother
    exact hback hmain (by simpa using hother) rfl
  | _ => exact hstays trivial

/-- The shutdown hands Caddy back along exactly the runs in which it meets Caddy as the server left
it, and the watchdog writes no more after it. -/
theorem handed_back_iff (ourEndpoint : String) (endpoint : Option String)
    (labels : List HostStep) :
    (Steps shutdownStep ChangesOwn (.new ourEndpoint endpoint) labels ∧
      Visits shutdownStep HandedBack (.new ourEndpoint endpoint) labels) ↔
    Meets shutdownStep LeavesCaddy (.new ourEndpoint endpoint) labels :=
  holds_iff_meets (I := ShutdownInv) (P := HandedBack) (Q := ChangesOwn) (C := LeavesCaddy)
    (fun _ _ _ hinv hleaves h => hinv.step hleaves h) (fun _ hinv => hinv.handedBack)
    (fun _ _ _ _ hstays h => not_handed_back_of_not_leaves hstays h)
    (shutdownInv_new ourEndpoint endpoint) labels

/-- Another application's endpoint is overwritten with an older one, and the server's own endpoint
stays in Caddy when the watchdog writes it after the shutdown. -/
theorem caddy_not_handed_back :
    (¬ ∀ (ourEndpoint : String) (endpoint : Option String) (labels : List HostStep),
      Steps shutdownStep ChangesOwn (.new ourEndpoint endpoint) labels) ∧
    ¬ ∀ (ourEndpoint : String) (endpoint : Option String) (labels : List HostStep),
      Visits shutdownStep HandedBack (.new ourEndpoint endpoint) labels := by
  let our := "http://127.0.0.1:6210/api/tls-check"
  let theirs := "http://localhost:2615/api/sites/check-domain"
  let newer := "http://localhost:8080/ask"
  let register : List HostStep := [.server (.registerGet true), .server (.registerPatch .ok)]
  constructor
  · intro h
    let labels := register ++ [.other newer, .server .shutdown]
    have hend : exec shutdownStep (.new our (some theirs)) labels =
        some ⟨⟨⟨⟨our, some theirs⟩, .unregistering theirs, .sleeping⟩, some newer⟩, true⟩ := by
      decide
    have hsteps := h our (some theirs) (labels ++ [.server (.unregisterPatch .ok)])
    have hchanges := hsteps.last hend rfl
    exact absurd (hchanges .ok rfl (by decide)) (by decide)
  · intro h
    let labels := register ++ [.other newer, .server (.watchdogGet true), .server .watchdogSave,
      .server .shutdown, .server (.unregisterPatch .ok), .server (.watchdogPatch .ok)]
    have hend : exec shutdownStep (.new our (some theirs)) labels =
        some ⟨⟨⟨⟨our, some newer⟩, .unregistered, .sleeping⟩, some our⟩, true⟩ := by decide
    exact (h our (some theirs) labels).last hend rfl rfl rfl

end ZoTunnel
