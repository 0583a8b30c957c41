import ZoTunnel.Lib.Run
import ZoTunnel.Lib.Text
import ZoTunnel.Server.Registry

/-!
# Caddy's on-demand TLS endpoint

`CaddyManager` (`caddy.rs`) as a state machine. Caddy holds one on-demand endpoint, which it asks
before it issues a certificate. A server puts its own endpoint there, and keeps the one that it
finds as its fallback, to which `api_tls_check` forwards the domains outside `*.{base_domain}`.

A process of the server runs `register`, then the watchdog beside everything else, and `unregister`
when it shuts down. The HTTP calls to Caddy are the atomic steps, so the endpoint can change between
the GET and the PATCH of one call.
-/

namespace ZoTunnel

/-! ## The TLS check -/

/-- The URL that `check_fallback` asks for a domain. -/
def fallbackUrl (endpoint domain : String) : String :=
  let separator := if endpoint.contains '?' then "&" else "?"
  endpoint ++ separator ++ "domain=" ++ domain

/-- `CaddyManager`, without the address of the Admin API. -/
structure CaddyManager where
  ourEndpoint : String
  fallbackEndpoint : Option String
  deriving DecidableEq, Repr

/-- `CaddyManager::new`. -/
def CaddyManager.new (ourEndpoint : String) : CaddyManager := ⟨ourEndpoint, none⟩

/-- Check the fallback endpoint for a domain. `get` is the status that a GET returns, when it does
not fail. -/
def CaddyManager.checkFallback (mgr : CaddyManager) (get : String → Option UInt16)
    (domain : String) : Option UInt16 :=
  match mgr.fallbackEndpoint with
  | some endpoint => get (fallbackUrl endpoint domain)
  | none => none

/-- `StatusCode::from_u16(status).unwrap_or(StatusCode::FORBIDDEN)`. -/
def relayStatus (status : UInt16) : UInt16 := if 100 ≤ status ∧ status < 1000 then status else 403

/-- `api_tls_check`: whether Caddy may issue a certificate for a domain. -/
def apiTlsCheck (baseDomain : String) (registry : Registry) (mgr : Option CaddyManager)
    (get : String → Option UInt16) (domain : String) : UInt16 :=
  match Text.stripSuffix domain ("." ++ baseDomain) with
  | some subdomain =>
    if subdomain ∈ reservedSubdomains then 200
    else if (registry.get subdomain).isSome then 200
    else 403
  | none =>
    match mgr.bind fun mgr => mgr.checkFallback get domain with
    | some status => relayStatus status
    | none => 403

/-- The TLS check asks this endpoint for every domain outside `*.{base_domain}`, and answers as it
does. -/
def Consults (mgr : Option CaddyManager) (endpoint : String) : Prop :=
  ∀ baseDomain registry get domain, Text.stripSuffix domain ("." ++ baseDomain) = none →
    apiTlsCheck baseDomain registry mgr get domain =
      ((get (fallbackUrl endpoint domain)).map relayStatus).getD 403

/-- The URL determines the endpoint. -/
theorem fallbackUrl_injective {endpoint endpoint' domain : String}
    (h : fallbackUrl endpoint domain = fallbackUrl endpoint' domain) : endpoint = endpoint' := by
  have hsep : ∀ e : String, (if e.contains '?' then "&" else "?" : String).toList.length = 1 := by
    intro e
    split_ifs <;> rfl
  have hlist := congrArg String.toList h
  simp only [fallbackUrl, String.toList_append, List.append_assoc] at hlist
  have hlen := congrArg List.length hlist
  simp only [List.length_append, hsep] at hlen
  exact String.toList_inj.mp (List.append_inj_left hlist (by omega))

/-- The TLS check asks exactly the fallback. -/
theorem consults_iff {mgr : Option CaddyManager} {endpoint : String} :
    Consults mgr endpoint ↔ ∃ m, mgr = some m ∧ m.fallbackEndpoint = some endpoint := by
  constructor
  · intro h
    -- No domain of a base domain is empty, and only the endpoint's own URL answers 200.
    have hempty : Text.stripSuffix "" ("." ++ "") = none := by decide
    have hask := h "" .new (fun url => if url = fallbackUrl endpoint "" then some 200 else none) ""
      hempty
    unfold apiTlsCheck at hask
    rw [hempty] at hask
    cases mgr with
    | none => simp [relayStatus] at hask
    | some m =>
      refine ⟨m, rfl, ?_⟩
      cases hslot : m.fallbackEndpoint with
      | none =>
        simp [CaddyManager.checkFallback, hslot, relayStatus] at hask
      | some e =>
        by_cases he : fallbackUrl e "" = fallbackUrl endpoint ""
        · rw [fallbackUrl_injective he]
        · simp [CaddyManager.checkFallback, hslot, he, relayStatus] at hask
  · rintro ⟨m, rfl, hslot⟩ baseDomain registry get domain houtside
    unfold apiTlsCheck
    rw [houtside]
    simp only [Option.bind_some, CaddyManager.checkFallback, hslot]
    cases get (fallbackUrl endpoint domain) <;> rfl

/-! ## A process of the server -/

/-- The reply to a PATCH. -/
inductive PatchReply where
  /-- Status 200. -/
  | ok
  /-- Another status, or no connection. Caddy has not changed its endpoint. -/
  | failed
  /-- Caddy has changed its endpoint, and the reply did not arrive. -/
  | lost
  deriving DecidableEq, Repr

/-- Caddy's endpoint after a PATCH. -/
def PatchReply.apply (reply : PatchReply) (old : Option String) (new : String) : Option String :=
  match reply with
  | .ok | .lost => some new
  | .failed => old

/-- Where `Server::run` stands. -/
inductive MainPhase where
  /-- Before the GET of `register`. -/
  | starting
  /-- Before the PATCH of `register`. -/
  | registering
  /-- `register` succeeded, and the server waits for its shutdown. -/
  | serving
  /-- `register` failed, and the server runs without a `CaddyManager`. -/
  | failed
  /-- Before the PATCH of `unregister` to this endpoint, with the fallback locked for reading. -/
  | unregistering (endpoint : String)
  /-- `unregister` has returned, and the process is about to exit. -/
  | unregistered
  deriving DecidableEq, Repr

/-- Where the watchdog stands. -/
inductive Watchdog where
  /-- It is not started yet. -/
  | off
  /-- Before the GET of `check_and_reregister`. -/
  | sleeping
  /-- Before it locks the fallback for writing. -/
  | saving (current : String)
  /-- Before the PATCH of `check_and_reregister`. -/
  | patching
  deriving DecidableEq, Repr

/-- A process of the server, as far as Caddy is concerned. -/
structure CaddyServer where
  manager : CaddyManager
  main : MainPhase
  watchdog : Watchdog
  deriving DecidableEq, Repr

/-- A process at its start. -/
def CaddyServer.new (ourEndpoint : String) : CaddyServer := ⟨.new ourEndpoint, .starting, .off⟩

/-- The `CaddyManager` of the process's dashboard, while it answers TLS checks. -/
def CaddyServer.tlsManager (server : CaddyServer) : Option CaddyManager :=
  if server.main = .failed then none else some server.manager

/-- A step of a process, with how its HTTP call went. -/
inductive CaddyStep where
  /-- The GET of `register`, which returns status 200 or not. -/
  | registerGet (ok : Bool)
  | registerPatch (reply : PatchReply)
  /-- The shutdown signal arrives, and `unregister` locks the fallback. -/
  | shutdown
  | unregisterPatch (reply : PatchReply)
  /-- The GET of `check_and_reregister`. -/
  | watchdogGet (ok : Bool)
  | watchdogSave
  | watchdogPatch (reply : PatchReply)
  /-- The process ends, and a new one is started. -/
  | restart
  deriving DecidableEq, Repr

/-- The endpoint of another application, when Caddy has one. -/
def otherEndpoint (ourEndpoint : String) (endpoint : Option String) : Option String :=
  endpoint.filter fun e => e ≠ "" ∧ e ≠ ourEndpoint

/-- One step of a process, beside Caddy's endpoint. The GET returns the endpoint, and a status other
than 200 when there is none. -/
def caddyStep (server : CaddyServer) (endpoint : Option String) (l : CaddyStep) :
    Option (CaddyServer × Option String) :=
  let our := server.manager.ourEndpoint
  match l, server.main, server.watchdog with
  | .registerGet ok, .starting, _ =>
    match ok, otherEndpoint our endpoint with
    | true, some existing =>
      some ({ server with manager := ⟨our, some existing⟩, main := .registering }, endpoint)
    | _, _ => some ({ server with main := .registering }, endpoint)
  | .registerPatch .ok, .registering, _ =>
    -- The watchdog is started right after.
    some ({ server with main := .serving, watchdog := .sleeping }, some our)
  | .registerPatch reply, .registering, _ =>
    some ({ server with manager := .new our, main := .failed }, reply.apply endpoint our)
  | .shutdown, .serving, _ =>
    match server.manager.fallbackEndpoint with
    | some fallback => some ({ server with main := .unregistering fallback }, endpoint)
    | none => some ({ server with main := .unregistered }, endpoint)
  | .unregisterPatch reply, .unregistering fallback, _ =>
    some ({ server with main := .unregistered }, reply.apply endpoint fallback)
  | .watchdogGet ok, _, .sleeping =>
    match ok, endpoint with
    | true, some current =>
      if current = our then some (server, endpoint)
      else if current = "" then some ({ server with watchdog := .patching }, endpoint)
      else some ({ server with watchdog := .saving current }, endpoint)
    | _, _ => some (server, endpoint)
  | .watchdogSave, main, .saving current =>
    -- `unregister` holds the read guard until its PATCH has returned.
    match main with
    | .unregistering _ => none
    | _ =>
      some ({ server with manager := ⟨our, some current⟩, watchdog := .patching }, endpoint)
  | .watchdogPatch reply, _, .patching =>
    some ({ server with watchdog := .sleeping }, reply.apply endpoint our)
  | .restart, _, _ => some (.new our, endpoint)
  | _, _, _ => none

/-- The endpoint that a step puts into the fallback. -/
def CaddyServer.saves (server : CaddyServer) (endpoint : Option String) : CaddyStep → Option String
  | .registerGet true => otherEndpoint server.manager.ourEndpoint endpoint
  | .watchdogSave =>
    match server.watchdog with
    | .saving current => some current
    | _ => none
  | _ => none

/-- The steps of a process as rules: the process and Caddy's endpoint after a step. -/
inductive CaddyRule (server : CaddyServer) (endpoint : Option String) :
    CaddyStep → CaddyServer → Option String → Prop where
  /-- `register` reads no endpoint of another application. -/
  | registerRead (ok : Bool) (hmain : server.main = .starting)
      (hread : ok = false ∨ otherEndpoint server.manager.ourEndpoint endpoint = none) :
    CaddyRule server endpoint (.registerGet ok) { server with main := .registering } endpoint
  | registerSave (existing : String) (hmain : server.main = .starting)
      (hread : otherEndpoint server.manager.ourEndpoint endpoint = some existing) :
    CaddyRule server endpoint (.registerGet true)
      { server with
        manager := ⟨server.manager.ourEndpoint, some existing⟩, main := .registering } endpoint
  | registered (hmain : server.main = .registering) :
    CaddyRule server endpoint (.registerPatch .ok)
      { server with main := .serving, watchdog := .sleeping } (some server.manager.ourEndpoint)
  | registerFailed (reply : PatchReply) (hreply : reply ≠ .ok)
      (hmain : server.main = .registering) :
    CaddyRule server endpoint (.registerPatch reply)
      { server with manager := .new server.manager.ourEndpoint, main := .failed }
      (reply.apply endpoint server.manager.ourEndpoint)
  | unregister (fallback : String) (hmain : server.main = .serving)
      (hslot : server.manager.fallbackEndpoint = some fallback) :
    CaddyRule server endpoint .shutdown { server with main := .unregistering fallback } endpoint
  | nothingToRestore (hmain : server.main = .serving)
      (hslot : server.manager.fallbackEndpoint = none) :
    CaddyRule server endpoint .shutdown { server with main := .unregistered } endpoint
  | restored (reply : PatchReply) (fallback : String)
      (hmain : server.main = .unregistering fallback) :
    CaddyRule server endpoint (.unregisterPatch reply) { server with main := .unregistered }
      (reply.apply endpoint fallback)
  /-- The watchdog could not read the endpoint, or it is the server's own. -/
  | watchdogIdle (ok : Bool) (hwatchdog : server.watchdog = .sleeping) :
    CaddyRule server endpoint (.watchdogGet ok) server endpoint
  | watchdogEmpty (hwatchdog : server.watchdog = .sleeping) :
    CaddyRule server endpoint (.watchdogGet true) { server with watchdog := .patching } endpoint
  | watchdogChanged (current : String) (hwatchdog : server.watchdog = .sleeping)
      (hread : otherEndpoint server.manager.ourEndpoint endpoint = some current) :
    CaddyRule server endpoint (.watchdogGet true) { server with watchdog := .saving current }
      endpoint
  | watchdogSaved (current : String) (hwatchdog : server.watchdog = .saving current)
      (hmain : ∀ fallback, server.main ≠ .unregistering fallback) :
    CaddyRule server endpoint .watchdogSave
      { server with
        manager := ⟨server.manager.ourEndpoint, some current⟩, watchdog := .patching } endpoint
  | watchdogPatched (reply : PatchReply) (hwatchdog : server.watchdog = .patching) :
    CaddyRule server endpoint (.watchdogPatch reply) { server with watchdog := .sleeping }
      (reply.apply endpoint server.manager.ourEndpoint)
  | restart : CaddyRule server endpoint .restart (.new server.manager.ourEndpoint) endpoint

/-- Every step is one of these. -/
theorem caddyStep_cases {server server' : CaddyServer} {endpoint endpoint' : Option String}
    {l : CaddyStep} (h : caddyStep server endpoint l = some (server', endpoint')) :
    CaddyRule server endpoint l server' endpoint' := by
  unfold caddyStep at h
  dsimp only at h
  split at h
  · rename_i ok hmain
    split at h
    · rename_i existing hread
      obtain ⟨rfl, rfl⟩ := Prod.mk.inj (Option.some.inj h)
      exact .registerSave existing hmain hread
    · rename_i hother
      obtain ⟨rfl, rfl⟩ := Prod.mk.inj (Option.some.inj h)
      refine .registerRead _ hmain ?_
      by_contra hread
      rw [not_or, Bool.not_eq_false] at hread
      obtain ⟨existing, hexisting⟩ := Option.ne_none_iff_exists'.mp hread.2
      exact hother existing hread.1 hexisting
  · rename_i hmain
    obtain ⟨rfl, rfl⟩ := Prod.mk.inj (Option.some.inj h)
    exact .registered hmain
  · rename_i reply hreply hmain
    obtain ⟨rfl, rfl⟩ := Prod.mk.inj (Option.some.inj h)
    exact .registerFailed reply hreply hmain
  · rename_i hmain
    split at h
    · rename_i fallback hslot
      obtain ⟨rfl, rfl⟩ := Prod.mk.inj (Option.some.inj h)
      exact .unregister fallback hmain hslot
    · rename_i hslot
      obtain ⟨rfl, rfl⟩ := Prod.mk.inj (Option.some.inj h)
      exact .nothingToRestore hmain hslot
  · rename_i reply fallback hmain
    obtain ⟨rfl, rfl⟩ := Prod.mk.inj (Option.some.inj h)
    exact .restored reply fallback hmain
  · rename_i ok hwatchdog
    split at h
    · rename_i current
      split_ifs at h with hours hempty
      · obtain ⟨rfl, rfl⟩ := Prod.mk.inj (Option.some.inj h)
        exact .watchdogIdle true hwatchdog
      · obtain ⟨rfl, rfl⟩ := Prod.mk.inj (Option.some.inj h)
        exact .watchdogEmpty hwatchdog
      · obtain ⟨rfl, rfl⟩ := Prod.mk.inj (Option.some.inj h)
        refine .watchdogChanged current hwatchdog ?_
        unfold otherEndpoint
        rw [Option.filter_some, if_pos (by simp [hours, hempty])]
    · obtain ⟨rfl, rfl⟩ := Prod.mk.inj (Option.some.inj h)
      exact .watchdogIdle _ hwatchdog
  · rename_i current hwatchdog
    split at h
    · cases h
    · rename_i hmain
      obtain ⟨rfl, rfl⟩ := Prod.mk.inj (Option.some.inj h)
      exact .watchdogSaved current hwatchdog hmain
  · rename_i reply hwatchdog
    obtain ⟨rfl, rfl⟩ := Prod.mk.inj (Option.some.inj h)
    exact .watchdogPatched reply hwatchdog
  · obtain ⟨rfl, rfl⟩ := Prod.mk.inj (Option.some.inj h)
    exact .restart
  · cases h

/-- A step puts the endpoint that it saves into the fallback. A step that saves nothing keeps the
fallback, or loses it with the process or its `CaddyManager`. -/
theorem CaddyRule.fallback {server server' : CaddyServer} {endpoint endpoint' : Option String}
    {l : CaddyStep} (h : CaddyRule server endpoint l server' endpoint') :
    (∀ saved, server.saves endpoint l = some saved →
      server'.manager.fallbackEndpoint = some saved) ∧
    (server.saves endpoint l = none →
      server'.manager.fallbackEndpoint = server.manager.fallbackEndpoint ∨
        server'.manager.fallbackEndpoint = none) := by
  cases h with
  | registerSave existing hmain hread =>
    have hsaves : server.saves endpoint (.registerGet true) = some existing := hread
    rw [hsaves]
    exact ⟨fun saved heq => heq, nofun⟩
  | registerRead ok hmain hread =>
    have hsaves : server.saves endpoint (.registerGet ok) = none := by
      rcases hread with rfl | hread
      · rfl
      · cases ok with
        | false => rfl
        | true => exact hread
    rw [hsaves]
    exact ⟨nofun, fun _ => .inl rfl⟩
  | watchdogSaved current hwatchdog hmain =>
    have hsaves : server.saves endpoint .watchdogSave = some current := by
      simp only [CaddyServer.saves, hwatchdog]
    rw [hsaves]
    exact ⟨fun saved heq => heq, nofun⟩
  | registerFailed | restart => exact ⟨nofun, fun _ => .inr rfl⟩
  | registered | unregister | nothingToRestore | restored | watchdogIdle | watchdogEmpty
  | watchdogChanged | watchdogPatched => exact ⟨nofun, fun _ => .inl rfl⟩

/-! ## One server and other applications -/

/-- One server beside Caddy. -/
structure CaddyHost where
  server : CaddyServer
  endpoint : Option String
  deriving DecidableEq, Repr

/-- A server at its start, beside Caddy with this endpoint. -/
def CaddyHost.new (ourEndpoint : String) (endpoint : Option String) : CaddyHost :=
  ⟨.new ourEndpoint, endpoint⟩

/-- A step of the server, or a PATCH by another application. -/
inductive HostStep where
  | server (l : CaddyStep)
  | other (endpoint : String)
  deriving DecidableEq, Repr

/-- The endpoint of another application in Caddy. -/
def CaddyHost.other (h : CaddyHost) : Option String :=
  otherEndpoint h.server.manager.ourEndpoint h.endpoint

/-- One step of a server beside Caddy. Another application sets an endpoint of its own. -/
def hostStep (h : CaddyHost) : HostStep → Option CaddyHost
  | .server l => (caddyStep h.server h.endpoint l).map fun (server, endpoint) => ⟨server, endpoint⟩
  | .other endpoint =>
    if endpoint ≠ "" ∧ endpoint ≠ h.server.manager.ourEndpoint then
      some { h with endpoint := some endpoint }
    else none

/-- An endpoint of another application is not the server's own. -/
theorem otherEndpoint_eq_some {ourEndpoint e : String} {endpoint : Option String}
    (h : otherEndpoint ourEndpoint endpoint = some e) : endpoint = some e ∧ e ≠ ourEndpoint := by
  unfold otherEndpoint at h
  obtain ⟨hsome, hother⟩ := Option.filter_eq_some_iff.mp h
  exact ⟨hsome, (of_decide_eq_true hother).2⟩

end ZoTunnel
