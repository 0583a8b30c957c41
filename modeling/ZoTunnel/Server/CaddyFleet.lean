import ZoTunnel.Lib.Chain
import ZoTunnel.Server.Caddy

/-!
# Several servers on one Caddy

Any number of servers with pairwise distinct endpoints share one Caddy. A TLS check that none of
them answers itself goes from the server that Caddy asks to its fallback, and on to the fallback of
that server, as long as the fallback is a server. `Chain.Path` is this walk.

A server makes sure that its fallback is not its own endpoint, and nothing more. `chains_end_iff`
says which saves keep every walk finite: those of an endpoint from which the walk does not come back
to the server that saves it.
-/

namespace ZoTunnel

open Transition Chain

/-- The servers of a fleet, each under its own endpoint, and Caddy's endpoint. An endpoint of an
application that is no server of the fleet stands for a server that takes no steps. An endpoint is
known by its text: a server's address that is written otherwise, as `localhost` for `127.0.0.1`, is
one of an application. -/
structure Fleet where
  servers : String → CaddyServer
  endpoint : Option String

/-- A fleet before its servers have started. -/
def Fleet.new (endpoint : Option String) : Fleet := ⟨fun e => .new e, endpoint⟩

/-- A step of the server with the endpoint `ourEndpoint`. -/
structure FleetStep where
  ourEndpoint : String
  step : CaddyStep
  deriving DecidableEq, Repr

/-- One step of a fleet. -/
def fleetStep (s : Fleet) (l : FleetStep) : Option Fleet :=
  (caddyStep (s.servers l.ourEndpoint) s.endpoint l.step).map fun (server, endpoint) =>
    ⟨Function.update s.servers l.ourEndpoint server, endpoint⟩

/-- The fallback of the server with an endpoint. -/
def Fleet.next (s : Fleet) (endpoint : String) : Option String :=
  (s.servers endpoint).manager.fallbackEndpoint

/-- From every server, following the fallbacks visits no server twice, and comes to an end. -/
def NoLoop (s : Fleet) : Prop := ∀ endpoint, ∃ path, Path s.next endpoint path ∧ path.Nodup

/-- From the server that Caddy asks, following the fallbacks visits no server twice, and comes to an
end. -/
def AskedChainEnds (s : Fleet) : Prop :=
  ∀ endpoint, s.endpoint = some endpoint → ∃ path, Path s.next endpoint path ∧ path.Nodup

/-- A server saves an endpoint from which following the fallbacks does not come to the server
itself. -/
def SavesAway (s : Fleet) (l : FleetStep) : Prop :=
  ∀ saved, (s.servers l.ourEndpoint).saves s.endpoint l.step = some saved →
    ∃ path, Path s.next saved path ∧ l.ourEndpoint ∉ path

/-- No loop means that every walk ends. -/
theorem noLoop_iff {s : Fleet} : NoLoop s ↔ AllEnd s.next := by
  constructor
  · intro h endpoint
    obtain ⟨path, hpath, -⟩ := h endpoint
    exact ⟨path, hpath⟩
  · intro h endpoint
    obtain ⟨path, hpath⟩ := h endpoint
    exact ⟨path, hpath, hpath.nodup⟩

/-- A step puts the endpoint that it saves into its own server's fallback. A step that saves nothing
keeps the fallback or loses it. -/
theorem fleetStep_next {s s' : Fleet} {l : FleetStep} (h : fleetStep s l = some s') :
    ∃ fallback, s'.next = Function.update s.next l.ourEndpoint fallback ∧
      (∀ saved, (s.servers l.ourEndpoint).saves s.endpoint l.step = some saved →
        fallback = some saved) ∧
      ((s.servers l.ourEndpoint).saves s.endpoint l.step = none →
        fallback = s.next l.ourEndpoint ∨ fallback = none) := by
  obtain ⟨⟨server, endpoint⟩, hstep, rfl⟩ := Option.map_eq_some_iff.mp h
  refine ⟨server.manager.fallbackEndpoint, ?_, ?_⟩
  · funext e
    unfold Fleet.next
    rcases eq_or_ne e l.ourEndpoint with rfl | hne
    · simp only [Function.update_self]
    · simp only [Function.update_of_ne hne]
  · exact (caddyStep_cases hstep).fallback

/-- The fallbacks of a fleet form no loop along exactly the runs in which every server saves only
endpoints from which the fallbacks do not lead back to it. Along these, every TLS check that Caddy
asks for comes to an end. -/
theorem chains_end_iff (endpoint : Option String) (labels : List FleetStep) :
    (Visits fleetStep NoLoop (.new endpoint) labels ↔
      Meets fleetStep SavesAway (.new endpoint) labels) ∧
    (Meets fleetStep SavesAway (.new endpoint) labels →
      Visits fleetStep AskedChainEnds (.new endpoint) labels) := by
  have hiff : Visits fleetStep NoLoop (.new endpoint) labels ↔
      Meets fleetStep SavesAway (.new endpoint) labels := by
    refine visits_iff_meets (I := NoLoop) ?_ (fun s h => h) ?_ ?_ labels
    · intro s l s' hloop haway hstep
      obtain ⟨fallback, hnext, hsaved, hkept⟩ := fleetStep_next hstep
      rw [noLoop_iff] at hloop ⊢
      rw [hnext]
      -- The fallbacks change at one server, to what it saves, or not at all, or to none.
      cases hsaves : (s.servers l.ourEndpoint).saves s.endpoint l.step with
      | some saved =>
        rw [hsaved saved hsaves]
        exact hloop.update_some_iff.mpr (haway saved hsaves)
      | none =>
        rcases hkept hsaves with hsame | hnone
        · rw [hsame, Function.update_eq_self]
          exact hloop
        · rw [hnone]
          exact hloop.update_none _
    · intro s l s' hloop hback hstep hloop'
      obtain ⟨fallback, hnext, hsaved, -⟩ := fleetStep_next hstep
      rw [noLoop_iff] at hloop hloop'
      refine hback fun saved hsaves => ?_
      rw [hnext, hsaved saved hsaves] at hloop'
      exact hloop.update_some_iff.mp hloop'
    · exact noLoop_iff.mpr fun e => ⟨[e], .last rfl⟩
  refine ⟨hiff, fun hmeets => (hiff.mpr hmeets).mono fun s h e _ => h e⟩

/-- Two servers start one after the other beside an application that had its endpoint in Caddy, and
the watchdog of the first finds the endpoint of the second. -/
def watchdogFindsSecond (first second : String) : List FleetStep :=
  [⟨first, .registerGet true⟩, ⟨first, .registerPatch .ok⟩, ⟨second, .registerGet true⟩,
    ⟨second, .registerPatch .ok⟩, ⟨first, .watchdogGet true⟩, ⟨first, .watchdogSave⟩]

/-- Two servers become the fallback of each other. -/
theorem chain_loops :
    ¬ ∀ (endpoint : Option String) (labels : List FleetStep),
      Visits fleetStep AskedChainEnds (.new endpoint) labels := by
  intro h
  let first := "http://127.0.0.1:6210/api/tls-check"
  let second := "http://127.0.0.1:7210/api/tls-check"
  let start := Fleet.new (some "http://localhost:2615/api/sites/check-domain")
  let labels := watchdogFindsSecond first second
  have hends : ((exec fleetStep start labels).map
      fun s => (s.endpoint, s.next first, s.next second)) =
      some (some second, some second, some first) := by decide
  obtain ⟨s, hrun, hs⟩ := Option.map_eq_some_iff.mp hends
  obtain ⟨hendpoint, hs⟩ := Prod.mk.inj hs
  obtain ⟨hfirst, hsecond⟩ := Prod.mk.inj hs
  obtain ⟨path, hpath, -⟩ := (h _ labels).last hrun second hendpoint
  exact not_path_of_cycle hsecond hfirst hpath

end ZoTunnel
