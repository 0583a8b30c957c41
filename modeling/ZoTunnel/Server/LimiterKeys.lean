import ZoTunnel.Server.Session

/-!
# The keys of the rate limiter

`RateLimiter::check` adds the name that it is asked about to its table, and nothing removes a name
from it. The proxy asks before it looks the name up in the registry. So the table holds every name
under the base domain that a visitor has put into a `host` header, which `limiter_keys_iff` states:
the keys of the table are client ids that were registered exactly along the runs in which each
request that reaches the limiter names one.
-/

namespace ZoTunnel

open Transition

/-- The server with a record of the client ids that were registered so far. -/
structure Recorded where
  server : ServerState
  registered : List String

/-- The record after a step that leads to the state `s'`: a `register` that succeeds adds its id. -/
def record (registered : List String) (s' : ServerState) : ServerStep → List String
  | .session sid (.register _) =>
    match (s'.sessions sid).phase with
    | .serving clientId _ => clientId :: registered
    | _ => registered
  | _ => registered

/-- One step of the server, with its record. -/
def recordedStep (config : ServerConfig) (S : Serde) (r : Recorded) (l : ServerStep) :
    Option Recorded :=
  (serverStep config S r.server l).map fun s' => ⟨s', record r.registered s' l⟩

/-- The server at its start, with nothing recorded. -/
def Recorded.new (maxPerSecond : UInt32) : Recorded := ⟨.new maxPerSecond, []⟩

/-- Every key of the limiter's table is a client id that was registered. -/
def KeysRegistered (r : Recorded) : Prop :=
  ∀ key, key ∈ r.server.limiter.counters → key ∈ r.registered

/-- A request that reaches the limiter names a client id that was registered, if there is a limit.
-/
def LimitsRegistered (r : Recorded) : ServerStep → Prop
  | .request rid (.limit _) =>
    match r.server.requests rid with
    | .routed clientId => r.server.limiter.maxPerSecond = 0 ∨ clientId ∈ r.registered
    | _ => True
  | _ => True

variable {config : ServerConfig} {S : Serde}

/-- A session never changes the limiter. -/
theorem handleClient_limiter {s s' : ServerState} {sid : ℕ} {l : SessionStep}
    (h : handleClient config S s sid l = some s') : s'.limiter = s.limiter := by
  unfold handleClient at h
  dsimp only at h
  split at h
  all_goals first | (obtain rfl := Option.some.inj h; rfl) | skip
  · split at h <;> (obtain rfl := Option.some.inj h; rfl)
  · split_ifs at h <;> (obtain rfl := Option.some.inj h; rfl)
  · split at h <;> (obtain rfl := Option.some.inj h; rfl)
  · split_ifs at h
    obtain rfl := Option.some.inj h
    rfl
  · split_ifs at h
    obtain rfl := Option.some.inj h
    rfl
  · cases h

/-- A request changes the limiter when it asks it, and in no other step. -/
theorem handleProxyRequest_limiter {s s' : ServerState} {rid : ℕ} {l : RequestStep}
    (h : handleProxyRequest config s rid l = some s') :
    (∀ now, l ≠ .limit now) ∧ s'.limiter = s.limiter ∨
      ∃ now clientId, l = .limit now ∧ s.requests rid = .routed clientId ∧
        s'.limiter = (s.limiter.check clientId now).2 := by
  unfold handleProxyRequest at h
  split at h
  all_goals first | (obtain rfl := Option.some.inj h; exact .inl ⟨fun _ => nofun, rfl⟩) | skip
  · dsimp only at h
    split at h <;> (obtain rfl := Option.some.inj h; exact .inl ⟨fun _ => nofun, rfl⟩)
  · rename_i now clientId hphase
    refine .inr ⟨now, clientId, rfl, hphase, ?_⟩
    split at h
    · rename_i limiter hcheck
      obtain rfl := Option.some.inj h
      rw [hcheck]
    · rename_i limiter hcheck
      obtain rfl := Option.some.inj h
      rw [hcheck]
  · split at h <;> (obtain rfl := Option.some.inj h; exact .inl ⟨fun _ => nofun, rfl⟩)
  · cases h

/-- A step other than one that asks the limiter leaves it as it is. -/
theorem recordedStep_limiter {r r' : Recorded} {l : ServerStep}
    (h : recordedStep config S r l = some r') :
    (∀ rid now, l ≠ .request rid (.limit now)) ∧ r'.server.limiter = r.server.limiter ∨
      ∃ rid now clientId, l = .request rid (.limit now) ∧
        r.server.requests rid = .routed clientId ∧
        r'.server.limiter = (r.server.limiter.check clientId now).2 := by
  obtain ⟨s', hs', rfl⟩ := Option.map_eq_some_iff.mp h
  cases l with
  | session sid l => exact .inl ⟨fun _ _ => nofun, handleClient_limiter hs'⟩
  | request rid l =>
    rcases handleProxyRequest_limiter hs' with ⟨hl, hsame⟩ | ⟨now, clientId, rfl, hphase, hcheck⟩
    · refine .inl ⟨fun rid' now heq => ?_, hsame⟩
      obtain ⟨-, rfl⟩ := ServerStep.request.inj heq
      exact hl now rfl
    · exact .inr ⟨rid, now, clientId, rfl, hphase, hcheck⟩

/-- The record only grows, and only by a `register`. -/
theorem recordedStep_registered {r r' : Recorded} {l : ServerStep}
    (h : recordedStep config S r l = some r') :
    r.registered ⊆ r'.registered ∧
      ∀ rid now, l = .request rid (.limit now) → r'.registered = r.registered := by
  obtain ⟨s', -, rfl⟩ := Option.map_eq_some_iff.mp h
  refine ⟨?_, fun rid now hl => by subst hl; rfl⟩
  unfold record
  dsimp only
  split
  · split
    · exact List.subset_cons_self _ _
    · exact List.Subset.refl _
  · exact List.Subset.refl _

/-- The condition on a request that asks the limiter. -/
theorem limitsRegistered_limit {r : Recorded} {rid : ℕ} {now : Instant} {clientId : String}
    (hphase : r.server.requests rid = .routed clientId) :
    LimitsRegistered r (.request rid (.limit now)) ↔
      r.server.limiter.maxPerSecond = 0 ∨ clientId ∈ r.registered := by
  unfold LimitsRegistered
  dsimp only
  rw [hphase]

/-- The keys of the limiter's table are client ids that were registered in every state of a run
exactly if each request that reaches the limiter names one. -/
theorem limiter_keys_iff (config : ServerConfig) (S : Serde) (maxPerSecond : UInt32)
    (labels : List ServerStep) :
    Visits (recordedStep config S) KeysRegistered (.new maxPerSecond) labels ↔
      Meets (recordedStep config S) LimitsRegistered (.new maxPerSecond) labels := by
  refine visits_iff_meets (I := KeysRegistered) ?_ (fun _ h => h) ?_ ?_ labels
  · intro r l r' hinv hlimits h
    obtain ⟨hgrows, -⟩ := recordedStep_registered h
    rcases recordedStep_limiter h with ⟨-, hsame⟩ | ⟨rid, now, clientId, rfl, hphase, hcheck⟩
    · intro key hkey
      rw [hsame] at hkey
      exact hgrows (hinv key hkey)
    · intro key hkey
      rw [hcheck] at hkey
      rcases (limitsRegistered_limit hphase).mp hlimits with hzero | hknown
      · rw [RateLimiter.check_of_zero hzero] at hkey
        exact hgrows (hinv key hkey)
      · by_cases hzero : r.server.limiter.maxPerSecond = 0
        · rw [RateLimiter.check_of_zero hzero] at hkey
          exact hgrows (hinv key hkey)
        · rcases (RateLimiter.mem_check hzero clientId now key).mp hkey with rfl | hold
          · exact hgrows hknown
          · exact hgrows (hinv key hold)
  · intro r l r' hinv hunknown h hkeys
    rcases recordedStep_limiter h with ⟨hl, -⟩ | ⟨rid, now, clientId, rfl, hphase, hcheck⟩
    · -- A step that does not ask the limiter meets the condition.
      apply hunknown
      unfold LimitsRegistered
      split
      · exact absurd rfl (hl _ _)
      · trivial
    · rw [limitsRegistered_limit hphase, not_or] at hunknown
      obtain ⟨hzero, hnew⟩ := hunknown
      have hkey : clientId ∈ r'.server.limiter.counters := by
        rw [hcheck]
        exact (RateLimiter.mem_check hzero clientId now clientId).mpr (.inl rfl)
      have hreg := hkeys clientId hkey
      rw [(recordedStep_registered h).2 rid now rfl] at hreg
      exact hnew hreg
  · intro key hkey
    cases hkey

/-- One request for a name that nobody has registered leaves the name in the table. -/
theorem unregistered_name_kept :
    ¬ ∀ (config : ServerConfig) (S : Serde) (maxPerSecond : UInt32) (labels : List ServerStep),
      Visits (recordedStep config S) KeysRegistered (.new maxPerSecond) labels := by
  intro h
  let config : ServerConfig := ⟨6210, "tunnel.example.com", ⟨["t0k"]⟩⟩
  let labels : List ServerStep :=
    [.request 0 (.arrive ⟨some "nobody.tunnel.example.com", "/"⟩ 0), .request 0 (.limit 0)]
  have hrun : ((exec (recordedStep config handshakeSerde) (.new 100) labels).map fun r =>
      (r.server.limiter.counters.keys, r.registered)) = some (["nobody"], []) := by decide
  obtain ⟨r, hrun, hr⟩ := Option.map_eq_some_iff.mp hrun
  obtain ⟨hkeys, hregistered⟩ := Prod.mk.inj hr
  have hkey : "nobody" ∈ r.server.limiter.counters := by
    rw [AList.mem_keys, hkeys]
    exact List.mem_singleton_self _
  have hreg := (h config handshakeSerde 100 labels).last hrun "nobody" hkey
  rw [hregistered] at hreg
  cases hreg

end ZoTunnel
