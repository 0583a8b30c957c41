import ZoTunnel.Server.Ownership

/-!
# The route that a client is promised

`handle_client` writes `AuthRes { success: true, assigned_route: Some(id) }` before it registers the
client, and `register` fails for a reserved id and for an id that another session is serving. A
client that was promised its route is then dropped without a word, where a client with a wrong token
is told so. `promise_kept_iff` says along which runs the promises are kept.
-/

namespace ZoTunnel

open Transition

variable {config : ServerConfig} {S : Serde}

/-- The server has told the client of a session that it is connected under this route. -/
def Session.Promised (session : Session) (id : String) : Prop :=
  ∃ res, .authRes res ∈ session.sent ∧ res.success = true ∧ res.assignedRoute = some id

/-- A session keeps the promise of a route: it has yet to register the id, or owns it, or its driver
has ended. -/
def Session.Keeps (session : Session) (registry : Registry) (sid : ℕ) (id : String) : Prop :=
  match session.phase with
  | .spawning clientId _ | .registering clientId _ _ => clientId = id
  | .serving clientId _ => clientId = id ∧ registry.owner id = some sid
  | .closed .unregistered => session.driver = false
  | _ => False

/-- Every session keeps its promise. -/
def PromisesKept (s : ServerState) : Prop :=
  ∀ sid id, (s.sessions sid).Promised id → (s.sessions sid).Keeps s.registry sid id

/-- A session that is about to register has an id that is not reserved, and that no session is
serving. -/
def RegistersFree (s : ServerState) : ServerStep → Prop
  | .session sid (.register _) =>
    ∀ id supportsHeartbeat handle,
      (s.sessions sid).phase = .registering id supportsHeartbeat handle →
        id ∉ reservedSubdomains ∧ ∀ sid' handle', (s.sessions sid').phase ≠ .serving id handle'
  | _ => True

/-- The only promise in a successful response is the client id. -/
theorem promised_welcome {session : Session} {clientId id : String}
    (hsent : session.sent = [.authRes (welcome config clientId)]) :
    session.Promised id ↔ clientId = id := by
  unfold Session.Promised
  rw [hsent]
  constructor
  · rintro ⟨res, hres, -, hroute⟩
    obtain rfl : res = welcome config clientId := by simpa using hres
    exact Option.some.inj hroute
  · rintro rfl
    exact ⟨_, List.mem_singleton.mpr rfl, rfl, rfl⟩

/-- The promises are kept in a reachable state exactly if `register` has refused no session. -/
theorem Inv.promisesKept_iff {s : ServerState} (hinv : Inv config S s) :
    PromisesKept s ↔ ∀ sid, (s.sessions sid).phase ≠ .closed .refused := by
  constructor
  · intro hkept sid hphase
    obtain ⟨id, hsent⟩ := hinv.refused hphase
    have hkeeps := hkept sid id ((promised_welcome hsent).mpr rfl)
    unfold Session.Keeps at hkeeps
    rw [hphase] at hkeeps
    exact hkeeps
  · intro hrefused sid id hpromised
    have hsound := hinv.sound sid
    have hsilent : (s.sessions sid).sent ≠ [] := by
      obtain ⟨res, hres, -⟩ := hpromised
      exact List.ne_nil_of_mem hres
    unfold Session.Sound at hsound
    unfold Session.Keeps
    -- By the phase: only a session that has sent its welcome has promised.
    cases hphase : (s.sessions sid).phase with
    | idle =>
      rw [hphase] at hsound
      exact absurd hsound.2 hsilent
    | reading | rejecting =>
      rw [hphase] at hsound
      exact absurd hsound hsilent
    | validating | accepting =>
      rw [hphase] at hsound
      exact absurd hsound.1 hsilent
    | spawning clientId supportsHeartbeat | registering clientId supportsHeartbeat handle =>
      rw [hphase] at hsound
      exact (promised_welcome hsound.1).mp hpromised
    | serving clientId handle =>
      rw [hphase] at hsound
      obtain rfl := (promised_welcome hsound.1).mp hpromised
      refine ⟨rfl, (hinv.owner_iff _ sid).mpr ?_⟩
      unfold Session.lease
      rw [hphase]
    | closed outcome =>
      rw [hphase] at hsound
      cases outcome with
      | unregistered => exact hsound.1
      | refused => exact hrefused sid hphase
      | authFailed =>
        obtain ⟨res, hres, hsuccess, -⟩ := hpromised
        have hsent : (s.sessions sid).sent = [.authRes rejection] := hsound
        obtain rfl : res = rejection := by simpa [hsent] using hres
        exact absurd hsuccess (by decide)
      | authTimeout | readError | notAuthReq | writeError => exact absurd hsound hsilent

/-- A step that registers no id that is taken leads no session to the refusal. -/
theorem HandleClient.not_refused {sid : ℕ} {session session' : Session}
    {registry registry' : Registry} {l : SessionStep}
    (h : HandleClient config S sid session registry l session' registry')
    (hsession : session.phase ≠ .closed .refused)
    (hfree : ∀ now id supportsHeartbeat handle, l = .register now →
      session.phase = .registering id supportsHeartbeat handle →
        id ∉ reservedSubdomains ∧ registry.get id = none) :
    session'.phase ≠ .closed .refused := by
  cases h with
  | refused id supportsHeartbeat handle now hphase hrefused =>
    exact absurd (hfree now id supportsHeartbeat handle rfl hphase) hrefused
  | driverEnded => exact hsession
  | readError hphase outcome houtcome => rcases houtcome with rfl | rfl <;> exact nofun
  | _ => exact nofun

/-- No session is serving an id exactly if the registry has no entry for it. -/
theorem Inv.get_eq_none_iff {s : ServerState} (hinv : Inv config S s) (id : String) :
    s.registry.get id = none ↔ ∀ sid handle, (s.sessions sid).phase ≠ .serving id handle := by
  constructor
  · intro hnone sid handle hphase
    obtain ⟨entry, hget, -⟩ := hinv.owned.serving sid id handle hphase
    rw [hnone] at hget
    cases hget
  · intro hserving
    cases hget : s.registry.get id with
    | none => rfl
    | some entry => exact absurd (hinv.entry hget).1 (hserving _ _)

/-- The promised routes are kept along a run exactly if every session registers an id that is not
reserved, and that no session is serving at that moment. -/
theorem promise_kept_iff (config : ServerConfig) (S : Serde) (maxPerSecond : UInt32)
    (labels : List ServerStep) :
    Visits (serverStep config S) PromisesKept (.new maxPerSecond) labels ↔
      Meets (serverStep config S) RegistersFree (.new maxPerSecond) labels := by
  refine visits_iff_meets
    (I := fun s => Inv config S s ∧ ∀ sid, (s.sessions sid).phase ≠ .closed .refused)
    ?_ (fun s h => h.1.promisesKept_iff.mpr h.2) ?_
    ⟨inv_new config S maxPerSecond, fun sid => nofun⟩ labels
  · rintro s l s' ⟨hinv, hrefused⟩ hfree h
    refine ⟨hinv.step h, ?_⟩
    cases l with
    | request rid l =>
      have hstep := handleProxyRequest_cases h
      rw [hstep.sessions]
      exact hrefused
    | session sid l =>
      obtain ⟨-, -, session', hsessions, hrule⟩ := handleClient_cases h
      intro sid'
      rw [hsessions]
      rcases eq_or_ne sid' sid with rfl | hne
      · rw [Function.update_self]
        refine hrule.not_refused (hrefused sid') fun now id supportsHeartbeat handle hl hphase => ?_
        subst hl
        obtain ⟨hreserved, hserving⟩ := hfree id supportsHeartbeat handle hphase
        exact ⟨hreserved, (hinv.get_eq_none_iff id).mpr hserving⟩
      · rw [Function.update_of_ne hne]
        exact hrefused sid'
  · rintro s l s' ⟨hinv, hrefused⟩ htaken h hkept
    have hnotRefused := (hinv.step h).promisesKept_iff.mp hkept
    -- A step outside the condition is a `register` of an id that is reserved or taken.
    cases l with
    | request rid l => exact htaken trivial
    | session sid l =>
      obtain ⟨-, -, session', hsessions, hrule⟩ := handleClient_cases h
      generalize s'.registry = registry' at hrule
      cases l with
      | register now =>
        cases hrule with
        | registered id supportsHeartbeat handle _ hphase hreserved hvacant =>
          refine htaken fun id' supportsHeartbeat' handle' hphase' => ?_
          obtain ⟨rfl, -, -⟩ := Phase.registering.inj (hphase.symm.trans hphase')
          exact ⟨hreserved, (hinv.get_eq_none_iff id).mp hvacant⟩
        | refused id supportsHeartbeat handle _ hphase hrefused =>
          apply hnotRefused sid
          rw [hsessions, Function.update_self]
      | _ => exact htaken trivial

/-- Two clients with the id `app` connect, and both are promised the route `app`. The second to
register is refused. -/
theorem promise_broken :
    ¬ ∀ (config : ServerConfig) (S : Serde) (maxPerSecond : UInt32) (labels : List ServerStep),
      Visits (serverStep config S) PromisesKept (.new maxPerSecond) labels := by
  intro h
  let config : ServerConfig := ⟨6210, "tunnel.example.com", ⟨["t0k"]⟩⟩
  let labels := handshakeSteps 0 ++ handshakeSteps 1 ++
    [.session 0 .spawnDriver, .session 0 (.register 0), .session 1 .spawnDriver,
      .session 1 (.register 0)]
  have hphase : ((exec (serverStep config handshakeSerde) (.new 100) labels).map
      fun s => (s.sessions 1).phase) = some (.closed .refused) := by decide
  have hsent : ((exec (serverStep config handshakeSerde) (.new 100) labels).map
      fun s => (s.sessions 1).sent) = some [.authRes (welcome config "app")] := by decide
  obtain ⟨s, hrun, hphase⟩ := Option.map_eq_some_iff.mp hphase
  rw [hrun] at hsent
  have hkeeps := (h config handshakeSerde 100 labels).last hrun 1 "app"
    ((promised_welcome (Option.some.inj hsent)).mpr rfl)
  unfold Session.Keeps at hkeeps
  rw [hphase] at hkeeps
  exact hkeeps

end ZoTunnel
