import ZoTunnel.Lib.Lease
import ZoTunnel.Server.Session

/-!
# Who owns a client id

`Registry::unregister` removes by name: it does not check that the session calling it inserted the
entry. The registry is sound all the same, because it refines a lease table (`Lease.Table`) between
client ids and sessions, in which a session holds an id exactly from its successful `register` to
its `unregister`. A session only ever gives up the id that it holds.

`Inv` is the inductive invariant: the lease table, what each session knows in its phase
(`Session.Sound`), and where the entries come from that the requests hold. From it follow
`registry_ownership`, which says who the entries belong to in every state of every run, and
`promise_kept_iff`, which says along which runs a client that was sent a successful `AuthRes`
becomes the owner of its id.
-/

namespace ZoTunnel

open Transition

variable {config : ServerConfig} {S : Serde}

/-! ## What a session knows in its phase -/

/-- The first frame of a session's peer is an `AuthReq` with this client id and a valid token. -/
def Session.Authenticated (config : ServerConfig) (S : Serde) (session : Session) (id : String) :
    Prop :=
  ∃ auth rest, readMessage S session.peer = .ok (.authReq auth, rest) ∧ auth.clientId = id ∧
    config.validateToken auth.token = true

/-- The client id that a session holds, from its `register` to its `unregister`. -/
def Session.lease (session : Session) : Option String :=
  match session.phase with
  | .serving clientId _ => some clientId
  | _ => none

/-- What a session has read and written when it is in its phase. -/
def Session.Sound (config : ServerConfig) (S : Serde) (sid : ℕ) (session : Session) : Prop :=
  match session.phase with
  | .idle => session.peer = [] ∧ session.sent = []
  | .reading => session.sent = []
  | .validating auth =>
    session.sent = [] ∧ ∃ rest, readMessage S session.peer = .ok (.authReq auth, rest)
  | .rejecting _ => session.sent = []
  | .accepting auth => session.sent = [] ∧ session.Authenticated config S auth.clientId
  | .spawning id _ =>
    session.sent = [.authRes (welcome config id)] ∧ session.Authenticated config S id
  | .registering id _ handle | .serving id handle =>
    session.sent = [.authRes (welcome config id)] ∧ session.Authenticated config S id ∧
      handle = ⟨sid⟩
  | .closed .authFailed => session.sent = [.authRes rejection]
  | .closed .refused => ∃ id, session.sent = [.authRes (welcome config id)]
  | .closed .unregistered =>
    session.driver = false ∧ ∃ id, session.sent = [.authRes (welcome config id)]
  | .closed _ => session.sent = []

/-- No frame can be read from a connection that is not accepted yet. -/
theorem not_authenticated_of_idle {sid : ℕ} {session : Session} {id : String}
    (h : session.Sound config S sid) (hidle : session.phase = .idle) :
    ¬ session.Authenticated config S id := by
  unfold Session.Sound at h
  rw [hidle] at h
  rintro ⟨auth, rest, hread, -, -⟩
  rw [h.1] at hread
  cases hread

/-- A session stays authenticated. -/
theorem HandleClient.authenticated {sid : ℕ} {session session' : Session}
    {registry registry' : Registry} {l : SessionStep} {id : String}
    (h : HandleClient config S sid session registry l session' registry')
    (hsound : session.Sound config S sid) (hauth : session.Authenticated config S id) :
    session'.Authenticated config S id := by
  cases h with
  | accept peer hidle => exact absurd hauth (not_authenticated_of_idle hsound hidle)
  | _ => exact hauth

/-- A step keeps what the session knows. -/
theorem HandleClient.sound {sid : ℕ} {session session' : Session} {registry registry' : Registry}
    {l : SessionStep} (h : HandleClient config S sid session registry l session' registry')
    (hsound : session.Sound config S sid) : session'.Sound config S sid := by
  unfold Session.Sound at hsound
  cases h with
  | accept peer h =>
    rw [h] at hsound
    exact hsound.2
  | authTimeout h =>
    rw [h] at hsound
    exact hsound
  | readError h outcome houtcome =>
    rw [h] at hsound
    rcases houtcome with rfl | rfl <;> exact hsound
  | readAuth h auth rest hread =>
    rw [h] at hsound
    exact ⟨hsound, rest, hread⟩
  | valid auth h hvalid =>
    rw [h] at hsound
    obtain ⟨hsent, rest, hread⟩ := hsound
    exact ⟨hsent, auth, rest, hread, rfl, hvalid⟩
  | invalid auth h hinvalid =>
    rw [h] at hsound
    exact hsound.1
  | writeError auth h =>
    rcases h with h | h
    · rw [h] at hsound
      exact hsound
    · rw [h] at hsound
      exact hsound.1
  | authFailed auth h =>
    rw [h] at hsound
    show session.sent ++ _ = _
    rw [hsound, List.nil_append]
  | welcomed auth h =>
    rw [h] at hsound
    refine ⟨?_, hsound.2⟩
    show session.sent ++ _ = _
    rw [hsound.1, List.nil_append]
  | spawned clientId supportsHeartbeat h =>
    rw [h] at hsound
    exact ⟨hsound.1, hsound.2, rfl⟩
  | registered clientId supportsHeartbeat handle now h hreserved hvacant =>
    rw [h] at hsound
    exact hsound
  | refused clientId supportsHeartbeat handle now h hrefused =>
    rw [h] at hsound
    exact ⟨clientId, hsound.1⟩
  | driverEnded h =>
    -- Only the phase after `unregister` says anything about the driver.
    obtain ⟨peer, phase, sent, driver⟩ := session
    cases phase with
    | closed outcome =>
      cases outcome with
      | unregistered => exact ⟨rfl, hsound.2⟩
      | _ => exact hsound
    | _ => exact hsound
  | unregistered clientId handle h hdriver =>
    rw [h] at hsound
    exact ⟨hdriver, clientId, hsound.1⟩

/-! ## The invariant -/

/-- The session whose handle the entry of a client id holds. -/
def Registry.owner (registry : Registry) (id : String) : Option ℕ :=
  (registry.get id).map fun entry => entry.handle.cmdTx

/-- The handle is the one of a session that authenticated as this client id. -/
def Backed (config : ServerConfig) (S : Serde) (sessions : ℕ → Session) (id : String)
    (handle : YamuxHandle) : Prop :=
  (sessions handle.cmdTx).Authenticated config S id

/-- The owners after a registration. -/
theorem Registry.owner_insert (registry : Registry) (entry : ClientEntry)
    (h : entry.clientId ∉ reservedSubdomains) :
    (registry.insert entry h).owner =
      Function.update registry.owner entry.clientId (some entry.handle.cmdTx) := by
  funext id
  unfold Registry.owner
  rw [Registry.get_insert]
  by_cases hid : id = entry.clientId
  · rw [if_pos hid, hid, Function.update_self]
    rfl
  · rw [if_neg hid, Function.update_of_ne hid]

/-- The owners after an id is unregistered. -/
theorem Registry.owner_unregister (registry : Registry) (clientId : String) :
    (registry.unregister clientId).owner = Function.update registry.owner clientId none := by
  funext id
  unfold Registry.owner
  rw [Registry.get_unregister]
  by_cases hid : id = clientId
  · rw [if_pos hid, hid, Function.update_self]
    rfl
  · rw [if_neg hid, Function.update_of_ne hid]

/-- A step of a session is a step of the lease table: `register` acquires the id, `unregister`
releases it, and the other steps leave the table as it is. -/
theorem HandleClient.leases {sid : ℕ} {session session' : Session} {registry registry' : Registry}
    {l : SessionStep} (h : HandleClient config S sid session registry l session' registry')
    (hsound : session.Sound config S sid) (t : Lease.Table String ℕ)
    (howner : t.owner = registry.owner) (hholds : t.holds sid = session.lease) :
    ∃ t' : Lease.Table String ℕ, t'.owner = registry'.owner ∧
      t'.holds = Function.update t.holds sid session'.lease := by
  -- Most steps change neither the lease of the session nor the registry.
  have hstutter : session'.lease = session.lease → registry' = registry →
      ∃ t' : Lease.Table String ℕ, t'.owner = registry'.owner ∧
        t'.holds = Function.update t.holds sid session'.lease := by
    intro hlease hregistry
    refine ⟨t, by rw [howner, hregistry], ?_⟩
    rw [hlease, ← hholds, Function.update_eq_self]
  cases h with
  | registered clientId supportsHeartbeat handle now hphase hreserved hvacant =>
    have hnone : session.lease = none := by
      unfold Session.lease
      rw [hphase]
    have hfree : t.owner clientId = none := by
      rw [howner]
      unfold Registry.owner
      rw [hvacant]
      rfl
    -- The driver's handle carries the number of the session itself.
    have hhandle : handle = ⟨sid⟩ := by
      unfold Session.Sound at hsound
      rw [hphase] at hsound
      exact hsound.2.2
    refine ⟨t.acquire clientId sid hfree (by rw [hholds, hnone]), ?_, rfl⟩
    rw [Registry.owner_insert, ← howner, hhandle]
    rfl
  | unregistered clientId handle hphase hdriver =>
    have hlease : session.lease = some clientId := by
      unfold Session.lease
      rw [hphase]
    refine ⟨t.release clientId sid (by rw [hholds, hlease]), ?_, rfl⟩
    rw [Registry.owner_unregister, ← howner]
    rfl
  | driverEnded => exact hstutter rfl rfl
  | writeError auth hphase =>
    refine hstutter ?_ rfl
    unfold Session.lease
    rcases hphase with hphase | hphase <;> rw [hphase]
  | accept _ hphase | authTimeout hphase | readError hphase | readAuth hphase | valid _ hphase
  | invalid _ hphase | authFailed _ hphase | welcomed _ hphase | spawned _ _ hphase
  | refused _ _ _ _ hphase =>
    refine hstutter ?_ rfl
    unfold Session.lease
    rw [hphase]

/-- The inductive invariant of the server. -/
structure Inv (config : ServerConfig) (S : Serde) (s : ServerState) : Prop where
  /-- The registry and the sessions' phases are the two sides of a lease table. -/
  leases : ∃ t : Lease.Table String ℕ, t.owner = s.registry.owner ∧
    t.holds = fun sid => (s.sessions sid).lease
  sound : ∀ sid, (s.sessions sid).Sound config S sid
  /-- A request holds the entry of a session that authenticated as the request's client id. -/
  held : ∀ rid id client, (s.requests rid).client? = some (id, client) →
    Backed config S s.sessions id client.handle
  /-- So does every stream that was opened. -/
  opened : ∀ id handle, (id, handle) ∈ s.opened → Backed config S s.sessions id handle

/-- The invariant holds at the start. -/
theorem inv_new (config : ServerConfig) (S : Serde) (maxPerSecond : UInt32) :
    Inv config S (.new maxPerSecond) where
  leases := ⟨.empty, rfl, rfl⟩
  sound _ := ⟨rfl, rfl⟩
  held rid id client h := by cases h
  opened id handle h := by cases h

/-- A step of a session preserves the invariant. -/
theorem Inv.handleClient {s s' : ServerState} {sid : ℕ} {l : SessionStep}
    (hinv : Inv config S s) (h : handleClient config S s sid l = some s') : Inv config S s' := by
  obtain ⟨hrequests, hopened, session', hsessions, hrule⟩ := handleClient_cases h
  -- What is backed by a session stays so, as a session stays authenticated.
  have hauth : ∀ id handle, Backed config S s.sessions id handle →
      Backed config S s'.sessions id handle := by
    intro id handle hbacked
    unfold Backed at hbacked ⊢
    rw [hsessions]
    rcases eq_or_ne handle.cmdTx sid with heq | hne
    · rw [heq, Function.update_self]
      rw [heq] at hbacked
      exact hrule.authenticated (hinv.sound sid) hbacked
    · rw [Function.update_of_ne hne]
      exact hbacked
  refine ⟨?_, fun sid' => ?_, fun rid id client hc => ?_, fun id handle ho => ?_⟩
  · obtain ⟨t, howner, hholds⟩ := hinv.leases
    obtain ⟨t', howner', hholds'⟩ := hrule.leases (hinv.sound sid) t howner (by rw [hholds])
    refine ⟨t', howner', ?_⟩
    funext sid'
    rw [hholds', hholds, hsessions]
    rcases eq_or_ne sid' sid with rfl | hne
    · rw [Function.update_self, Function.update_self]
    · rw [Function.update_of_ne hne, Function.update_of_ne hne]
  · rw [hsessions]
    rcases eq_or_ne sid' sid with rfl | hne
    · rw [Function.update_self]
      exact hrule.sound (hinv.sound sid')
    · rw [Function.update_of_ne hne]
      exact hinv.sound sid'
  · rw [hrequests] at hc
    exact hauth id client.handle (hinv.held rid id client hc)
  · rw [hopened] at ho
    exact hauth id handle (hinv.opened id handle ho)

/-- The session that owns an id is the one that is serving it. -/
theorem Inv.owner_iff {s : ServerState} (hinv : Inv config S s) (id : String) (sid : ℕ) :
    s.registry.owner id = some sid ↔ (s.sessions sid).lease = some id := by
  obtain ⟨t, howner, hholds⟩ := hinv.leases
  have hagree := t.agree id sid
  rw [howner, hholds] at hagree
  exact hagree

/-- A session that is serving a client id holds its own handle, and is authenticated. -/
theorem Inv.serving {s : ServerState} (hinv : Inv config S s) {sid : ℕ} {id : String}
    {handle : YamuxHandle} (hphase : (s.sessions sid).phase = .serving id handle) :
    (s.sessions sid).Authenticated config S id ∧ handle = ⟨sid⟩ := by
  have hsound := hinv.sound sid
  unfold Session.Sound at hsound
  rw [hphase] at hsound
  exact hsound.2

/-- A session that the registry has refused had been promised its id. -/
theorem Inv.refused {s : ServerState} (hinv : Inv config S s) {sid : ℕ}
    (hphase : (s.sessions sid).phase = .closed .refused) :
    ∃ id, (s.sessions sid).sent = [.authRes (welcome config id)] := by
  have hsound := hinv.sound sid
  unfold Session.Sound at hsound
  rw [hphase] at hsound
  exact hsound

/-- A session whose token was rejected was told so. -/
theorem Inv.authFailed {s : ServerState} (hinv : Inv config S s) {sid : ℕ}
    (hphase : (s.sessions sid).phase = .closed .authFailed) :
    (s.sessions sid).sent = [.authRes rejection] := by
  have hsound := hinv.sound sid
  unfold Session.Sound at hsound
  rw [hphase] at hsound
  exact hsound

/-- An entry of the registry was put there by the session that is serving its client id. -/
theorem Inv.entry {s : ServerState} (hinv : Inv config S s) {id : String} {entry : ClientEntry}
    (hget : s.registry.get id = some entry) :
    (s.sessions entry.handle.cmdTx).phase = .serving id entry.handle ∧
      (s.sessions entry.handle.cmdTx).Authenticated config S id := by
  have howner : s.registry.owner id = some entry.handle.cmdTx := by
    unfold Registry.owner
    rw [hget]
    rfl
  have hlease := (hinv.owner_iff id _).mp howner
  unfold Session.lease at hlease
  split at hlease
  · rename_i clientId handle hphase
    obtain rfl := Option.some.inj hlease
    obtain ⟨hauth, hhandle⟩ := hinv.serving hphase
    rw [hphase, hhandle]
    exact ⟨rfl, hauth⟩
  · cases hlease

/-- A step of a request preserves the invariant. -/
theorem Inv.handleProxyRequest {s s' : ServerState} {rid : ℕ} {l : RequestStep}
    (hinv : Inv config S s) (h : handleProxyRequest config s rid l = some s') :
    Inv config S s' := by
  have hstep := handleProxyRequest_cases h
  refine ⟨?_, ?_, fun rid' id client hc => ?_, fun id handle ho => ?_⟩
  · rw [hstep.sessions, hstep.registry]
    exact hinv.leases
  · rw [hstep.sessions]
    exact hinv.sound
  · rw [hstep.sessions]
    -- An entry that the request looked up is one of the registry.
    rcases eq_or_ne rid' rid with rfl | hne
    · rcases hstep.client id client hc with hheld | hget
      · exact hinv.held rid' id client hheld
      · exact (hinv.entry hget).2
    · rw [hstep.others rid' hne] at hc
      exact hinv.held rid' id client hc
  · rw [hstep.sessions]
    rcases hstep.opened id handle ho with ho | ⟨client, hheld, rfl⟩
    · exact hinv.opened id handle ho
    · exact hinv.held rid id client hheld

/-- Every step of the server preserves the invariant. -/
theorem Inv.step {s s' : ServerState} {l : ServerStep} (hinv : Inv config S s)
    (h : serverStep config S s l = some s') : Inv config S s' := by
  cases l with
  | session sid l => exact hinv.handleClient h
  | request rid l => exact hinv.handleProxyRequest h

/-! ## Who the entries belong to -/

/-- Who the entries of the registry and the opened streams belong to. -/
structure Owned (config : ServerConfig) (S : Serde) (s : ServerState) : Prop where
  /-- An entry was inserted by a session that authenticated as its client id, has registered and
  not unregistered, and holds that session's handle. -/
  entry : ∀ id entry, s.registry.get id = some entry →
    id ∉ reservedSubdomains ∧ ∃ sid, (s.sessions sid).Authenticated config S id ∧
      (s.sessions sid).phase = .serving id entry.handle ∧ entry.handle = ⟨sid⟩
  /-- A session finds its own entry from its `register` to its `unregister`. -/
  serving : ∀ sid id handle, (s.sessions sid).phase = .serving id handle →
    ∃ entry, s.registry.get id = some entry ∧ entry.clientId = id ∧ entry.handle = ⟨sid⟩
  /-- A stream for a client id was opened on the handle of a session that authenticated as it. -/
  opened : ∀ id handle, (id, handle) ∈ s.opened →
    ∃ sid, handle = ⟨sid⟩ ∧ (s.sessions sid).Authenticated config S id

/-- The invariant says who everything belongs to. -/
theorem Inv.owned {s : ServerState} (hinv : Inv config S s) : Owned config S s where
  entry id entry hget := by
    obtain ⟨hphase, hauth⟩ := hinv.entry hget
    exact ⟨s.registry.unreserved id entry hget, _, hauth, hphase, rfl⟩
  serving sid id handle hphase := by
    have hlease : (s.sessions sid).lease = some id := by
      unfold Session.lease
      rw [hphase]
    have howner := (hinv.owner_iff id sid).mpr hlease
    unfold Registry.owner at howner
    obtain ⟨entry, hget, hcmd⟩ := Option.map_eq_some_iff.mp howner
    exact ⟨entry, hget, s.registry.keyed id entry hget, congrArg YamuxHandle.mk hcmd⟩
  opened id handle ho := ⟨handle.cmdTx, rfl, hinv.opened id handle ho⟩

/-- Registry ownership: in every state of every interleaving of sessions and requests, the entries
and the opened streams belong to sessions that authenticated as their client id, and no session's
`unregister` removes the entry of another. -/
theorem registry_ownership (config : ServerConfig) (S : Serde) (maxPerSecond : UInt32)
    (labels : List ServerStep) :
    Visits (serverStep config S) (Owned config S) (.new maxPerSecond) labels :=
  (visits_of_invariant (fun _ _ _ hinv h => Inv.step hinv h) (inv_new config S maxPerSecond)
    labels).mono fun _ hinv => hinv.owned

end ZoTunnel
