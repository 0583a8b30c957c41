import ZoTunnel.Lib.Gauge
import ZoTunnel.Server.Session

/-!
# In-flight accounting

`handle_proxy_request` increments `active_connections`, and `active_streams` of the entry that it
has looked up, and it decrements both by hand on each of its exits. Both counters are gauges
(`Lib/Gauge.lean`) whose holders are the requests in flight. `Counts` says what a step of a request
does to them. The one step that lets an entry go with no decrement is the drop of the future at an
await point.

`accounting_iff` characterizes the runs in which the counters are right all along: those in which no
request in flight is dropped, and in which the counters have room for the requests.
-/

namespace ZoTunnel

open Transition

variable {config : ServerConfig} {S : Serde}

/-- The requests in flight on an entry with the property `p`: they have incremented the counters,
and have neither returned nor been dropped. -/
def ServerState.inFlight (s : ServerState) (p : ClientEntry → Prop) : Set ℕ :=
  {rid | ∃ id client, (s.requests rid).client? = some (id, client) ∧ p client}

/-- The counters read the number of the requests in flight, on the whole server and on each entry.
-/
structure Accounted (s : ServerState) : Prop where
  connections : Gauge.Reads s.metrics.activeConnections (s.inFlight fun _ => True)
  streams : ∀ addr, Gauge.Reads (s.clientMetrics addr).activeStreams
    (s.inFlight fun client => client.metrics = addr)

/-- No counter wraps below zero in a step. -/
def NoneWraps (s : ServerState) (_ : ServerStep) (s' : ServerState) : Prop :=
  ¬ Gauge.Wraps s.metrics.activeConnections s'.metrics.activeConnections ∧
    ∀ addr, ¬ Gauge.Wraps (s.clientMetrics addr).activeStreams (s'.clientMetrics addr).activeStreams

/-- The step drops no request in flight, and when it puts another one in flight, the counters have
room for it. -/
def KeepsCount (s : ServerState) : ServerStep → Prop
  | .request _ .drop => False
  | .request rid .lookup =>
    match s.requests rid with
    | .admitted id =>
      (s.registry.get id).isSome → (s.inFlight fun _ => True).ncard + 1 < 2^64
    | _ => True
  | _ => True

/-- A lookup that finds its client keeps the count when the counters have room. -/
theorem keepsCount_lookup {s : ServerState} {rid : ℕ} {id : String} {client : ClientEntry}
    (hphase : s.requests rid = .admitted id) (hget : s.registry.get id = some client) :
    KeepsCount s (.request rid .lookup) ↔ (s.inFlight fun _ => True).ncard + 1 < 2^64 := by
  unfold KeepsCount
  dsimp only
  rw [hphase]
  dsimp only
  rw [hget]
  exact ⟨fun h => h rfl, fun h _ => h⟩

/-! ## What a step does to the counters -/

/-- What a step of the request `rid` does to the counters, with the entry that the request holds. -/
inductive Counts (s : ServerState) (rid : ℕ) (l : RequestStep) (s' : ServerState) : Prop where
  /-- The request holds what it held. -/
  | quiet (hdrop : l ≠ .drop)
    (hlookup : ∀ id, s.requests rid = .admitted id → l = .lookup → s.registry.get id = none)
    (hclient : (s'.requests rid).client? = (s.requests rid).client?)
    (hactive : s'.metrics.activeConnections = s.metrics.activeConnections)
    (hstreams : s'.clientMetrics = s.clientMetrics)
  /-- The request has looked its client up. -/
  | track (id : String) (client : ClientEntry) (hl : l = .lookup)
    (hphase : s.requests rid = .admitted id) (hget : s.registry.get id = some client)
    (hafter : (s'.requests rid).client? = some (id, client))
    (hactive : s'.metrics.activeConnections = s.metrics.activeConnections + 1)
    (hstreams : ∀ addr, (s'.clientMetrics addr).activeStreams =
      if addr = client.metrics then (s.clientMetrics addr).activeStreams + 1
      else (s.clientMetrics addr).activeStreams)
  /-- The request returns. -/
  | untrack (id : String) (client : ClientEntry) (hdrop : l ≠ .drop) (hlookup : l ≠ .lookup)
    (hbefore : (s.requests rid).client? = some (id, client))
    (hafter : (s'.requests rid).client? = none)
    (hactive : s'.metrics.activeConnections = s.metrics.activeConnections - 1)
    (hstreams : ∀ addr, (s'.clientMetrics addr).activeStreams =
      if addr = client.metrics then (s.clientMetrics addr).activeStreams - 1
      else (s.clientMetrics addr).activeStreams)
  /-- The future of the request is dropped, and the counters stay as they are. -/
  | leak (id : String) (client : ClientEntry) (hl : l = .drop)
    (hbefore : (s.requests rid).client? = some (id, client))
    (hafter : (s'.requests rid).client? = none)
    (hactive : s'.metrics.activeConnections = s.metrics.activeConnections)
    (hstreams : s'.clientMetrics = s.clientMetrics)

/-- The streams of each entry after `track`. -/
theorem ServerState.track_activeStreams (s : ServerState) (client : ClientEntry) (addr : ℕ) :
    ((s.track client).clientMetrics addr).activeStreams =
      if addr = client.metrics then (s.clientMetrics addr).activeStreams + 1
      else (s.clientMetrics addr).activeStreams := by
  unfold ServerState.track
  dsimp only
  split_ifs with h
  · rw [h, Function.update_self]
  · rw [Function.update_of_ne h]

/-- The streams of each entry after `untrack`. -/
theorem ServerState.untrack_activeStreams (s : ServerState) (client : ClientEntry) (addr : ℕ) :
    ((s.untrack client).clientMetrics addr).activeStreams =
      if addr = client.metrics then (s.clientMetrics addr).activeStreams - 1
      else (s.clientMetrics addr).activeStreams := by
  unfold ServerState.untrack
  dsimp only
  split_ifs with h
  · rw [h, Function.update_self]
  · rw [Function.update_of_ne h]

/-- A step of a request that holds no entry before and after it, and that is no lookup. -/
theorem Counts.of_idle {s s' : ServerState} {rid : ℕ} {l : RequestStep} (hdrop : l ≠ .drop)
    (hlookup : l ≠ .lookup) (hbefore : (s.requests rid).client? = none)
    (hafter : (s'.requests rid).client? = none)
    (hactive : s'.metrics.activeConnections = s.metrics.activeConnections)
    (hstreams : s'.clientMetrics = s.clientMetrics) : Counts s rid l s' :=
  .quiet hdrop (fun _ _ hl => absurd hl hlookup) (hafter.trans hbefore.symm) hactive hstreams

/-- A step of a request that goes on with the entry that it holds. -/
theorem Counts.of_next {s : ServerState} {rid : ℕ} {l : RequestStep} {id : String}
    {client : ClientEntry} {request : Request} {s' : ServerState} (hdrop : l ≠ .drop)
    (hlookup : l ≠ .lookup) (hbefore : (s.requests rid).client? = some (id, client))
    (hafter : (s'.requests rid) = request) (hclient : request.client? = some (id, client))
    (hactive : s'.metrics.activeConnections = s.metrics.activeConnections)
    (hstreams : s'.clientMetrics = s.clientMetrics) : Counts s rid l s' :=
  .quiet hdrop (fun _ _ hl => absurd hl hlookup) (by rw [hafter, hclient, hbefore]) hactive hstreams

/-- A step in which a request returns. -/
theorem Counts.of_return {s : ServerState} {rid : ℕ} {l : RequestStep} {id : String}
    {client : ClientEntry} {response : Response} (hdrop : l ≠ .drop) (hlookup : l ≠ .lookup)
    (hbefore : (s.requests rid).client? = some (id, client)) :
    Counts s rid l ((s.untrack client).setRequest rid (.finished response)) :=
  .untrack id client hdrop hlookup hbefore (by rw [ServerState.setRequest_requests]; rfl) rfl
    (s.untrack_activeStreams client)

/-- A step in which the future of a request is dropped. -/
theorem Counts.of_drop {s : ServerState} {rid : ℕ} {id : String} {client : ClientEntry}
    (hbefore : (s.requests rid).client? = some (id, client)) :
    Counts s rid .drop (s.setRequest rid .dropped) :=
  .leak id client rfl hbefore (by rw [ServerState.setRequest_requests]; rfl) rfl rfl

/-- Every step of a request counts as one of these. -/
theorem handleProxyRequest_counts {s s' : ServerState} {rid : ℕ} {l : RequestStep}
    (h : handleProxyRequest config s rid l = some s') : Counts s rid l s' := by
  unfold handleProxyRequest at h
  split at h
  · rename_i req now hphase
    have hbefore : (s.requests rid).client? = none := by rw [hphase]; rfl
    dsimp only at h
    split at h
    all_goals
      obtain rfl := Option.some.inj h
      exact .of_idle (by simp) (by simp) hbefore (by simp [Request.client?]) rfl rfl
  · rename_i now clientId hphase
    have hbefore : (s.requests rid).client? = none := by rw [hphase]; rfl
    split at h
    · obtain rfl := Option.some.inj h
      exact .of_idle (by simp) (by simp) hbefore
        (by simp [ServerState.setRequest, Request.client?]) rfl rfl
    · obtain rfl := Option.some.inj h
      exact .of_idle (by simp) (by simp) hbefore
        (by simp [ServerState.setRequest, Request.client?]) rfl rfl
  · rename_i clientId hphase
    split at h
    · rename_i client hget
      obtain rfl := Option.some.inj h
      exact .track clientId client rfl hphase hget
        (by rw [ServerState.setRequest_requests]; rfl) rfl (s.track_activeStreams client)
    · rename_i hget
      obtain rfl := Option.some.inj h
      refine .quiet (by simp) (fun id hid _ => ?_) ?_ rfl rfl
      · obtain rfl : clientId = id := Request.admitted.inj (hphase.symm.trans hid)
        exact hget
      · rw [ServerState.setRequest_requests, hphase]
        rfl
  · rename_i clientId client hphase
    have hbefore : (s.requests rid).client? = some (clientId, client) := by rw [hphase]; rfl
    obtain rfl := Option.some.inj h
    refine .of_next (by simp) (by simp) hbefore (s.setRequest_requests rid _) ?_ rfl rfl
    split_ifs <;> rfl
  · rename_i clientId client hphase
    obtain rfl := Option.some.inj h
    exact .of_return (by simp) (by simp) (by rw [hphase]; rfl)
  · rename_i clientId client hphase
    obtain rfl := Option.some.inj h
    exact .of_return (by simp) (by simp) (by rw [hphase]; rfl)
  · rename_i clientId client hphase
    obtain rfl := Option.some.inj h
    exact .of_next (by simp) (by simp) (by rw [hphase]; rfl) (s.setRequest_requests rid _) rfl
      rfl rfl
  · rename_i clientId client hphase
    obtain rfl := Option.some.inj h
    exact .of_next (by simp) (by simp) (by rw [hphase]; rfl) (s.setRequest_requests rid _) rfl
      rfl rfl
  · rename_i clientId client hphase
    obtain rfl := Option.some.inj h
    exact .of_return (by simp) (by simp) (by rw [hphase]; rfl)
  · rename_i clientId client hphase
    obtain rfl := Option.some.inj h
    exact .of_next (by simp) (by simp) (by rw [hphase]; rfl) (s.setRequest_requests rid _) rfl
      rfl rfl
  · rename_i clientId client hphase
    obtain rfl := Option.some.inj h
    exact .of_return (by simp) (by simp) (by rw [hphase]; rfl)
  · rename_i response clientId client hphase
    obtain rfl := Option.some.inj h
    exact .of_return (by simp) (by simp) (by rw [hphase]; rfl)
  · rename_i clientId client hphase
    obtain rfl := Option.some.inj h
    exact .of_return (by simp) (by simp) (by rw [hphase]; rfl)
  -- The future is dropped in one of its four waits.
  · rename_i hphase
    obtain rfl := Option.some.inj h
    exact .of_drop (by rw [hphase]; rfl)
  · rename_i hphase
    obtain rfl := Option.some.inj h
    exact .of_drop (by rw [hphase]; rfl)
  · rename_i hphase
    obtain rfl := Option.some.inj h
    exact .of_drop (by rw [hphase]; rfl)
  · rename_i hphase
    obtain rfl := Option.some.inj h
    exact .of_drop (by rw [hphase]; rfl)
  · cases h

/-- A step of a session leaves the counters as they are, but for those of a new entry. -/
theorem handleClient_counters {s s' : ServerState} {sid : ℕ} {l : SessionStep}
    (h : handleClient config S s sid l = some s') :
    s'.metrics.activeConnections = s.metrics.activeConnections ∧
      (s'.clientMetrics = s.clientMetrics ∨
        s'.clientMetrics = Function.update s.clientMetrics sid .new ∧
          ∃ id supportsHeartbeat handle,
            (s.sessions sid).phase = .registering id supportsHeartbeat handle) := by
  unfold handleClient at h
  dsimp only at h
  split at h
  all_goals first | (obtain rfl := Option.some.inj h; exact ⟨rfl, .inl rfl⟩) | skip
  · split at h
    all_goals
      obtain rfl := Option.some.inj h
      exact ⟨rfl, .inl rfl⟩
  · split_ifs at h
    all_goals
      obtain rfl := Option.some.inj h
      exact ⟨rfl, .inl rfl⟩
  · rename_i now clientId supportsHeartbeat handle hphase
    split at h
    · obtain rfl := Option.some.inj h
      exact ⟨rfl, .inr ⟨rfl, clientId, supportsHeartbeat, handle, hphase⟩⟩
    · obtain rfl := Option.some.inj h
      exact ⟨rfl, .inl rfl⟩
  · split_ifs at h
    obtain rfl := Option.some.inj h
    exact ⟨rfl, .inl rfl⟩
  · split_ifs at h
    obtain rfl := Option.some.inj h
    exact ⟨rfl, .inl rfl⟩
  · cases h

/-! ## The requests in flight -/

/-- A request that holds an entry is in flight on it. -/
theorem ServerState.mem_inFlight {s : ServerState} {rid : ℕ} {id : String} {client : ClientEntry}
    {p : ClientEntry → Prop} (h : (s.requests rid).client? = some (id, client)) :
    rid ∈ s.inFlight p ↔ p client := by
  constructor
  · rintro ⟨id', client', h', hp⟩
    rw [h] at h'
    obtain ⟨-, rfl⟩ : id = id' ∧ client = client' := by simpa using h'
    exact hp
  · exact fun hp => ⟨id, client, h, hp⟩

/-- A request that holds no entry is not in flight. -/
theorem ServerState.not_mem_inFlight {s : ServerState} {rid : ℕ} {p : ClientEntry → Prop}
    (h : (s.requests rid).client? = none) : rid ∉ s.inFlight p := by
  rintro ⟨id, client, h', -⟩
  rw [h] at h'
  cases h'

section

variable {s s' : ServerState} {rid : ℕ} {p : ClientEntry → Prop}
  (hothers : ∀ rid', rid' ≠ rid → s'.requests rid' = s.requests rid')

include hothers

/-- The other requests are in flight as before. -/
theorem ServerState.inFlight_of_ne {rid' : ℕ} (hne : rid' ≠ rid) :
    rid' ∈ s'.inFlight p ↔ rid' ∈ s.inFlight p := by
  unfold inFlight
  rw [Set.mem_ofPred_eq, Set.mem_ofPred_eq, hothers rid' hne]

/-- Nothing changes when the request stays in flight, or out of it. -/
theorem ServerState.inFlight_same (h : rid ∈ s'.inFlight p ↔ rid ∈ s.inFlight p) :
    s'.inFlight p = s.inFlight p := by
  ext rid'
  rcases eq_or_ne rid' rid with rfl | hne
  · exact h
  · exact inFlight_of_ne hothers hne

/-- The request comes into flight. -/
theorem ServerState.inFlight_insert (h : rid ∈ s'.inFlight p) :
    s'.inFlight p = insert rid (s.inFlight p) := by
  ext rid'
  rcases eq_or_ne rid' rid with rfl | hne
  · exact ⟨fun _ => Set.mem_insert _ _, fun _ => h⟩
  · rw [inFlight_of_ne hothers hne, Set.mem_insert_iff, or_iff_right hne]

/-- The request goes out of flight. -/
theorem ServerState.inFlight_sdiff (h : rid ∉ s'.inFlight p) :
    s'.inFlight p = s.inFlight p \ {rid} := by
  ext rid'
  rcases eq_or_ne rid' rid with rfl | hne
  · exact ⟨fun h' => absurd h' h, fun h' => absurd rfl h'.2⟩
  · rw [inFlight_of_ne hothers hne, Set.mem_sdiff, Set.mem_singleton_iff, and_iff_left hne]

end

/-! ## The invariant -/

/-- A session that has registered. -/
def Session.HasRegistered (session : Session) : Prop :=
  match session.phase with
  | .serving _ _ | .closed .unregistered => True
  | _ => False

/-- The invariant: the counters are right, and the counters of an entry that is in the registry or
held by a request are those of a session that has registered. -/
structure Gauged (s : ServerState) : Prop where
  accounted : Accounted s
  entries : ∀ id client, s.registry.get id = some client →
    (s.sessions client.metrics).HasRegistered
  held : ∀ rid id client, (s.requests rid).client? = some (id, client) →
    (s.sessions client.metrics).HasRegistered

/-- The invariant holds at the start. -/
theorem gauged_new (maxPerSecond : UInt32) : Gauged (.new maxPerSecond) := by
  have hempty (p : ClientEntry → Prop) : (ServerState.new maxPerSecond).inFlight p = ∅ :=
    Set.eq_empty_of_forall_notMem fun rid => ServerState.not_mem_inFlight rfl
  refine ⟨⟨?_, fun addr => ?_⟩, fun id client h => ?_, fun rid id client => nofun⟩
  · rw [hempty]
    exact .empty
  · rw [hempty]
    exact .empty
  · have hnone : (ServerState.new maxPerSecond).registry.get id = none := AList.lookup_empty id
    rw [hnone] at h
    cases h

/-- A session that has registered stays so. -/
theorem HandleClient.hasRegistered {sid : ℕ} {session session' : Session}
    {registry registry' : Registry} {l : SessionStep}
    (h : HandleClient config S sid session registry l session' registry')
    (hreg : session.HasRegistered) : session'.HasRegistered := by
  unfold Session.HasRegistered at hreg
  cases h with
  | writeError auth h => rcases h with h | h <;> (rw [h] at hreg; exact hreg.elim)
  | registered => trivial
  | unregistered => trivial
  | driverEnded h => exact hreg
  | accept _ h | authTimeout h | readError h | readAuth h | valid _ h | invalid _ h
  | authFailed _ h | welcomed _ h | spawned _ _ h | refused _ _ _ _ h =>
    rw [h] at hreg
    exact hreg.elim

/-- The entries of the registry after a step of a session: those from before, and the one that the
session registers. -/
theorem HandleClient.entries {sid : ℕ} {session session' : Session} {registry registry' : Registry}
    {l : SessionStep} (h : HandleClient config S sid session registry l session' registry')
    {id : String} {client : ClientEntry} (hget : registry'.get id = some client) :
    registry.get id = some client ∨ client.metrics = sid ∧ session'.HasRegistered := by
  cases h with
  | registered clientId supportsHeartbeat handle now h hreserved hvacant =>
    rw [Registry.get_insert] at hget
    split_ifs at hget
    · obtain rfl := Option.some.inj hget
      exact .inr ⟨rfl, trivial⟩
    · exact .inl hget
  | unregistered clientId handle h hdriver =>
    rw [Registry.get_unregister] at hget
    split_ifs at hget
    exact .inl hget
  | _ => exact .inl hget

/-- The invariant is kept by a session, and no counter wraps. -/
theorem Gauged.handleClient {s s' : ServerState} {sid : ℕ} {l : SessionStep} (hinv : Gauged s)
    (h : handleClient config S s sid l = some s') :
    Gauged s' ∧ NoneWraps s (.session sid l) s' := by
  obtain ⟨hrequests, -, session', hsessions, hrule⟩ := handleClient_cases h
  obtain ⟨hactive, hstreams⟩ := handleClient_counters h
  have hflight (p : ClientEntry → Prop) : s'.inFlight p = s.inFlight p := by
    unfold ServerState.inFlight
    rw [hrequests]
  have hreg : ∀ sid', (s.sessions sid').HasRegistered → (s'.sessions sid').HasRegistered := by
    intro sid' hreg
    rw [hsessions]
    rcases eq_or_ne sid' sid with rfl | hne
    · rw [Function.update_self]
      exact hrule.hasRegistered hreg
    · rw [Function.update_of_ne hne]
      exact hreg
  -- A session that registers has no request on the address of its new entry.
  have hcounters : ∀ addr, Gauge.Reads (s'.clientMetrics addr).activeStreams
      (s'.inFlight fun client => client.metrics = addr) ∧
        ¬ Gauge.Wraps (s.clientMetrics addr).activeStreams
          (s'.clientMetrics addr).activeStreams := by
    intro addr
    rw [hflight]
    rcases hstreams with hsame | ⟨hnew, id, supportsHeartbeat, handle, hphase⟩
    · rw [hsame]
      exact ⟨hinv.accounted.streams addr, Gauge.not_wraps_self _⟩
    · rw [hnew]
      rcases eq_or_ne addr sid with rfl | hne
      · rw [Function.update_self]
        refine ⟨?_, Gauge.not_wraps_zero _⟩
        have hnobody : (s.inFlight fun client => client.metrics = addr) = ∅ := by
          refine Set.eq_empty_of_forall_notMem fun rid hrid => ?_
          obtain ⟨id', client, hclient, rfl⟩ := hrid
          have hheld := hinv.held rid id' client hclient
          unfold Session.HasRegistered at hheld
          rw [hphase] at hheld
          exact hheld
        rw [hnobody]
        exact .empty
      · rw [Function.update_of_ne hne]
        exact ⟨hinv.accounted.streams addr, Gauge.not_wraps_self _⟩
  refine ⟨⟨⟨?_, fun addr => (hcounters addr).1⟩, fun id client hget => ?_,
    fun rid id client hclient => ?_⟩, ?_, fun addr => (hcounters addr).2⟩
  · rw [hflight, hactive]
    exact hinv.accounted.connections
  · rcases hrule.entries hget with hold | ⟨rfl, hnow⟩
    · exact hreg _ (hinv.entries id client hold)
    · rw [hsessions, Function.update_self]
      exact hnow
  · rw [hrequests] at hclient
    exact hreg _ (hinv.held rid id client hclient)
  · rw [hactive]
    exact Gauge.not_wraps_self _

/-- The requests in flight on an entry are among those on the whole server. -/
theorem Accounted.ncard_le {s : ServerState} (h : Accounted s) (p : ClientEntry → Prop) :
    (s.inFlight p).ncard ≤ (s.inFlight fun _ => True).ncard := by
  refine Set.ncard_le_ncard (fun rid hrid => ?_) h.connections.1
  obtain ⟨id, client, hclient, -⟩ := hrid
  exact ⟨id, client, hclient, trivial⟩

/-- A step of a request that keeps the count leaves the counters right, and none of them wraps. -/
theorem Accounted.handleProxyRequest {s s' : ServerState} {rid : ℕ} {l : RequestStep}
    (hinv : Accounted s) (h : handleProxyRequest config s rid l = some s')
    (hkeeps : KeepsCount s (.request rid l)) :
    Accounted s' ∧ NoneWraps s (.request rid l) s' := by
  have hothers := (handleProxyRequest_cases h).others
  cases handleProxyRequest_counts h with
  | quiet hdrop hlookup hclient hactive hstreams =>
    have hflight (p : ClientEntry → Prop) : s'.inFlight p = s.inFlight p := by
      apply ServerState.inFlight_same hothers
      unfold ServerState.inFlight
      rw [Set.mem_ofPred_eq, Set.mem_ofPred_eq, hclient]
    refine ⟨⟨?_, fun addr => ?_⟩, ?_, fun addr => ?_⟩
    · rw [hflight, hactive]
      exact hinv.connections
    · rw [hflight, hstreams]
      exact hinv.streams addr
    · rw [hactive]
      exact Gauge.not_wraps_self _
    · rw [hstreams]
      exact Gauge.not_wraps_self _
  | track id client hl hphase hget hafter hactive hstreams =>
    have hbefore : (s.requests rid).client? = none := by rw [hphase]; rfl
    -- The counters have room for the request, by the condition on the step.
    have hroom : (s.inFlight fun _ => True).ncard + 1 < 2^64 := by
      subst hl
      exact (keepsCount_lookup hphase hget).mp hkeeps
    refine ⟨⟨?_, fun addr => ?_⟩, ?_, fun addr => ?_⟩
    · rw [hactive, ServerState.inFlight_insert hothers
        ((ServerState.mem_inFlight hafter).mpr trivial)]
      exact hinv.connections.acquire (ServerState.not_mem_inFlight hbefore) hroom
    · rw [hstreams]
      split_ifs with haddr
      · rw [ServerState.inFlight_insert hothers
          ((ServerState.mem_inFlight hafter).mpr haddr.symm)]
        have hle := hinv.ncard_le fun client => client.metrics = addr
        exact (hinv.streams addr).acquire (ServerState.not_mem_inFlight hbefore) (by omega)
      · have hnot : rid ∉ s'.inFlight fun client => client.metrics = addr :=
          fun hrid => haddr ((ServerState.mem_inFlight hafter).mp hrid).symm
        rw [ServerState.inFlight_same hothers
          (iff_of_false hnot (ServerState.not_mem_inFlight hbefore))]
        exact hinv.streams addr
    · rw [hactive]
      exact Gauge.not_wraps_add _
    · rw [hstreams]
      split_ifs
      · exact Gauge.not_wraps_add _
      · exact Gauge.not_wraps_self _
  | untrack id client hdrop hlookup hbefore hafter hactive hstreams =>
    have hmem : rid ∈ s.inFlight fun _ => True := (ServerState.mem_inFlight hbefore).mpr trivial
    have hmemAddr : rid ∈ s.inFlight fun c => c.metrics = client.metrics :=
      (ServerState.mem_inFlight hbefore).mpr rfl
    refine ⟨⟨?_, fun addr => ?_⟩, hinv.connections.not_wraps hmem _, fun addr => ?_⟩
    · rw [hactive, ServerState.inFlight_sdiff hothers (ServerState.not_mem_inFlight hafter)]
      exact hinv.connections.release hmem
    · rw [hstreams]
      split_ifs with haddr
      · subst haddr
        rw [ServerState.inFlight_sdiff hothers (ServerState.not_mem_inFlight hafter)]
        exact (hinv.streams _).release hmemAddr
      · have hnot : rid ∉ s.inFlight fun client => client.metrics = addr :=
          fun hrid => haddr ((ServerState.mem_inFlight hbefore).mp hrid).symm
        rw [ServerState.inFlight_same hothers
          (iff_of_false (ServerState.not_mem_inFlight hafter) hnot)]
        exact hinv.streams addr
    · rw [hstreams]
      split_ifs with haddr
      · subst haddr
        exact (hinv.streams _).not_wraps hmemAddr _
      · exact Gauge.not_wraps_self _
  | leak id client hl hbefore hafter hactive hstreams =>
    subst hl
    exact hkeeps.elim

/-- The invariant is kept by a step of a request that keeps the count. -/
theorem Gauged.handleProxyRequest {s s' : ServerState} {rid : ℕ} {l : RequestStep}
    (hinv : Gauged s) (h : handleProxyRequest config s rid l = some s')
    (hkeeps : KeepsCount s (.request rid l)) : Gauged s' ∧ NoneWraps s (.request rid l) s' := by
  have hstep := handleProxyRequest_cases h
  obtain ⟨haccounted, hwraps⟩ := hinv.accounted.handleProxyRequest h hkeeps
  refine ⟨⟨haccounted, fun id client hget => ?_, fun rid' id client hclient => ?_⟩, hwraps⟩
  · rw [hstep.sessions]
    rw [hstep.registry] at hget
    exact hinv.entries id client hget
  · rw [hstep.sessions]
    rcases eq_or_ne rid' rid with rfl | hne
    · rcases hstep.client id client hclient with hold | hget
      · exact hinv.held rid' id client hold
      · exact hinv.entries id client hget
    · rw [hstep.others rid' hne] at hclient
      exact hinv.held rid' id client hclient

/-- A step that does not keep the count leaves the counter of the connections wrong. -/
theorem Accounted.not_of_not_keepsCount {s s' : ServerState} {rid : ℕ} {l : RequestStep}
    (hinv : Accounted s) (h : ZoTunnel.handleProxyRequest config s rid l = some s')
    (hbreaks : ¬ KeepsCount s (.request rid l)) : ¬ Accounted s' := by
  intro haccounted
  have hothers := (handleProxyRequest_cases h).others
  have hreads := haccounted.connections
  cases handleProxyRequest_counts h with
  | quiet hdrop hlookup hclient hactive hstreams =>
    -- Only a drop, or a lookup that finds a client, can fail to keep the count.
    apply hbreaks
    cases l with
    | drop => exact absurd rfl hdrop
    | lookup =>
      unfold KeepsCount
      dsimp only
      split
      · rename_i id hphase
        intro hsome
        rw [hlookup id hphase rfl] at hsome
        cases hsome
      · trivial
    | _ => trivial
  | track id client hl hphase hget hafter hactive hstreams =>
    have hbefore : (s.requests rid).client? = none := by rw [hphase]; rfl
    rw [hactive, ServerState.inFlight_insert hothers
      ((ServerState.mem_inFlight hafter).mpr trivial)] at hreads
    by_cases hroom : (s.inFlight fun _ => True).ncard + 1 < 2^64
    · apply hbreaks
      subst hl
      exact (keepsCount_lookup hphase hget).mpr hroom
    · exact Gauge.Reads.overflow (ServerState.not_mem_inFlight hbefore) (Nat.le_of_not_lt hroom)
        hinv.connections hreads
  | untrack id client hdrop hlookup hbefore hafter hactive hstreams =>
    apply hbreaks
    cases l with
    | drop => exact absurd rfl hdrop
    | lookup => exact absurd rfl hlookup
    | _ => trivial
  | leak id client hl hbefore hafter hactive hstreams =>
    have hmem : rid ∈ s.inFlight fun _ => True := (ServerState.mem_inFlight hbefore).mpr trivial
    rw [hactive, ServerState.inFlight_sdiff hothers (ServerState.not_mem_inFlight hafter)] at hreads
    exact hinv.connections.leak hmem hreads

/-- The counters read the requests in flight in every state of a run, and never wrap below zero in
it, exactly if no request in flight is dropped and the counters have room for each new one. -/
theorem accounting_iff (config : ServerConfig) (S : Serde) (maxPerSecond : UInt32)
    (labels : List ServerStep) :
    (Steps (serverStep config S) NoneWraps (.new maxPerSecond) labels ∧
      Visits (serverStep config S) Accounted (.new maxPerSecond) labels) ↔
      Meets (serverStep config S) KeepsCount (.new maxPerSecond) labels := by
  refine holds_iff_meets (I := Gauged) ?_ (fun s hinv => hinv.accounted) ?_
    (gauged_new maxPerSecond) labels
  · intro s l s' hinv hkeeps h
    cases l with
    | session sid l => exact hinv.handleClient h
    | request rid l => exact hinv.handleProxyRequest h hkeeps
  · rintro s l s' hinv hbreaks h ⟨-, haccounted⟩
    cases l with
    | session sid l => exact hbreaks trivial
    | request rid l => exact hinv.accounted.not_of_not_keepsCount h hbreaks haccounted

/-- A visitor's connection closes while its request waits for a stream. Nothing is in flight then,
and the server counts one connection. -/
theorem dropped_request_still_counted :
    ¬ ∀ (config : ServerConfig) (S : Serde) (maxPerSecond : UInt32) (labels : List ServerStep),
      Steps (serverStep config S) NoneWraps (.new maxPerSecond) labels ∧
        Visits (serverStep config S) Accounted (.new maxPerSecond) labels := by
  intro h
  let config : ServerConfig := ⟨6210, "tunnel.example.com", ⟨["t0k"]⟩⟩
  let labels := handshakeSteps 0 ++
    [.session 0 .spawnDriver, .session 0 (.register 0),
      .request 0 (.arrive ⟨some "app.tunnel.example.com", "/"⟩ 0), .request 0 (.limit 0),
      .request 0 .lookup]
  have hopening : ((exec (serverStep config handshakeSerde) (.new 100) labels).bind fun s =>
      handleProxyRequest config s 0 .drop).isSome := by decide
  obtain ⟨s', hdrop⟩ := Option.isSome_iff_exists.mp hopening
  obtain ⟨s, hrun, hdrop⟩ := Option.bind_eq_some_iff.mp hdrop
  have hlast : exec (serverStep config handshakeSerde) s [.request 0 .drop] = some s' :=
    exec_cons.mpr ⟨s', hdrop, rfl⟩
  have hbefore : Accounted s := (h config handshakeSerde 100 labels).2.last hrun
  have hafter : Accounted s' := (h config handshakeSerde 100 (labels ++ [.request 0 .drop])).2.last
    (exec_append hrun hlast)
  exact hbefore.not_of_not_keepsCount hdrop id hafter

end ZoTunnel
