import ZoTunnel.Server.Config
import ZoTunnel.Server.Metrics

/-!
# Client registry

The registry of connected clients (`zo-tunnel-server/src/registry.rs`), a concurrent map whose
operations are atomic. Every entry lies under its own client id, and no reserved subdomain has one;
both are fields of the registry, so `register` and `unregister` carry their proofs.

The counters of an entry are atomics behind its `Arc`. An entry keeps their address, and the
counters themselves are part of the server's state.
-/

namespace ZoTunnel

/-- Handle to a yamux driver task, the sending end of its command channel. -/
structure YamuxHandle where
  /-- The number of the channel. A session makes one channel, which has the session's number. -/
  cmdTx : ℕ
  deriving DecidableEq, Repr

/-- Per-client traffic metrics. -/
structure ClientMetrics where
  requests : UInt64
  activeStreams : UInt64
  deriving DecidableEq, Repr

/-- `ClientMetrics::new`. -/
def ClientMetrics.new : ClientMetrics := ⟨0, 0⟩

/-- Handle to a connected client's yamux session. -/
structure ClientEntry where
  clientId : String
  handle : YamuxHandle
  connectedAt : Instant
  /-- The address of the entry's `ClientMetrics`. -/
  metrics : ℕ
  supportsHeartbeat : Bool
  deriving DecidableEq, Repr

/-- Serializable client info. -/
structure ClientInfo where
  clientId : String
  connectedAtSecs : ℕ
  totalRequests : UInt64
  activeStreams : UInt64
  deriving DecidableEq, Repr

/-- Thread-safe client registry. -/
structure Registry where
  clients : AList fun _ : String => ClientEntry
  /-- An entry lies under its own client id. -/
  keyed : ∀ id entry, clients.lookup id = some entry → entry.clientId = id
  /-- No entry lies under a reserved subdomain. -/
  unreserved : ∀ id entry, clients.lookup id = some entry → id ∉ reservedSubdomains

namespace Registry

/-- `Registry::new`. -/
def new : Registry := ⟨∅, by simp, by simp⟩

/-- Get a client entry by ID. -/
def get (registry : Registry) (clientId : String) : Option ClientEntry :=
  registry.clients.lookup clientId

/-- `VacantEntry::insert` at a client id that is not reserved. -/
def insert (registry : Registry) (entry : ClientEntry)
    (h : entry.clientId ∉ reservedSubdomains) : Registry where
  clients := registry.clients.insert entry.clientId entry
  keyed id e he := by
    rcases eq_or_ne id entry.clientId with rfl | hne
    · rw [AList.lookup_insert] at he
      rw [← Option.some.inj he]
    · rw [AList.lookup_insert_ne hne] at he
      exact registry.keyed id e he
  unreserved id e he := by
    rcases eq_or_ne id entry.clientId with rfl | hne
    · exact h
    · rw [AList.lookup_insert_ne hne] at he
      exact registry.unreserved id e he

/-- Register a new client. Returns error if client_id already exists or is reserved. `now` is the
clock, and `metrics` the address of the entry's new counters. -/
def register (registry : Registry) (clientId : String) (handle : YamuxHandle)
    (supportsHeartbeat : Bool) (now : Instant) (metrics : ℕ) :
    Except Error ClientEntry × Registry :=
  if h : clientId ∈ reservedSubdomains then
    (.error s!"Client ID '{clientId}' is reserved (conflicts with system subdomain)", registry)
  else
    let entry : ClientEntry := ⟨clientId, handle, now, metrics, supportsHeartbeat⟩
    match registry.get clientId with
    | some _ => (.error s!"Client '{clientId}' already registered", registry)
    | none => (.ok entry, registry.insert entry h)

/-- Unregister a client. -/
def unregister (registry : Registry) (clientId : String) : Registry where
  clients := registry.clients.erase clientId
  keyed id e he := by
    rcases eq_or_ne id clientId with rfl | hne
    · simp at he
    · rw [AList.lookup_erase_ne hne] at he
      exact registry.keyed id e he
  unreserved id e he := by
    rcases eq_or_ne id clientId with rfl | hne
    · simp at he
    · rw [AList.lookup_erase_ne hne] at he
      exact registry.unreserved id e he

/-- List all connected clients. -/
def list (registry : Registry) (now : Instant) (metrics : ℕ → ClientMetrics) : List ClientInfo :=
  registry.clients.entries.map fun ⟨_, e⟩ =>
    ⟨e.clientId, secsSince now e.connectedAt, (metrics e.metrics).requests,
      (metrics e.metrics).activeStreams⟩

/-- Count connected clients. -/
def count (registry : Registry) : ℕ := registry.clients.entries.length

/-- An inserted entry is found under its client id, and the others as before. -/
theorem get_insert (registry : Registry) (entry : ClientEntry)
    (h : entry.clientId ∉ reservedSubdomains) (id : String) :
    (registry.insert entry h).get id =
      if id = entry.clientId then some entry else registry.get id := by
  unfold get insert
  split_ifs with hid
  · rw [hid, AList.lookup_insert]
  · rw [AList.lookup_insert_ne hid]

/-- An unregistered client is not found, and the others are found as before. -/
theorem get_unregister (registry : Registry) (clientId id : String) :
    (registry.unregister clientId).get id = if id = clientId then none else registry.get id := by
  unfold get unregister
  split_ifs with hid
  · rw [hid, AList.lookup_erase]
  · rw [AList.lookup_erase_ne hid]

/-- Registration succeeds exactly for an id that is not reserved and that no entry has. It then adds
the entry, and changes nothing otherwise. -/
theorem register_cases (registry : Registry) (clientId : String) (handle : YamuxHandle)
    (supportsHeartbeat : Bool) (now : Instant) (metrics : ℕ) :
    (∃ h : clientId ∉ reservedSubdomains, registry.get clientId = none ∧
      registry.register clientId handle supportsHeartbeat now metrics =
        (.ok ⟨clientId, handle, now, metrics, supportsHeartbeat⟩,
          registry.insert ⟨clientId, handle, now, metrics, supportsHeartbeat⟩ h)) ∨
    (¬ (clientId ∉ reservedSubdomains ∧ registry.get clientId = none) ∧
      ∃ e, registry.register clientId handle supportsHeartbeat now metrics =
        (.error e, registry)) := by
  unfold register
  split_ifs with h
  · exact .inr ⟨fun hn => hn.1 h, _, rfl⟩
  · cases hget : registry.get clientId with
    | some e => exact .inr ⟨fun hn => by simp at hn, _, rfl⟩
    | none => exact .inl ⟨h, rfl, rfl⟩

end Registry

end ZoTunnel
