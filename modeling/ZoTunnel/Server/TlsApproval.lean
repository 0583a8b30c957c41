import ZoTunnel.Server.Caddy
import ZoTunnel.Server.Routing

/-!
# TLS approval and routing

`api_tls_check` (`dashboard.rs`) decides for which domains Caddy gets a certificate, and
`extract_routing` (`proxy.rs`) which hosts are routed to a tunnel. Both read a client id off a name
under the base domain: the one strips the suffix, and the other takes the name from a header, cuts
it at the first `:`, and refuses the empty id. `tls_agrees_iff` says for which names they agree.
-/

namespace ZoTunnel

open Bytes (asBytes)

variable {registry : Registry} {baseDomain domain : String} {mgr : Option CaddyManager}

/-- A request with the host `domain` is routed to a client id. -/
def RoutesTo (baseDomain domain clientId : String) : Prop :=
  ∃ (host : Header.Value) (path rest : String), host.bytes = asBytes domain ∧
    extractRouting (.ofHost (some host) path) baseDomain = some (clientId, rest)

/-- The TLS check of a domain consults the fallback: its answer depends on what the fallback says.
-/
def AsksFallback (baseDomain : String) (registry : Registry) (mgr : Option CaddyManager)
    (domain : String) : Prop :=
  ∃ get get', apiTlsCheck baseDomain registry mgr get domain ≠
    apiTlsCheck baseDomain registry mgr get' domain

/-- The TLS check agrees with the routing on a domain: without the fallback it approves exactly the
reserved subdomains and the hosts that are routed to a registered client, and the fallback is
consulted only for a domain that is not routed and not under the base domain. -/
structure TlsAgrees (baseDomain : String) (registry : Registry) (mgr : Option CaddyManager)
    (domain : String) : Prop where
  approves : ¬ AsksFallback baseDomain registry mgr domain → ∀ get,
    (apiTlsCheck baseDomain registry mgr get domain = 200 ↔
      (∃ r ∈ reservedSubdomains, domain = r ++ "." ++ baseDomain) ∨
        ∃ clientId, RoutesTo baseDomain domain clientId ∧ (registry.get clientId).isSome = true)
  asks : AsksFallback baseDomain registry mgr domain →
    (∀ clientId, ¬ RoutesTo baseDomain domain clientId) ∧
      ∀ sub, domain ≠ sub ++ "." ++ baseDomain

/-- The base domain can be cut off a name under it. -/
theorem stripSuffix_under (sub : String) :
    Text.stripSuffix (sub ++ "." ++ baseDomain) ("." ++ baseDomain) = some sub :=
  Text.stripSuffix_eq_some_iff.mpr (String.append_assoc ..)

/-- The TLS check of a name under the base domain. -/
theorem apiTlsCheck_under (sub : String) (get : String → Option UInt16) :
    apiTlsCheck baseDomain registry mgr get (sub ++ "." ++ baseDomain) = 200 ↔
      sub ∈ reservedSubdomains ∨ (registry.get sub).isSome = true := by
  unfold apiTlsCheck
  rw [stripSuffix_under]
  dsimp only
  split_ifs with hreserved hget
  · exact ⟨fun _ => .inl hreserved, fun _ => rfl⟩
  · exact ⟨fun _ => .inr hget, fun _ => rfl⟩
  · exact ⟨fun h => absurd h (by decide), fun h => (h.elim hreserved hget).elim⟩

/-- The fallback is not asked for a name under the base domain. -/
theorem not_asksFallback_under (sub : String) :
    ¬ AsksFallback baseDomain registry mgr (sub ++ "." ++ baseDomain) := by
  rintro ⟨get, get', hne⟩
  apply hne
  unfold apiTlsCheck
  rw [stripSuffix_under]

/-- A name outside the base domain is not approved, unless the fallback is asked. -/
theorem apiTlsCheck_outside (houtside : ∀ sub, domain ≠ sub ++ "." ++ baseDomain)
    (hasks : ¬ AsksFallback baseDomain registry mgr domain) (get : String → Option UInt16) :
    apiTlsCheck baseDomain registry mgr get domain ≠ 200 := by
  have hstrip : Text.stripSuffix domain ("." ++ baseDomain) = none := by
    cases hsub : Text.stripSuffix domain ("." ++ baseDomain) with
    | none => rfl
    | some sub =>
      have heq := Text.stripSuffix_eq_some_iff.mp hsub
      rw [← String.append_assoc] at heq
      exact absurd heq (houtside sub)
  -- The answer is the one to a fallback that cannot be reached.
  have hsame : apiTlsCheck baseDomain registry mgr get domain =
      apiTlsCheck baseDomain registry mgr (fun _ => none) domain :=
    not_not.mp fun hne => hasks ⟨get, _, hne⟩
  have hsilent : (mgr.bind fun mgr => mgr.checkFallback (fun _ => none) domain) = none := by
    cases mgr with
    | none => rfl
    | some mgr =>
      rw [Option.bind_some]
      unfold CaddyManager.checkFallback
      split <;> rfl
  have hforbidden : apiTlsCheck baseDomain registry mgr (fun _ => none) domain = 403 := by
    unfold apiTlsCheck
    rw [hstrip]
    dsimp only
    rw [hsilent]
  rw [hsame, hforbidden]
  decide

/-- A host with no port is routed to the id in front of the base domain. -/
theorem RoutesTo.eq {clientId : String} (hport : ':' ∉ domain.toList)
    (h : RoutesTo baseDomain domain clientId) : domain = clientId ++ "." ++ baseDomain := by
  obtain ⟨host, path, rest, hbytes, hroutes⟩ := h
  obtain ⟨name, hname, heq, -, -⟩ := extractRouting_eq_some_iff.mp hroutes
  obtain ⟨rfl, -⟩ := Header.plain_of_toStr hbytes hname
  rw [← heq, Text.beforeChar_of_notMem hport]

/-- The host of an id is routed to it exactly when the id names a host. -/
theorem routesTo_iff {clientId : String} :
    RoutesTo baseDomain (clientId ++ "." ++ baseDomain) clientId ↔
      NamesHost baseDomain clientId := by
  constructor
  · rintro ⟨host, path, rest, hbytes, hroutes⟩
    exact .of_routed hbytes hroutes
  · intro hnames
    obtain ⟨host, hbytes, hread⟩ := Header.exists_value_iff.mpr hnames.plain
    have hname : host.toStr = some (withPort (clientId ++ "." ++ baseDomain) none) := hread
    exact ⟨host, "/", "/", hbytes, hnames.routes hname "/"⟩

/-- On a domain with no port the TLS check agrees with the routing exactly if the domain is not that
of a registered id which names no host: an empty one, or one that makes no plain header value with
the base domain. -/
theorem tls_agrees_iff (registry : Registry) (baseDomain domain : String)
    (mgr : Option CaddyManager) (hport : ':' ∉ domain.toList) :
    TlsAgrees baseDomain registry mgr domain ↔
      ∀ clientId, domain = clientId ++ "." ++ baseDomain →
        (registry.get clientId).isSome = true → NamesHost baseDomain clientId := by
  constructor
  · rintro hagrees clientId rfl hget
    have happroved := (hagrees.approves (not_asksFallback_under clientId) fun _ => none).mp
      ((apiTlsCheck_under clientId _).mpr (.inr hget))
    rcases happroved with ⟨r, hr, heq⟩ | ⟨clientId', hroutes, -⟩
    · -- A registered id is not reserved.
      obtain rfl := clientId_of_host heq
      obtain ⟨entry, hentry⟩ := Option.isSome_iff_exists.mp hget
      exact absurd hr (registry.unreserved clientId entry hentry)
    · obtain rfl := clientId_of_host (hroutes.eq hport)
      exact routesTo_iff.mp hroutes
  · intro hnames
    by_cases hunder : ∃ sub, domain = sub ++ "." ++ baseDomain
    · obtain ⟨sub, rfl⟩ := hunder
      refine ⟨fun _ get => ?_, fun hasks => absurd hasks (not_asksFallback_under sub)⟩
      rw [apiTlsCheck_under]
      constructor
      · rintro (hreserved | hget)
        · exact .inl ⟨sub, hreserved, rfl⟩
        · exact .inr ⟨sub, routesTo_iff.mpr (hnames sub rfl hget), hget⟩
      · rintro (⟨r, hr, heq⟩ | ⟨clientId, hroutes, hget⟩)
        · rw [clientId_of_host heq]
          exact .inl hr
        · rw [clientId_of_host (hroutes.eq hport)]
          exact .inr hget
    · have houtside : ∀ sub, domain ≠ sub ++ "." ++ baseDomain :=
        fun sub heq => hunder ⟨sub, heq⟩
      have hunrouted : ∀ clientId, ¬ RoutesTo baseDomain domain clientId :=
        fun clientId hroutes => houtside clientId (hroutes.eq hport)
      refine ⟨fun hasks get => ?_, fun _ => ⟨hunrouted, houtside⟩⟩
      refine iff_of_false (apiTlsCheck_outside houtside hasks get) ?_
      rintro (⟨r, -, heq⟩ | ⟨clientId, hroutes, -⟩)
      · exact houtside r heq
      · exact hunrouted clientId hroutes

/-- The check and the routing agree on the name of a client `app`. -/
theorem tls_agrees_app :
    TlsAgrees "example.com" (Registry.new.insert ⟨"app", ⟨0⟩, 0, 0, true⟩ (by decide)) none
      ("app" ++ "." ++ "example.com") := by
  refine (tls_agrees_iff _ "example.com" ("app" ++ "." ++ "example.com") none (by decide)).mpr
    fun clientId heq _ => ?_
  obtain rfl := clientId_of_host heq
  decide

/-- Once `café` is registered, the certificate of its host is approved, and no request is routed to
it. -/
theorem tls_approves_unroutable :
    ¬ ∀ (registry : Registry) (baseDomain domain : String) (mgr : Option CaddyManager),
      ':' ∉ domain.toList → TlsAgrees baseDomain registry mgr domain := by
  intro h
  let registry := Registry.new.insert ⟨"café", ⟨0⟩, 0, 0, true⟩ (by decide)
  have hget : (registry.get "café").isSome = true := by decide
  have hagrees := h registry "example.com" ("café" ++ "." ++ "example.com") none (by decide)
  have happroved := (hagrees.approves (not_asksFallback_under "café") fun _ => none).mp
    ((apiTlsCheck_under "café" _).mpr (.inr hget))
  rcases happroved with ⟨r, hr, heq⟩ | ⟨clientId, hroutes, -⟩
  · obtain rfl := clientId_of_host heq
    exact absurd hr (by decide)
  · obtain rfl := clientId_of_host (hroutes.eq (by decide))
    exact absurd (routesTo_iff.mp hroutes) (by decide)

end ZoTunnel
