import ZoTunnel.Lib.Json
import ZoTunnel.Server.Session

/-!
# The JSON of the proxy's errors

`error_response` (`proxy.rs`) puts a message between the quotes of a JSON text as it is. `ErrorExit`
lists the error exits of `handle_proxy_request` with their messages, some of which embed names that
visitors and clients have chosen. `error_json_iff` says for which of these names the body is the
JSON that it is meant to be.
-/

namespace ZoTunnel

/-- A character that a JSON string can contain as it is: no quote, no backslash, and no control
character. -/
def JsonPlain (s : String) : Prop := ∀ c ∈ s.toList, Json.isPlain c = true

instance (s : String) : Decidable (JsonPlain s) :=
  List.decidableBAll (fun c => Json.isPlain c = true) s.toList

/-- The body is a JSON object whose error is the message and whose status is that of the response.
-/
def ReportsError (response : Response) (msg : String) : Prop :=
  ∃ json, Json.parse response.body = some json ∧ json.field? "error" = some (.str msg) ∧
    json.field? "status" = some (.num (toString response.status))

/-! ## The exits -/

/-- The error exits of `handle_proxy_request`, with the names that their messages embed. -/
inductive ErrorExit where
  | noClients
  | invalidSubdomain (clientIds : List String) (domain : String)
  | rateLimited
  | notFound (clientId : String)
  | connectionError (clientId : String)
  | handshakeFailed
  | forwardingError
  | noResponse (clientId : String)
  deriving DecidableEq, Repr

namespace ErrorExit

/-- The status code. -/
def status : ErrorExit → ℕ
  | noClients => 503
  | invalidSubdomain _ _ => 404
  | rateLimited => 429
  | notFound _ | connectionError _ | handshakeFailed | noResponse _ => 502
  | forwardingError => 500

/-- The message. -/
def message : ErrorExit → String
  | noClients => "No tunnel clients connected"
  | invalidSubdomain clientIds domain =>
    "Invalid subdomain. Available tunnels: " ++
      ", ".intercalate (clientIds.map fun clientId => clientId ++ "." ++ domain)
  | rateLimited => "Rate limit exceeded"
  | notFound clientId => s!"Tunnel '{clientId}' not found or offline"
  | connectionError clientId => s!"Tunnel '{clientId}' connection error"
  | handshakeFailed => "Tunnel HTTP handshake failed"
  | forwardingError => "Request forwarding error"
  | noResponse clientId => s!"Tunnel '{clientId}' did not respond"

/-- The names that the message embeds. -/
def names : ErrorExit → List String
  | invalidSubdomain clientIds domain => if clientIds = [] then [] else domain :: clientIds
  | notFound clientId | connectionError clientId | noResponse clientId => [clientId]
  | _ => []

end ErrorExit

/-- The error exit that a step of a request takes, if it does. -/
def errorExit? (config : ServerConfig) (s : ServerState) (rid : ℕ) (l : RequestStep) :
    Option ErrorExit :=
  match l, s.requests rid with
  | .arrive req now, .idle =>
    if (extractRouting req config.domain).isSome then none
    else
      let clients := s.registry.list now s.clientMetrics
      if clients.isEmpty then some .noClients
      else some (.invalidSubdomain (clients.map ClientInfo.clientId) config.domain)
  | .limit now, .routed clientId =>
    if (s.limiter.check clientId now).1 then none else some .rateLimited
  | .lookup, .admitted clientId =>
    if (s.registry.get clientId).isSome then none else some (.notFound clientId)
  | .openStream false, .opening clientId _ | .writeMarker false, .marking clientId _ =>
    some (.connectionError clientId)
  | .handshake false, .handshaking _ _ => some .handshakeFailed
  | .buildForwarded false, .forwarding _ _ => some .forwardingError
  | .respond none, .sending clientId _ => some (.noResponse clientId)
  | _, _ => none

/-- A request is finished by the error response of an exit, or by the tunnel's own response. -/
theorem errorExit_of_finished {config : ServerConfig} {s s' : ServerState} {rid : ℕ}
    {l : RequestStep} {response : Response} (h : handleProxyRequest config s rid l = some s')
    (hfinished : s'.requests rid = .finished response) (hl : l ≠ .respond (some response)) :
    ∃ e, errorExit? config s rid l = some e ∧ response = errorResponse e.status e.message := by
  have hset : ∀ {t : ServerState} {request : Request},
      s'.requests = (t.setRequest rid request).requests → request = .finished response := by
    intro t request heq
    rw [heq, ServerState.setRequest_requests] at hfinished
    exact hfinished
  unfold handleProxyRequest at h
  unfold errorExit?
  split at h
  -- A step forward does not finish the request.
  all_goals first
    | (obtain rfl := Option.some.inj h
       have hnext := hset rfl
       cases hnext
       done)
    | skip
  · rename_i req now hphase
    dsimp only at h ⊢
    rw [hphase]
    dsimp only
    cases hrouting : extractRouting req config.domain with
    | some routing =>
      rw [hrouting] at h
      obtain rfl := Option.some.inj h
      exact absurd (hset rfl) (by simp)
    | none =>
      rw [hrouting] at h
      obtain rfl := Option.some.inj h
      have hresponse := hset rfl
      rw [Request.finished.injEq] at hresponse
      subst hresponse
      unfold noRouteResponse
      cases hclients : s.registry.list now s.clientMetrics with
      | nil => exact ⟨.noClients, rfl, rfl⟩
      | cons client clients =>
        have hne : ¬ (client :: clients).isEmpty = true := Bool.false_ne_true
        refine
          ⟨.invalidSubdomain ((client :: clients).map ClientInfo.clientId) config.domain, ?_, ?_⟩
        · rw [Option.isSome_none, if_neg Bool.false_ne_true, if_neg hne]
        · unfold ErrorExit.message ErrorExit.status
          dsimp only
          rw [if_neg hne, List.map_map]
          rfl
  · rename_i now clientId hphase
    rw [hphase]
    dsimp only
    split at h
    · obtain rfl := Option.some.inj h
      exact absurd (hset rfl) (by simp)
    · rename_i limiter hcheck
      obtain rfl := Option.some.inj h
      have hresponse := hset rfl
      rw [Request.finished.injEq] at hresponse
      rw [hcheck]
      exact ⟨.rateLimited, rfl, hresponse.symm⟩
  · rename_i clientId hphase
    rw [hphase]
    dsimp only
    split at h
    · obtain rfl := Option.some.inj h
      exact absurd (hset rfl) (by simp)
    · rename_i hget
      obtain rfl := Option.some.inj h
      have hresponse := hset rfl
      rw [Request.finished.injEq] at hresponse
      rw [hget]
      exact ⟨.notFound clientId, rfl, hresponse.symm⟩
  · rename_i clientId client hphase
    obtain rfl := Option.some.inj h
    have hresponse := hset rfl
    split_ifs at hresponse
  · rename_i clientId client hphase
    obtain rfl := Option.some.inj h
    have hresponse := hset rfl
    rw [Request.finished.injEq] at hresponse
    rw [hphase]
    exact ⟨.connectionError clientId, rfl, hresponse.symm⟩
  · rename_i clientId client hphase
    obtain rfl := Option.some.inj h
    have hresponse := hset rfl
    rw [Request.finished.injEq] at hresponse
    rw [hphase]
    exact ⟨.connectionError clientId, rfl, hresponse.symm⟩
  · rename_i hphase
    obtain rfl := Option.some.inj h
    have hresponse := hset rfl
    rw [Request.finished.injEq] at hresponse
    rw [hphase]
    exact ⟨.handshakeFailed, rfl, hresponse.symm⟩
  · rename_i hphase
    obtain rfl := Option.some.inj h
    have hresponse := hset rfl
    rw [Request.finished.injEq] at hresponse
    rw [hphase]
    exact ⟨.forwardingError, rfl, hresponse.symm⟩
  · rename_i response' _ client hphase
    obtain rfl := Option.some.inj h
    have hresponse := hset rfl
    rw [Request.finished.injEq] at hresponse
    exact absurd (by rw [hresponse]) hl
  · rename_i clientId client hphase
    obtain rfl := Option.some.inj h
    have hresponse := hset rfl
    rw [Request.finished.injEq] at hresponse
    rw [hphase]
    exact ⟨.noResponse clientId, rfl, hresponse.symm⟩
  · cases h

/-! ## The body -/

/-- The text behind the message. -/
def afterMessage (status : ℕ) : List Char :=
  '"' :: ',' :: '"' :: ("status\":".toList ++ ((toString status).toList ++ ['\x7d']))

/-- The characters of the body. -/
theorem toList_errorResponse (status : ℕ) (msg : String) :
    (errorResponse status msg).body.toList =
      "\x7b\"error\":\"".toList ++ (msg.toList ++ afterMessage status) := by
  unfold errorResponse afterMessage
  simp only [String.toList_append, List.append_assoc]
  rfl

/-- There is no backslash behind the message. -/
theorem notMem_afterMessage (status : ℕ) : '\\' ∉ afterMessage status := by
  have hdigits : '\\' ∉ Nat.toDigits 10 status := fun hmem =>
    absurd (Nat.isDigit_of_mem_toDigits (by decide) (by decide) hmem) (by decide)
  simp [afterMessage, hdigits]

/-- A message that is read from behind a quote of the body is plain. -/
theorem jsonPlain_of_quoted {status : ℕ} {msg : String}
    (h : Json.Quoted (errorResponse status msg).body.toList msg) : JsonPlain msg := by
  obtain ⟨t, fuel, rest, hsuffix, hread⟩ := h
  rw [toList_errorResponse] at hsuffix
  -- The string may be read from a quote around the name, which is plain.
  have hstart : ∀ name : String, (∀ c ∈ name.toList, Json.isPlain c = true) →
      ∀ behind, t = name.toList ++ '"' :: behind → JsonPlain msg := by
    intro name hname behind ht
    have hplain :=
      @Json.readChars_of_isPlain _ hname behind (fuel + name.toList.length + 1) (by omega)
    rw [← ht] at hplain
    have hsame := (Json.readChars_mono hread (by omega)).symm.trans hplain
    have hmsg : msg.toList = name.toList := (Prod.mk.inj (Option.some.inj hsame)).1
    unfold JsonPlain
    rwa [hmsg]
  -- Or from a quote of the message, or from one behind it.
  have hbehind : '"' :: t <:+ msg.toList ++ afterMessage status → JsonPlain msg := by
    intro hsuffix
    have hshort : t <:+ afterMessage status → JsonPlain msg := fun hshort =>
      Json.isPlain_of_notMem hread fun hmem => notMem_afterMessage status (hshort.subset hmem)
    obtain ⟨front, hfront⟩ := hsuffix
    rcases List.append_eq_append_iff.mp hfront with ⟨x, hmsg, hx⟩ | ⟨y, -, hy⟩
    · cases x with
      | nil => exact hshort ⟨['"'], hx⟩
      | cons c x =>
        obtain ⟨rfl, rfl⟩ := List.cons.inj hx
        have hmsg' : msg.toList = (front ++ ['"']) ++ x := by simpa using hmsg
        unfold JsonPlain
        rw [hmsg'] at hread ⊢
        exact Json.isPlain_of_readChars hread
    · exact hshort ((List.suffix_cons '"' t).trans ⟨y, hy.symm⟩)
  have hfront : "\x7b\"error\":\"".toList =
      ['\x7b', '"', 'e', 'r', 'r', 'o', 'r', '"', ':', '"'] := rfl
  rw [hfront] at hsuffix
  -- The quotes of the body: two around the name, the one before the message, and those behind.
  simp only [List.cons_append, List.nil_append, List.suffix_cons_iff, List.cons.injEq,
    Char.reduceEq, false_and, false_or, true_and] at hsuffix
  rcases hsuffix with ht | ht | ht | hsuffix
  · exact hstart "error" (List.all_eq_true.mp (by decide)) _ ht
  · exact hstart ":" (List.all_eq_true.mp (by decide)) _ ht
  · rw [ht] at hread
    exact Json.isPlain_of_readChars (y := []) hread
  · exact hbehind hsuffix

/-- A plain message is read from the body, with the status. -/
theorem parse_errorResponse (status : ℕ) {msg : String} (h : JsonPlain msg) :
    Json.parse (errorResponse status msg).body =
      some (.obj [("error", .str msg), ("status", .num (toString status))]) := by
  obtain ⟨d, ds, hdigits⟩ : ∃ d ds, (toString status).toList = d :: ds := by
    rw [Nat.toString_eq_repr, Nat.toList_repr]
    exact List.exists_cons_of_ne_nil Nat.toDigits_ne_nil
  have hblank : Json.isBlank d = false := by
    have hmem : d ∈ Nat.toDigits 10 status := by
      rw [Nat.toString_eq_repr, Nat.toList_repr] at hdigits
      rw [hdigits]
      exact List.mem_cons_self
    have hdigit := Nat.isDigit_of_mem_toDigits (by decide) (by decide) hmem
    exact Json.isBlank_of_isDigit hdigit
  -- From the end of the body: the status, the error in front of it, the object.
  have hstatus : ∀ fuel, Json.readMembers (fuel + 2)
      ('"' :: ("status".toList ++ '"' :: ':' :: d :: (ds ++ ['\x7d']))) =
        some ([("status", .num (toString status))], []) := by
    intro fuel
    have hvalue := Json.readValue_toString fuel status (c := '\x7d') (by decide) (by decide) []
    rw [hdigits, List.cons_append] at hvalue
    exact Json.readMembers_last (List.all_eq_true.mp (by decide)) hblank hvalue
  have herror : ∀ fuel, Json.readMembers (fuel + 3)
      ('"' :: ("error".toList ++ '"' :: ':' :: '"' :: (msg.toList ++ afterMessage status))) =
        some ([("error", .str msg), ("status", .num (toString status))], []) := by
    intro fuel
    have hvalue := Json.readValue_str (fuel + 1) h
      (',' :: '"' :: ("status".toList ++ '"' :: ':' :: d :: (ds ++ ['\x7d'])))
    have hafter : afterMessage status =
        '"' :: ',' :: '"' :: ("status".toList ++ '"' :: ':' :: d :: (ds ++ ['\x7d'])) := by
      unfold afterMessage
      rw [hdigits]
      rfl
    rw [hafter]
    exact Json.readMembers_cons (List.all_eq_true.mp (by decide)) (by decide) hvalue (hstatus fuel)
  have hbody := toList_errorResponse status msg
  obtain ⟨fuel, hfuel⟩ : ∃ fuel, (errorResponse status msg).body.toList.length = fuel + 3 := by
    refine ⟨(errorResponse status msg).body.toList.length - 3, ?_⟩
    rw [hbody, List.length_append]
    have hlen : "\x7b\"error\":\"".toList.length = 10 := rfl
    omega
  refine Json.parse_eq_some hbody (by decide) ?_
  rw [hfuel, hbody]
  exact Json.readValue_obj (herror fuel)

/-- An error response reports its message exactly if the message is plain. -/
theorem reportsError_iff (status : ℕ) (msg : String) :
    ReportsError (errorResponse status msg) msg ↔ JsonPlain msg := by
  constructor
  · rintro ⟨json, hparse, herror, -⟩
    exact jsonPlain_of_quoted (Json.quoted_of_field hparse herror)
  · intro h
    exact ⟨_, parse_errorResponse status h, rfl, rfl⟩

/-- A text in two parts is plain when both are. -/
theorem jsonPlain_append (s t : String) : JsonPlain (s ++ t) ↔ JsonPlain s ∧ JsonPlain t := by
  unfold JsonPlain
  rw [String.toList_append]
  exact List.forall_mem_append

/-- Names that are joined with a plain text are plain together. -/
theorem jsonPlain_intercalate {sep : String} (hsep : JsonPlain sep) (names : List String) :
    JsonPlain (sep.intercalate names) ↔ ∀ name ∈ names, JsonPlain name := by
  induction names with
  | nil => simp [JsonPlain]
  | cons name names ih =>
    cases names with
    | nil => simp
    | cons name' names =>
      rw [String.intercalate_cons_cons, jsonPlain_append, jsonPlain_append, ih,
        List.forall_mem_cons]
      simp [hsep]

/-- A message is plain exactly if the names that it embeds are. -/
theorem ErrorExit.jsonPlain_message_iff (e : ErrorExit) :
    JsonPlain e.message ↔ ∀ name ∈ e.names, JsonPlain name := by
  have hnone : ∀ msg : String, JsonPlain msg → (JsonPlain msg ↔ ∀ name ∈ [], JsonPlain name) :=
    fun msg h => iff_of_true h fun name hname => nomatch hname
  have hone : ∀ front clientId back : String, JsonPlain front → JsonPlain back →
      (JsonPlain (front ++ clientId ++ back) ↔ ∀ name ∈ [clientId], JsonPlain name) := by
    intro front clientId back hfront hback
    rw [jsonPlain_append, jsonPlain_append, List.forall_mem_singleton]
    simp [hfront, hback]
  cases e with
  | noClients | rateLimited | handshakeFailed | forwardingError => exact hnone _ (by decide)
  | notFound clientId | connectionError clientId | noResponse clientId =>
    exact hone _ clientId _ (by decide) (by decide)
  | invalidSubdomain clientIds domain =>
    -- The list of the tunnels has the hosts, each of a client and the domain.
    have hhost : ∀ clientId, JsonPlain (clientId ++ "." ++ domain) ↔
        JsonPlain clientId ∧ JsonPlain domain := by
      intro clientId
      have hdot : JsonPlain "." := by decide
      rw [jsonPlain_append, jsonPlain_append, and_iff_left hdot]
    have hfront : JsonPlain "Invalid subdomain. Available tunnels: " := by decide
    unfold message names
    dsimp only
    rw [jsonPlain_append, and_iff_right hfront, jsonPlain_intercalate (by decide),
      List.forall_mem_map]
    simp only [hhost]
    split_ifs with hempty
    · rw [hempty]
      exact iff_of_true (fun _ h => nomatch h) fun _ h => nomatch h
    · obtain ⟨clientId, hmem⟩ := List.exists_mem_of_ne_nil _ hempty
      rw [List.forall_mem_cons]
      exact ⟨fun h => ⟨(h clientId hmem).2, fun id hid => (h id hid).1⟩,
        fun h id hid => ⟨h.2 id hid, h.1⟩⟩

/-- Every error response of the proxy is the JSON of its exit's message and status exactly if the
names that the message embeds are plain. -/
theorem error_json_iff {config : ServerConfig} {s s' : ServerState} {rid : ℕ} {l : RequestStep}
    {response : Response} (h : handleProxyRequest config s rid l = some s')
    (hfinished : s'.requests rid = .finished response) (hl : l ≠ .respond (some response)) :
    ∃ e, errorExit? config s rid l = some e ∧ response.status = e.status ∧
      (ReportsError response e.message ↔ ∀ name ∈ e.names, JsonPlain name) := by
  obtain ⟨e, hexit, rfl⟩ := errorExit_of_finished h hfinished hl
  refine ⟨e, hexit, rfl, ?_⟩
  rw [reportsError_iff, e.jsonPlain_message_iff]

/-- The response to a request for a tunnel `webapp` that is offline is such JSON. -/
theorem error_json_webapp :
    ∃ e, errorExit? ⟨6210, "tunnel.example.com", ⟨[]⟩⟩
        ((ServerState.new 100).setRequest 0 (.admitted "webapp")) 0 .lookup = some e ∧
      (errorResponse 502 "Tunnel 'webapp' not found or offline").status = e.status ∧
        (ReportsError (errorResponse 502 "Tunnel 'webapp' not found or offline") e.message ↔
          ∀ name ∈ e.names, JsonPlain name) := by
  have hstep : handleProxyRequest ⟨6210, "tunnel.example.com", ⟨[]⟩⟩
      ((ServerState.new 100).setRequest 0 (.admitted "webapp")) 0 .lookup =
        some (((ServerState.new 100).setRequest 0 (.admitted "webapp")).setRequest 0
          (.finished (errorResponse 502 "Tunnel 'webapp' not found or offline"))) := rfl
  exact error_json_iff hstep rfl nofun

/-- The response to a request for the host `a"b.tunnel.example.com` is no JSON of its message. -/
theorem error_json_broken :
    ¬ ∀ (config : ServerConfig) (S : Serde) (maxPerSecond : UInt32) (labels : List ServerStep)
      (s s' : ServerState) (rid : ℕ) (l : RequestStep) (response : Response) (e : ErrorExit),
      Transition.exec (serverStep config S) (.new maxPerSecond) labels = some s →
        handleProxyRequest config s rid l = some s' → s'.requests rid = .finished response →
          errorExit? config s rid l = some e → ReportsError response e.message := by
  intro h
  let config : ServerConfig := ⟨6210, "tunnel.example.com", ⟨[]⟩⟩
  let labels : List ServerStep :=
    [.request 0 (.arrive ⟨some "a\"b.tunnel.example.com", "/"⟩ 0), .request 0 (.limit 0)]
  have hsteps : (Transition.exec (serverStep config handshakeSerde) (.new 100) labels).map
      (fun s => (errorExit? config s 0 .lookup, (handleProxyRequest config s 0 .lookup).map
        fun s' => s'.requests 0)) =
      some (some (.notFound "a\"b"),
        some (.finished (errorResponse 502 "Tunnel 'a\"b' not found or offline"))) := by
    decide
  obtain ⟨s, hrun, hlookup⟩ := Option.map_eq_some_iff.mp hsteps
  obtain ⟨hexit, hlookup⟩ := Prod.mk.inj hlookup
  obtain ⟨s', hstep, hfinished⟩ := Option.map_eq_some_iff.mp hlookup
  have hreports := h config handshakeSerde 100 labels s s' 0 .lookup _ _ hrun hstep hfinished hexit
  have hplain := (reportsError_iff _ _).mp hreports
  revert hplain
  decide

end ZoTunnel
