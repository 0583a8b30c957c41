import ZoTunnel.Client.PageRun
import ZoTunnel.Client.WebRouter

/-!
# The page's requests at their handlers

What `web/client/app.js` sends (`Client/PageScript.lean`), on its way to the handlers of
`web_server.rs`: the id of a tunnel is encoded for the path, the browser resolves the path, the
router matches it and decodes the id, and the fields are written as JSON and read back. Then the
handler's checks come, after those of the page.

An id that is `.` or `..` cannot stand in a path, and the routes do not say whether an empty one
can. So `requests_arrive` says that a request with any other id arrives with its id and its fields
unless it is too large, and that of the others none is about another tunnel: a handler that gets one
gets the empty id. `check_eq` says that the handler's checks let through what the page has let
through.
-/

namespace ZoTunnel

namespace ClientPage

open Percent (encodeURIComponent path segments resolveDots NotDots)
open WebApi (Call Handler Request Web receive createRouter bodyLimit pathLimit)
open Route (hits)

/-! ## Requests on the wire -/

/-- The call that a button of a card is for. -/
def CardAction.call (id : String) : CardAction → Call
  | .start => .start id
  | .stop => .stop id
  | .restart => .restart id

/-- Its handler. -/
def CardAction.handler : CardAction → Handler
  | .start => .apiStartTunnel
  | .stop => .apiStopTunnel
  | .restart => .apiRestartTunnel

/-- `api`, up to what `fetch` sends. -/
def api (web : Web) (method : WebApi.Method) (url : String) (body : Option Json) : Request where
  method := method
  path := web.resolve url
  isJson := body.isSome
  body := (body.map Json.stringify).getD ""

/-- The body for a tunnel. -/
def body (fields : TunnelFields) : Json :=
  .obj [("client_id", .str fields.clientId), ("local_addr", .str fields.localAddr),
    ("enabled", .bool fields.enabled)]

/-- A request as it is sent. -/
def Sent.request (web : Web) : Sent → Request
  | .connect server token =>
    api web .post "/api/connect" (some (.obj [("server", .str server), ("token", .str token)]))
  | .disconnect => api web .post "/api/disconnect" none
  | .add fields => api web .post "/api/tunnels" (some (body fields))
  | .update id fields =>
    api web .put ("/api/tunnels/" ++ encodeURIComponent id) (some (body fields))
  | .delete id => api web .delete ("/api/tunnels/" ++ encodeURIComponent id) none
  | .action id verb =>
    api web .post ("/api/tunnels/" ++ encodeURIComponent id ++ "/" ++ verb.text) none
  | .upgrade => api web .post "/api/upgrade" none

/-- The call that the page means. -/
def Sent.call : Sent → Call
  | .connect server token => .connect ⟨server, token, false, none, false⟩
  | .disconnect => .disconnect
  | .add fields => .add fields
  | .update id fields => .update id fields
  | .delete id => .delete id
  | .action id verb => verb.call id
  | .upgrade => .upgrade

/-- The request with another id. -/
def Sent.withId (id : String) : Sent → Sent
  | .update _ fields => .update id fields
  | .delete _ => .delete id
  | .action _ verb => .action id verb
  | r => r

/-- The id can stand in the path. -/
def Sent.Addressable : Sent → Prop
  | .update id _ | .delete id | .action id _ => id ∉ ["", ".", ".."]
  | _ => True

instance (r : Sent) : Decidable r.Addressable := by
  unfold Sent.Addressable
  cases r <;> infer_instance

/-- What a request can arrive as. -/
def Sent.arriving (r : Sent) : Sent := if r.Addressable then r else r.withId ""

/-! ## Paths -/

/-- The ids in the path of a request. -/
def Sent.params : Sent → List String
  | .update id _ | .delete id | .action id _ => [id]
  | _ => []

/-- The segments of the path, as the page writes it. -/
def Sent.segments : Sent → List String
  | .connect .. => ["api", "connect"]
  | .disconnect => ["api", "disconnect"]
  | .add _ => ["api", "tunnels"]
  | .update id _ | .delete id => ["api", "tunnels", encodeURIComponent id]
  | .action id verb => ["api", "tunnels", encodeURIComponent id, verb.text]
  | .upgrade => ["api", "upgrade"]

/-- The segments that are no ids. -/
def words : List String :=
  ["api", "connect", "disconnect", "tunnels", "upgrade", "start", "stop", "restart"]

/-- A segment is a word or an id. -/
theorem mem_segments {r : Sent} {s : String} (h : s ∈ r.segments) :
    s ∈ words ∨ ∃ id ∈ r.params, s = encodeURIComponent id := by
  cases r with
  | connect server token | disconnect | add fields | upgrade =>
    simp only [Sent.segments, List.mem_cons, List.not_mem_nil, or_false] at h
    rcases h with rfl | rfl <;> exact .inl (by decide)
  | update id fields | delete id =>
    simp only [Sent.segments, List.mem_cons, List.not_mem_nil, or_false] at h
    rcases h with rfl | rfl | rfl
    · exact .inl (by decide)
    · exact .inl (by decide)
    · exact .inr ⟨id, .head _, rfl⟩
  | action id verb =>
    simp only [Sent.segments, List.mem_cons, List.not_mem_nil, or_false] at h
    rcases h with rfl | rfl | rfl | rfl
    · exact .inl (by decide)
    · exact .inl (by decide)
    · exact .inr ⟨id, .head _, rfl⟩
    · cases verb <;> exact .inl (by decide)

/-- The characters of the segments. -/
theorem isSegmentChar_segments (r : Sent) :
    ∀ s ∈ r.segments, ∀ c ∈ s.toList, Percent.isSegmentChar c = true := by
  intro s hs c hc
  rcases mem_segments hs with hword | ⟨id, -, rfl⟩
  · have hall : words.all (fun s => s.toList.all Percent.isSegmentChar) = true := by decide
    exact List.all_eq_true.mp (List.all_eq_true.mp hall s hword) c hc
  · unfold Percent.isSegmentChar
    rw [Bool.or_eq_true, decide_eq_true_eq]
    exact Percent.mem_encodeURIComponent hc

/-- No segment is dots, when the id is not. -/
theorem resolveDots_segments {r : Sent} (h : ∀ id ∈ r.params, id ≠ "." ∧ id ≠ "..") :
    resolveDots [] r.segments = r.segments := by
  refine Percent.resolveDots_of_forall fun s hs => ?_
  rcases mem_segments hs with hword | ⟨id, hid, rfl⟩
  · have hall : ∀ s ∈ words, NotDots s := by decide
    exact hall s hword
  · obtain ⟨hone, htwo⟩ := h id hid
    exact ⟨fun hdots => hone (Percent.eq_replicate_of_dots hdots),
      fun hdots => htwo (Percent.eq_replicate_of_dots hdots)⟩

/-- The browser is asked for the path of the segments. -/
theorem request_path (web : Web) (r : Sent) :
    (r.request web).path = web.resolve (path r.segments) := by
  have hurl : ∀ url, url = path r.segments → web.resolve url = web.resolve (path r.segments) :=
    fun _ => congrArg web.resolve
  cases r with
  | connect server token | disconnect | add fields | upgrade => rfl
  | update id fields | delete id =>
    refine hurl _ ?_
    rw [← String.toList_inj]
    unfold path Sent.segments
    simp [String.intercalate_cons_cons]
  | action id verb =>
    refine hurl _ ?_
    rw [← String.toList_inj]
    unfold path Sent.segments
    simp [String.intercalate_cons_cons]

variable {web : Web}

/-- The router gets the segments with their dots resolved. -/
theorem segments_request (hweb : web.Lawful) (r : Sent) :
    segments (r.request web).path = resolveDots [] r.segments := by
  have hne : r.segments ≠ [] := by cases r <;> exact List.cons_ne_nil _ _
  have hhead : r.segments.head? = some "api" := by cases r <;> rfl
  rw [request_path, hweb.resolve _ hne (by rw [hhead]; decide) (isSegmentChar_segments r)]
  refine Percent.segments_path (Percent.resolveDots_ne_nil hne) fun s hs hslash => ?_
  rcases Percent.mem_resolveDots hs with rfl | hnil | hmem
  · cases hslash
  · cases hnil
  · exact absurd (isSegmentChar_segments r s hmem _ hslash) (by decide)

/-! ## Routes -/

/-- The route that a request is for. -/
def Sent.route : Sent → String × WebApi.Method × Handler
  | .connect .. => ("/api/connect", .post, .apiConnect)
  | .disconnect => ("/api/disconnect", .post, .apiDisconnect)
  | .add _ => ("/api/tunnels", .post, .apiAddTunnel)
  | .update .. => ("/api/tunnels/:id", .put, .apiUpdateTunnel)
  | .delete _ => ("/api/tunnels/:id", .delete, .apiDeleteTunnel)
  | .action _ verb => ("/api/tunnels/:id/" ++ verb.text, .post, verb.handler)
  | .upgrade => ("/api/upgrade", .post, .apiUpgrade)

/-- The method is that of the route. -/
theorem request_method (web : Web) (r : Sent) : (r.request web).method = r.route.2.1 := by
  cases r <;> rfl

/-- The parameters are read back. -/
theorem decode_params (r : Sent) :
    (r.params.map encodeURIComponent).mapM Percent.decode? = some r.params := by
  have hone : ∀ id, [encodeURIComponent id].mapM Percent.decode? = some [id] := by
    intro id
    rw [List.mapM_cons, Percent.decode?_encodeURIComponent]
    rfl
  cases r with
  | connect server token | disconnect | add fields | upgrade => rfl
  | update id fields | delete id | action id verb => exact hone id

/-- What takes the segments of a request: its route, and one of the same pattern for another method
at most. -/
theorem hits_segments (r : Sent) :
    (r.route, r.params.map encodeURIComponent) ∈ hits createRouter r.segments ∧
      ∀ other ∈ hits createRouter r.segments, other.1.1 = r.route.1 ∧
        (other.1.2.1 = r.route.2.1 → other = (r.route, r.params.map encodeURIComponent)) := by
  have hconnect : hits createRouter ["api", "connect"] =
      [(("/api/connect", .post, .apiConnect), [])] := by decide
  have hdisconnect : hits createRouter ["api", "disconnect"] =
      [(("/api/disconnect", .post, .apiDisconnect), [])] := by decide
  have htunnels : hits createRouter ["api", "tunnels"] =
      [(("/api/tunnels", .get, .apiListTunnels), []),
        (("/api/tunnels", .post, .apiAddTunnel), [])] := by decide
  have hupgrade : hits createRouter ["api", "upgrade"] =
      [(("/api/upgrade", .post, .apiUpgrade), [])] := by decide
  cases r with
  | connect server token => simp [Sent.segments, Sent.route, Sent.params, hconnect]
  | disconnect => simp [Sent.segments, Sent.route, Sent.params, hdisconnect]
  | add fields => simp [Sent.segments, Sent.route, Sent.params, htunnels]
  | update id fields => simp [Sent.segments, Sent.route, Sent.params, WebApi.hits_tunnel]
  | delete id => simp [Sent.segments, Sent.route, Sent.params, WebApi.hits_tunnel]
  | action id verb =>
    have haction : hits createRouter ["api", "tunnels", encodeURIComponent id, verb.text] =
        [(("/api/tunnels/:id/" ++ verb.text, .post, verb.handler), [encodeURIComponent id])] :=
      WebApi.hits_action _ (by cases verb <;> decide)
    simp [Sent.segments, Sent.route, Sent.params, haction]
  | upgrade => simp [Sent.segments, Sent.route, Sent.params, hupgrade]

/-- A request whose id cannot stand in the path gets to its own route without an id, or to none. -/
theorem eq_of_not_addressable {r : Sent} (h : ¬ r.Addressable) :
    ∀ hit ∈ hits createRouter (resolveDots [] r.segments), hit.1.2.1 = r.route.2.1 →
      hit = (r.route, [""]) := by
  have htunnel : ∀ id ∈ ["", ".", ".."],
      ∀ hit ∈ hits createRouter (resolveDots [] ["api", "tunnels", encodeURIComponent id]),
        hit ∈ [(("/api/tunnels/:id", WebApi.Method.put, Handler.apiUpdateTunnel), [""]),
          (("/api/tunnels/:id", .delete, .apiDeleteTunnel), [""])] := by
    decide
  have haction : ∀ verb : CardAction, ∀ id ∈ ["", ".", ".."],
      ∀ hit ∈ hits createRouter
        (resolveDots [] ["api", "tunnels", encodeURIComponent id, verb.text]),
        hit.1.2.1 ≠ .post ∨
          hit = (("/api/tunnels/:id/" ++ verb.text, .post, verb.handler), [""]) := by
    intro verb
    cases verb <;> decide
  intro hit hhit hmethod
  cases r with
  | connect server token | disconnect | add fields | upgrade => exact absurd trivial h
  | update id fields =>
    have hmem := htunnel id (not_not.mp h) hit hhit
    simp only [List.mem_cons, List.not_mem_nil, or_false] at hmem
    rcases hmem with rfl | rfl
    · rfl
    · cases hmethod
  | delete id =>
    have hmem := htunnel id (not_not.mp h) hit hhit
    simp only [List.mem_cons, List.not_mem_nil, or_false] at hmem
    rcases hmem with rfl | rfl
    · cases hmethod
    · rfl
  | action id verb =>
    exact (haction verb id (not_not.mp h) hit hhit).resolve_left (not_not.mpr hmethod)

/-! ## Arrival -/

/-- An id that can stand in the path. -/
theorem Sent.Addressable.params {r : Sent} (h : r.Addressable) :
    ∀ id ∈ r.params, id ≠ "" ∧ id ≠ "." ∧ id ≠ ".." := by
  intro id hid
  cases r with
  | connect server token | disconnect | add fields | upgrade => cases hid
  | update _ fields | delete _ | action _ verb =>
    obtain rfl := List.mem_singleton.mp hid
    unfold Sent.Addressable at h
    simpa using h

/-- What a handler's extractors get from a request that a handler gets: those of its route, with the
ids that it can arrive with. -/
theorem extract_of_receive (hweb : web.Lawful) {r : Sent} {call : Call}
    (hok : receive web (r.request web) = .ok call) :
    r.route.2.2.extract web r.arriving.params (r.request web) = .ok call := by
  obtain ⟨hit, hmem, handler, texts, hroute, hdecode, hextract⟩ := hweb.exists_hit hok
  rw [segments_request hweb] at hmem
  rw [request_method] at hroute
  obtain ⟨hmethod, hhandler⟩ := Prod.mk.inj hroute
  unfold Sent.arriving
  split_ifs with haddr
  · rw [resolveDots_segments fun id hid => (haddr.params id hid).2] at hmem
    obtain rfl := ((hits_segments r).2 hit hmem).2 hmethod
    rw [decode_params] at hdecode
    rwa [Option.some.inj hdecode, hhandler]
  · obtain rfl := eq_of_not_addressable haddr hit hmem hmethod
    have hempty : (r.withId "").params = [""] := by
      cases r with
      | connect server token | disconnect | add fields | upgrade => exact absurd trivial haddr
      | update id fields | delete id | action id verb => rfl
    have hdecoded : [""].mapM Percent.decode? = some [""] := by decide
    rw [hempty, ← Option.some.inj (hdecode.symm.trans hdecoded), hhandler]
    exact hextract

/-- A request that can be addressed gets to the handler of its route. -/
theorem receive_eq_extract (hweb : web.Lawful) {r : Sent} (h : r.Addressable)
    (hlimit : (r.request web).path.utf8ByteSize ≤ pathLimit) :
    receive web (r.request web) = r.route.2.2.extract web r.params (r.request web) := by
  have hsegments := segments_request hweb r
  rw [resolveDots_segments fun id hid => (h.params id hid).2] at hsegments
  obtain ⟨hmem, honly⟩ := hits_segments r
  rw [← hsegments] at hmem honly
  have hfull : "" ∉ segments (r.request web).path := by
    intro hempty
    rw [hsegments] at hempty
    rcases mem_segments hempty with hword | ⟨id, hid, heq⟩
    · exact absurd hword (by decide)
    · exact (h.params id hid).1 (Percent.encodeURIComponent_eq_empty_iff.mp heq.symm)
  refine hweb.receive_eq hlimit hfull hmem (fun other hother => ?_) (request_method web r).symm
    (decode_params r)
  obtain ⟨hpattern, hsame⟩ := honly other hother
  exact ⟨hpattern, fun hmethod => by rw [hsame hmethod]⟩

/-- A payload is read as it was written. -/
theorem extract_api {α : Type} {extractor : WebApi.Extractor α}
    {ofMembers : List (String × Json) → Option α} (hreads : extractor.Reads ofMembers)
    {members : List (String × Json)} (hflat : Json.FlatMembers members) (hne : members ≠ [])
    (hnames : (members.map Prod.fst).Nodup) {a : α} (ha : ofMembers members = some a)
    (method : WebApi.Method) (url : String)
    (hlimit : (api web method url (some (.obj members))).body.utf8ByteSize ≤ bodyLimit) :
    extractor (api web method url (some (.obj members))) = .ok a :=
  hreads.ok _ members a rfl hlimit (Json.parse_stringify hflat hne) hflat hnames ha

/-- The members of the body for a tunnel. -/
theorem flatMembers_body (fields : TunnelFields) :
    Json.FlatMembers [("client_id", .str fields.clientId), ("local_addr", .str fields.localAddr),
      ("enabled", .bool fields.enabled)] :=
  .cons (by decide) (.str _) (.cons (by decide) (.str _) (.cons (by decide) (.bool _) .nil))

/-- The handler of a request reads what the page has sent, with the ids that it gets. -/
theorem extract_eq (hweb : web.Lawful) (r : Sent) (id : String)
    (hlimit : (r.request web).body.utf8ByteSize ≤ bodyLimit) :
    r.route.2.2.extract web (r.withId id).params (r.request web) = .ok (r.withId id).call := by
  cases r with
  | connect server token =>
    have hflat : Json.FlatMembers [("server", .str server), ("token", .str token)] :=
      .cons (by decide) (.str _) (.cons (by decide) (.str _) .nil)
    have hread := extract_api hweb.connect hflat (List.cons_ne_nil _ _) (by simp) rfl _ _ hlimit
    exact congrArg (Except.map Call.connect) hread
  | add fields =>
    have hread := extract_api hweb.addTunnel (flatMembers_body fields) (List.cons_ne_nil _ _)
      (by simp) rfl _ _ hlimit
    exact congrArg (Except.map Call.add) hread
  | update _ fields =>
    have hread := extract_api hweb.updateTunnel (flatMembers_body fields) (List.cons_ne_nil _ _)
      (by simp) rfl _ _ hlimit
    exact congrArg (Except.map (Call.update id)) hread
  | disconnect | delete _ | upgrade => rfl
  | action _ verb => cases verb <;> rfl

/-- A body that is too large is not read. -/
theorem extract_error (hweb : web.Lawful) {r : Sent} (texts : List String)
    (hlimit : bodyLimit < (r.request web).body.utf8ByteSize) :
    ∃ rejection, r.route.2.2.extract web texts (r.request web) = .error rejection := by
  cases r with
  | connect server token =>
    obtain ⟨rejection, hrejected⟩ := hweb.connect.error _ hlimit
    exact ⟨rejection, congrArg (Except.map Call.connect) hrejected⟩
  | add fields =>
    obtain ⟨rejection, hrejected⟩ := hweb.addTunnel.error _ hlimit
    exact ⟨rejection, congrArg (Except.map Call.add) hrejected⟩
  | update id fields =>
    obtain ⟨rejection, hrejected⟩ := hweb.updateTunnel.error _ hlimit
    match texts with
    | [id] => exact ⟨rejection, congrArg (Except.map (Call.update id)) hrejected⟩
    | [] => exact ⟨.pathParams, rfl⟩
    | _ :: _ :: _ => exact ⟨.pathParams, rfl⟩
  | disconnect | delete id | action id verb | upgrade => exact absurd hlimit (Nat.not_lt_zero _)

/-- A request with the ids that it has. -/
theorem exists_withId (r : Sent) : ∃ id, r.withId id = r := by
  cases r with
  | connect server token | disconnect | add fields | upgrade => exact ⟨"", rfl⟩
  | update id fields | delete id | action id verb => exact ⟨id, rfl⟩

/-- What a request can arrive as is the request with some id. -/
theorem exists_arriving (r : Sent) : ∃ id, r.withId id = r.arriving := by
  unfold Sent.arriving
  split_ifs
  · exact exists_withId r
  · exact ⟨"", rfl⟩

/-! ## The checks -/

/-- A value that the page has trimmed, and which is not empty then. -/
def Trimmed (v : String) : Prop := v ≠ "" ∧ ∃ w, v = Text.trimJs w

/-- What the page has checked of a request. -/
def Sent.Checked : Sent → Prop
  | .connect server token => Trimmed server ∧ Trimmed token
  | .add fields | .update _ fields =>
    isTunnelName fields.clientId = true ∧ Trimmed fields.localAddr
  | _ => True

/-- A value that neither begins nor ends with U+0085, which is white space for the client and not
for the page. -/
def Clear (v : String) : Prop :=
  v.toList.head? ≠ some '\u0085' ∧ v.toList.getLast? ≠ some '\u0085'

/-- The values of a request are clear. -/
def Sent.Clear : Sent → Prop
  | .connect server token => ClientPage.Clear server ∧ ClientPage.Clear token
  | .add fields | .update _ fields => ClientPage.Clear fields.localAddr
  | _ => True

/-- What the page means a request to come to. -/
def Sent.meant (save : Except Error Unit) (config : TunnelsConfig) : Sent → Option CheckedCall
  | .connect server token => some ⟨.connect save config, some ⟨server, token, false, none, false⟩⟩
  | .disconnect => some ⟨.disconnect, none⟩
  | .add fields => some (.tunnel (.add ⟨"", fields.clientId, fields.localAddr, fields.enabled⟩))
  | .update id fields =>
    some (.tunnel (.update id fields.clientId fields.localAddr fields.enabled))
  | .delete id => some (.tunnel (.remove id))
  | .action id .start => some (.tunnel (.start id))
  | .action id .stop => some (.tunnel (.stop id))
  | .action id .restart => some (.tunnel (.restart id))
  | .upgrade => none

/-- A clear value is not trimmed again. -/
theorem Trimmed.trim {v : String} (h : Trimmed v) (hclear : Clear v) : Text.trim v = v := by
  obtain ⟨-, w, rfl⟩ := h
  exact Text.trim_trimJs hclear.1 hclear.2

/-- The name of a tunnel has no white space. -/
theorem isWhitespace_of_isTunnelName {name : String} (h : isTunnelName name = true) :
    ∀ c ∈ name.toList, Text.isWhitespace c = false := by
  unfold isTunnelName at h
  rw [decide_eq_true_eq] at h
  intro c hc
  have hchar := List.all_eq_true.mp h.2 c hc
  simp only [Bool.or_eq_true, decide_eq_true_eq] at hchar
  have hkept : Percent.isPathChar c = true := by
    rcases hchar with (halnum | rfl) | rfl
    · unfold Percent.isPathChar Percent.isKept
      rw [halnum]
      rfl
    · decide
    · decide
  have hrange := Percent.toNat_of_isPathChar hkept
  unfold Text.isWhitespace
  dsimp only
  rw [decide_eq_false_iff_not]
  omega

section

variable {isAlphanumeric : Char → Bool}

/-- What the page's form lets through, the checks of the client let through as it is. -/
theorem checkFields_eq (hascii : ∀ c, c.isAlphanum = true → isAlphanumeric c = true)
    {fields : TunnelFields} (hname : isTunnelName fields.clientId = true)
    (haddr : Trimmed fields.localAddr) (hclear : Clear fields.localAddr) :
    checkFields isAlphanumeric fields = .ok (fields.clientId, fields.localAddr) := by
  have hid := Text.trim_of_forall (isWhitespace_of_isTunnelName hname)
  unfold isTunnelName at hname
  rw [decide_eq_true_eq] at hname
  obtain ⟨hne, hchars⟩ := hname
  have hall : fields.clientId.toList.all (isIdChar isAlphanumeric) = true := by
    rw [List.all_eq_true] at hchars ⊢
    intro c hc
    have hchar := hchars c hc
    simp only [Bool.or_eq_true, decide_eq_true_eq] at hchar
    unfold isIdChar
    simp only [Bool.or_eq_true, decide_eq_true_eq]
    rcases hchar with (halnum | hline) | hdash
    · exact .inl (.inl (hascii c halnum))
    · exact .inr hline
    · exact .inl (.inr hdash)
  unfold checkFields
  dsimp only
  rw [hid, haddr.trim hclear, if_neg (by simpa using hne), if_neg (by simpa using haddr.1), hall]
  exact if_neg (by decide)

/-- What the page has checked passes the checks of its handler. -/
theorem check_eq (hascii : ∀ c, c.isAlphanum = true → isAlphanumeric c = true)
    {r : Sent} (hchecked : r.Checked) (hclear : r.Clear) {save : Except Error Unit}
    {config : TunnelsConfig} {checked : CheckedCall} (hmeant : r.meant save config = some checked) :
    ∃ http, r.call.httpCall? save config = some http ∧
      http.check isAlphanumeric = .ok checked := by
  cases r with
  | connect server token =>
    obtain rfl := Option.some.inj hmeant
    refine ⟨_, rfl, ?_⟩
    unfold HttpCall.check ConnectRequest.check
    dsimp only
    rw [hchecked.1.trim hclear.1, hchecked.2.trim hclear.2,
      if_neg (by simpa using hchecked.1.1), if_neg (by simpa using hchecked.2.1)]
    rfl
  | add fields =>
    obtain rfl := Option.some.inj hmeant
    refine ⟨_, rfl, ?_⟩
    unfold HttpCall.check
    dsimp only
    rw [checkFields_eq hascii hchecked.1 hchecked.2 hclear]
    rfl
  | update id fields =>
    obtain rfl := Option.some.inj hmeant
    refine ⟨_, rfl, ?_⟩
    unfold HttpCall.check
    dsimp only
    rw [checkFields_eq hascii hchecked.1 hchecked.2 hclear]
    rfl
  | disconnect | delete id =>
    obtain rfl := Option.some.inj hmeant
    exact ⟨_, rfl, rfl⟩
  | action id verb =>
    cases verb with
    | start | stop | restart =>
      obtain rfl := Option.some.inj hmeant
      exact ⟨_, rfl, rfl⟩
  | upgrade => cases hmeant

end

/-! ## Runs -/

/-- An event of the user sends what the page has checked. -/
theorem checked_handle (p : App) (event : UserEvent) :
    (p.handle event).sent = p.sent ∨
      ∃ request, (p.handle event).sent = request :: p.sent ∧ request.Checked := by
  cases event with
  | submitSetup server token =>
    unfold App.handle App.submitSetup
    dsimp only
    split_ifs with hserver htoken
    · exact .inl rfl
    · exact .inl rfl
    · exact .inr ⟨_, rfl, ⟨hserver, _, rfl⟩, htoken, _, rfl⟩
  | submitTunnel =>
    unfold App.handle App.submitTunnel
    dsimp only
    split_ifs with hempty hname haddr hid
    · exact .inl rfl
    · exact .inl rfl
    · exact .inl rfl
    · exact .inr ⟨_, rfl, by simpa using hname, haddr, _, rfl⟩
    · exact .inr ⟨_, rfl, by simpa using hname, haddr, _, rfl⟩
  | confirmDelete =>
    unfold App.handle App.confirmDelete
    dsimp only
    split
    · exact .inl rfl
    · split_ifs
      · exact .inl rfl
      · exact .inr ⟨_, rfl, trivial⟩
  | action tunnel verb => exact .inr ⟨_, rfl, trivial⟩
  | confirmDisconnect => exact .inr ⟨_, rfl, trivial⟩
  | confirmUpgrade => exact .inr ⟨_, rfl, trivial⟩
  | _ => exact .inl rfl

/-- What comes of a request of the page. -/
structure Sent.Arrives (web : Web) (isAlphanumeric : Char → Bool) (r : Sent) : Prop where
  /-- If its id can stand in the path and it is not too large, its handler gets what the page has
  sent. -/
  received : r.Addressable → (r.request web).path.utf8ByteSize ≤ pathLimit →
    (r.request web).body.utf8ByteSize ≤ bodyLimit → receive web (r.request web) = .ok r.call
  /-- A handler gets nothing else, but for an empty id in place of one that cannot stand in the
  path. -/
  only : ∀ call, receive web (r.request web) = .ok call → call = r.arriving.call
  /-- No handler gets a body that is too large. -/
  refused : bodyLimit < (r.request web).body.utf8ByteSize →
    ∃ rejection, receive web (r.request web) = .error rejection
  /-- The checks of the handler let the page's values through, and change nothing. -/
  passes : r.Clear → ∀ save config checked, r.meant save config = some checked →
    ∃ http, r.call.httpCall? save config = some http ∧ http.check isAlphanumeric = .ok checked

/-- A request that the page has checked arrives. -/
theorem Sent.Checked.arrives {web : Web} (hweb : web.Lawful) {isAlphanumeric : Char → Bool}
    (hascii : ∀ c, c.isAlphanum = true → isAlphanumeric c = true) {r : Sent} (h : r.Checked) :
    r.Arrives web isAlphanumeric where
  received := by
    intro haddr hpath hbody
    obtain ⟨id, hid⟩ := exists_withId r
    have hextract := extract_eq hweb r id hbody
    rw [hid] at hextract
    rw [receive_eq_extract hweb haddr hpath, hextract]
  only := by
    intro call hok
    have hextract := extract_of_receive hweb hok
    rcases Nat.lt_or_ge bodyLimit (r.request web).body.utf8ByteSize with hlarge | hbody
    · obtain ⟨rejection, hrejected⟩ := extract_error hweb r.arriving.params hlarge
      rw [hrejected] at hextract
      cases hextract
    · obtain ⟨id, hid⟩ := exists_arriving r
      have hsent := extract_eq hweb r id hbody
      rw [hid, hextract] at hsent
      exact Except.ok.inj hsent
  refused := by
    intro hlarge
    cases hreceive : receive web (r.request web) with
    | error rejection => exact ⟨rejection, rfl⟩
    | ok call =>
      obtain ⟨rejection, hrejected⟩ := extract_error hweb r.arriving.params hlarge
      rw [extract_of_receive hweb hreceive] at hrejected
      cases hrejected
  passes := fun hclear _ _ _ hmeant => check_eq hascii h hclear hmeant

/-- Whatever has happened to the page, what it has sent arrives at the handler that it is for, with
the tunnel's id and the values of the form, or at none that is about another tunnel. -/
theorem requests_arrive {web : Web} (hweb : web.Lawful) {isAlphanumeric : Char → Bool}
    (hascii : ∀ c, c.isAlphanum = true → isAlphanumeric c = true) (inlineStyles : Bool)
    (events : List PageEvent) :
    Transition.Visits (pageStep inlineStyles)
      (fun p => ∀ r ∈ p.sent, r.Arrives web isAlphanumeric) (.load inlineStyles) events := by
  have hstep : ∀ p event p', (∀ r ∈ p.sent, r.Checked) → pageStep inlineStyles p event = some p' →
      ∀ r ∈ p'.sent, r.Checked := by
    intro p event p' h hstep
    rcases pageStep_sent hstep with hsame | ⟨-, hnone⟩ | ⟨action, -, rfl, -⟩
    · rwa [hsame]
    · rw [hnone]
      exact nofun
    · rcases checked_handle p action with hsame | ⟨request, hsent, hchecked⟩
      · rwa [hsame]
      · rw [hsent]
        intro r hr
        rcases List.mem_cons.mp hr with rfl | hr
        · exact hchecked
        · exact h r hr
  have hvisits : Transition.Visits (pageStep inlineStyles) (fun p => ∀ r ∈ p.sent, r.Checked)
      (.load inlineStyles) events :=
    Transition.visits_of_invariant hstep (fun _ hr => absurd hr List.not_mem_nil) events
  exact hvisits.mono fun p hp r hr => (hp r hr).arrives hweb hascii

/-- Such a page, whose user connects it. -/
theorem requests_arrive_connect :
    Transition.Visits (pageStep true)
      (fun p => ∀ r ∈ p.sent, r.Arrives WebApi.tableWeb Char.isAlphanum) (.load true)
      [.replied (.init .failed), .user (.submitSetup "zo.example:7000" " secret ")] :=
  requests_arrive WebApi.tableWeb_lawful (fun _ h => h) true _

end ClientPage

end ZoTunnel
