import ZoTunnel.Lib.Form
import ZoTunnel.Lib.Url
import ZoTunnel.Server.Caddy

/-!
# The request to the fallback

The request that `check_fallback` sends (`caddy.rs`): the URL is the endpoint's with the domain
behind it, `parse_url` takes it apart, and `http_request` connects and asks for what `parse_url`
says is the path. The domain was decoded from the query of the TLS check and is not encoded again,
and the port is 80 where the URL gives none.

How the `http` crate reads a URI is a parameter. `HttpUri` says what it is relied on for.
-/

namespace ZoTunnel

/-- What `hyper::Uri` says of a text that it accepts: `host()`, `port_u16()`, and
`path_and_query()` as text. -/
structure Uri where
  host : Option String
  portU16 : Option UInt16
  pathAndQuery : Option String

/-- Parse a URL into (host, port, path_and_query). -/
def parseUrl (parse : String → Option Uri) (url : String) : Option (String × UInt16 × String) := do
  let uri ← parse url
  let host := uri.host.getD "localhost"
  let port := uri.portU16.getD 80
  let path := uri.pathAndQuery.getD "/"
  some (host, port, path)

/-- A GET that `http_request` sends. -/
structure SentRequest where
  connectHost : String
  port : UInt16
  hostHeader : String
  target : String
  deriving DecidableEq, Repr

/-- The GET that `http_request` sends for a URL, unless the URL or the path of it is refused. -/
def httpRequest (parse : String → Option Uri) (url : String) : Option SentRequest := do
  let (host, port, path) ← parseUrl parse url
  let connectHost := if host = "localhost" then "127.0.0.1" else host
  let hostHeader := if port = 80 then host else host ++ ":" ++ toString port.toNat
  let uri ← parse path
  some ⟨connectHost, port, hostHeader, uri.pathAndQuery.getD "/"⟩

/-- The request that `check_fallback` sends. -/
def CaddyManager.fallbackRequest (mgr : CaddyManager) (parse : String → Option Uri)
    (domain : String) : Option SentRequest :=
  mgr.fallbackEndpoint.bind fun endpoint => httpRequest parse (fallbackUrl endpoint domain)

/-- The query of a request target. -/
def targetQuery (target : String) : String :=
  String.ofList ((target.toList.dropWhile (· ≠ '?')).drop 1)

/-- What is relied on of the way the `http` crate reads URIs. An absolute URL that it accepts has
the host, the port, the path and the query that it says, without the fragment; where the URL has a
query and no path, the slash may be put in. A path and query that came from a URI is itself when it
is accepted. -/
structure HttpUri (parse : String → Option Uri) : Prop where
  absolute : ∀ {s : String} {uri : Uri} {url : Url} {query : String}, parse s = some uri →
    Url.read s = some url → url.query = some query →
      uri.host = some url.host ∧ uri.portU16 = url.port ∧
        (uri.pathAndQuery = some (url.path ++ "?" ++ query) ∨
          url.path = "" ∧ uri.pathAndQuery = some ("/?" ++ query))
  again : ∀ {s path : String} {uri uri' : Uri}, parse s = some uri →
    uri.pathAndQuery = some path → parse path = some uri' → uri'.pathAndQuery = some path

/-- Where a request goes: `localhost` is the loopback address. -/
def Reaches (connectHost host : String) : Prop :=
  connectHost = host ∨ host = "localhost" ∧ connectHost = "127.0.0.1"

/-- The fallback is asked about the domain: the request goes to the host and the port of the
endpoint, and its parameters are the endpoint's own and the domain. -/
structure AsksAbout (url : Url) (domain : String) (sent : SentRequest) : Prop where
  host : Reaches sent.connectHost url.host
  port : sent.port = url.effectivePort
  query : Form.parse (targetQuery sent.target) =
    Form.parse (url.query.getD "") ++ [("domain", domain)]

/-- The `http` crate accepts a URL, and the path and query of it as the target of a request. -/
def Accepts (parse : String → Option Uri) (url : String) : Prop :=
  ∃ uri, parse url = some uri ∧ (parse (uri.pathAndQuery.getD "/")).isSome = true

/-- A domain that can be put into a query as it is. -/
def PlainDomain (domain : String) : Prop :=
  '#' ∉ domain.toList ∧ '&' ∉ domain.toList ∧ Form.Verbatim domain

instance (domain : String) : Decidable (PlainDomain domain) := by
  unfold PlainDomain
  infer_instance

/-- The parts of the URL for a domain: the endpoint's, with the domain behind its query, up to the
first `#`. -/
theorem read_fallbackUrl {endpoint domain : String} {url : Url}
    (h : Url.read endpoint = some url) (hf : '#' ∉ endpoint.toList) :
    ∃ query, Url.read (fallbackUrl endpoint domain) = some { url with query := some query } ∧
      Form.parse query = Form.parse (url.query.getD "") ++
        Form.parse ("domain=" ++ Text.beforeChar '#' domain) := by
  -- What is put in front of the domain has no `#`, so the domain is cut.
  have hcut : ∀ front : String, '#' ∉ front.toList →
      Text.beforeChar '#' (front ++ domain) = front ++ Text.beforeChar '#' domain := by
    intro front hfront
    have hall : ∀ c ∈ front.toList, decide (c ≠ '#') = true := by
      intro c hc
      rw [decide_eq_true_eq]
      exact fun heq => hfront (heq ▸ hc)
    unfold Text.beforeChar
    rw [String.toList_append, List.takeWhile_append_of_pos hall, String.ofList_append,
      String.ofList_toList]
  have hamp : ∀ t : String, "&domain=" ++ t = "&" ++ ("domain=" ++ t) := by
    intro t
    rw [← String.append_assoc]
    rfl
  unfold fallbackUrl
  dsimp only
  by_cases hq : '?' ∈ endpoint.toList
  · -- The endpoint has a query, and the parameter is put behind it.
    obtain ⟨query, hquery, hread⟩ := Url.read_append h hq hf ("&domain=" ++ domain)
    have hsep : endpoint.contains '?' = true := by
      rw [String.contains_char_eq, decide_eq_true hq]
    refine ⟨query ++ "&" ++ ("domain=" ++ Text.beforeChar '#' domain), ?_, ?_⟩
    · rw [hcut "&domain=" (by decide), hamp, hamp, ← String.append_assoc, ← String.append_assoc]
        at hread
      rw [if_pos hsep, hread, String.append_assoc]
    · rw [hquery, Form.parse_append]
      rfl
  · -- The endpoint has none, and the parameter is all of it.
    obtain ⟨hquery, hread⟩ := Url.read_append_query h hq hf ("domain=" ++ domain)
    have hsep : ¬ endpoint.contains '?' = true := by
      rw [String.contains_char_eq, decide_eq_true_eq]
      exact hq
    refine ⟨"domain=" ++ Text.beforeChar '#' domain, ?_, ?_⟩
    · rw [hcut "domain=" (by decide), ← String.append_assoc] at hread
      rw [if_neg hsep, hread]
    · rw [hquery]
      rfl

/-- The parameter is the domain exactly if the domain can be put into the query as it is. -/
theorem parse_domain_eq_iff {domain : String} :
    Form.parse ("domain=" ++ Text.beforeChar '#' domain) = [("domain", domain)] ↔
      PlainDomain domain := by
  have hleft : Text.beforeChar '#' domain = domain ∨ ∃ c rest, Form.isAsciiChar c = true ∧
      domain = Text.beforeChar '#' domain ++ String.ofList (c :: rest) := by
    by_cases hf : '#' ∈ domain.toList
    · obtain ⟨rest, hrest⟩ := Text.eq_beforeChar_append hf
      exact .inr ⟨'#', rest, by decide, hrest⟩
    · exact .inl (Text.beforeChar_of_notMem hf)
  have hname : '=' ∉ "domain".toList := by decide
  have hparam := Form.parse_param_eq_iff hname (by decide) (by decide) hleft
  rw [Text.beforeChar_eq_self_iff] at hparam
  exact hparam

/-- The query of a target is what is behind its path. -/
theorem targetQuery_append {path : String} (h : '?' ∉ path.toList) (query : String) :
    targetQuery (path ++ "?" ++ query) = query := by
  have hlist : (path ++ "?" ++ query).toList = path.toList ++ '?' :: query.toList := by simp
  have hall : ∀ c ∈ path.toList, decide (c ≠ '?') = true := by
    intro c hc
    rw [decide_eq_true_eq]
    exact fun heq => h (heq ▸ hc)
  unfold targetQuery
  rw [hlist, List.dropWhile_append_of_pos hall, List.dropWhile_cons_of_neg (by simp), List.drop_one,
    List.tail_cons, String.ofList_toList]

/-- The request that is sent for a URL with a query: it goes to the URL's host, to its port or to
80, and has its query. It is sent exactly if the URL and its path are accepted. -/
theorem httpRequest_eq_some {parse : String → Option Uri} (laws : HttpUri parse) {s query : String}
    {url : Url} (hread : Url.read s = some url) (hquery : url.query = some query) :
    ((httpRequest parse s).isSome = true ↔ Accepts parse s) ∧
      ∀ sent, httpRequest parse s = some sent → Reaches sent.connectHost url.host ∧
        sent.port = url.port.getD 80 ∧ targetQuery sent.target = query := by
  unfold httpRequest parseUrl Accepts
  cases hparse : parse s with
  | none => simp
  | some uri =>
    obtain ⟨hhost, hport, htarget⟩ := laws.absolute hparse hread hquery
    obtain ⟨path, hpath, htq⟩ :
        ∃ path, uri.pathAndQuery = some path ∧ targetQuery path = query := by
      rcases htarget with htarget | ⟨-, htarget⟩
      · exact ⟨_, htarget, targetQuery_append (Url.notMem_path hread) query⟩
      · refine ⟨_, htarget, ?_⟩
        have hslash := targetQuery_append (show '?' ∉ "/".toList by decide) query
        exact hslash
    simp only [hhost, hport, hpath, Option.bind_eq_bind, Option.bind_some, Option.getD_some]
    cases htwice : parse path with
    | none => simp [hpath, htwice]
    | some uri' =>
      -- The target that has been cut from the URL is parsed once more.
      have hagain := laws.again hparse hpath htwice
      refine ⟨by simp [hpath, htwice], fun sent hsent => ?_⟩
      simp only [Option.bind_some, hagain, Option.getD_some, Option.some.injEq] at hsent
      subst hsent
      refine ⟨?_, rfl, htq⟩
      unfold Reaches
      dsimp only
      split_ifs with hlocal
      · exact .inr ⟨hlocal, rfl⟩
      · exact .inl rfl

/-- The port that the request goes to is the URL's, unless that is an `https` URL without one. -/
theorem getD_eq_effectivePort_iff {url : Url} :
    url.port.getD 80 = url.effectivePort ↔ (url.https = true → url.port ≠ none) := by
  unfold Url.effectivePort
  cases url.port with
  | none => cases url.https <;> decide
  | some port => simp

/-- The fallback is asked about the domain exactly if the URL is accepted, is not `https` without a
port, and the domain has no character that means something in a query. -/
theorem fallback_asked_iff {parse : String → Option Uri} (laws : HttpUri parse)
    {mgr : CaddyManager} {endpoint domain : String} {url : Url}
    (hslot : mgr.fallbackEndpoint = some endpoint) (hread : Url.read endpoint = some url)
    (hf : '#' ∉ endpoint.toList) :
    (∃ sent, mgr.fallbackRequest parse domain = some sent ∧ AsksAbout url domain sent) ↔
      Accepts parse (fallbackUrl endpoint domain) ∧ (url.https = true → url.port ≠ none) ∧
        PlainDomain domain := by
  obtain ⟨query, hurl, hparams⟩ := @read_fallbackUrl _ domain _ hread hf
  obtain ⟨haccepts, hsent⟩ := httpRequest_eq_some laws hurl rfl
  have hrequest :
      mgr.fallbackRequest parse domain = httpRequest parse (fallbackUrl endpoint domain) := by
    unfold CaddyManager.fallbackRequest
    rw [hslot, Option.bind_some]
  rw [hrequest, ← haccepts, ← getD_eq_effectivePort_iff, ← parse_domain_eq_iff]
  constructor
  · rintro ⟨sent, hsome, hasks⟩
    obtain ⟨-, hport, hquery⟩ := hsent sent hsome
    refine ⟨by rw [hsome]; rfl, hport.symm.trans hasks.port, ?_⟩
    have hboth := hasks.query
    rw [hquery, hparams] at hboth
    exact List.append_cancel_left hboth
  · rintro ⟨hsome, hport, hdomain⟩
    obtain ⟨sent, hsome⟩ := Option.isSome_iff_exists.mp hsome
    obtain ⟨hhost, hport', hquery⟩ := hsent sent hsome
    refine ⟨sent, hsome, hhost, hport'.trans hport, ?_⟩
    rw [hquery, hparams, hdomain]

/-- A reading of one URL with a path and a query, and of the path and the query of it. -/
def readsOnly (s : String) (url : Url) (t : String) : Option Uri :=
  let path := url.path ++ "?" ++ url.query.getD ""
  if t = s then some ⟨some url.host, url.port, some path⟩
  else if t = path then some ⟨none, none, some path⟩
  else none

/-- It is one that can be relied on. -/
theorem httpUri_readsOnly {s : String} {url : Url} (hread : Url.read s = some url)
    (hquery : url.query.isSome = true)
    (hpath : Url.read (url.path ++ "?" ++ url.query.getD "") = none) :
    HttpUri (readsOnly s url) := by
  obtain ⟨query, hquery⟩ := Option.isSome_iff_exists.mp hquery
  rw [hquery, Option.getD_some] at hpath
  unfold readsOnly
  rw [hquery, Option.getD_some]
  dsimp only
  constructor
  · intro t uri url' query' huri hread' hquery'
    split_ifs at huri with ht ht
    · subst ht
      obtain rfl : url = url' := Option.some.inj (hread.symm.trans hread')
      obtain rfl : query = query' := Option.some.inj (hquery.symm.trans hquery')
      obtain rfl := Option.some.inj huri
      exact ⟨rfl, rfl, .inl rfl⟩
    · rw [ht, hpath] at hread'
      cases hread'
  · intro t path uri uri' huri huripath huri'
    obtain rfl : path = url.path ++ "?" ++ query := by
      split_ifs at huri <;> obtain rfl := Option.some.inj huri <;>
        exact (Option.some.inj huripath).symm
    split_ifs at huri' <;> obtain rfl := Option.some.inj huri' <;> rfl

/-- The URL for a domain, when the endpoint has no query. -/
theorem fallbackUrl_of_notMem {endpoint : String} (h : '?' ∉ endpoint.toList) (domain : String) :
    fallbackUrl endpoint domain = endpoint ++ "?" ++ "domain=" ++ domain := by
  unfold fallbackUrl
  dsimp only
  rw [if_neg]
  rw [String.contains_char_eq, decide_eq_true_eq]
  exact h

/-- A manager whose fallback is `http://localhost:9123/check`. -/
def checkManager : CaddyManager := ⟨"", some "http://localhost:9123/check"⟩

/-- The URL of the fallback's endpoint. -/
def checkUrl : Url := ⟨false, "localhost", some 9123, "/check", none⟩

/-- A reading of the URL for one domain. -/
def readsCheck (domain : String) : String → Option Uri :=
  readsOnly ("http://localhost:9123/check" ++ "?" ++ "domain=" ++ domain)
    { checkUrl with query := some ("domain=" ++ domain) }

/-- The fallback is asked about `app.com`. -/
theorem fallback_asked_app :
    ∃ sent, checkManager.fallbackRequest (readsCheck "app.com") "app.com" = some sent ∧
      AsksAbout checkUrl "app.com" sent := by
  have haccepts :
      Accepts (readsCheck "app.com") (fallbackUrl "http://localhost:9123/check" "app.com") := by
    rw [fallbackUrl_of_notMem (by decide)]
    exact ⟨⟨some "localhost", some 9123, some "/check?domain=app.com"⟩, rfl, by decide⟩
  exact (fallback_asked_iff (httpUri_readsOnly (by decide) (by decide) (by decide)) rfl (by decide)
    (by decide)).mpr ⟨haccepts, by decide, by decide⟩

/-- The fallback is not asked about the domain `a&b.com`, but about `a`. -/
theorem fallback_asked_otherwise :
    ¬ ∀ (parse : String → Option Uri) (mgr : CaddyManager) (endpoint domain : String) (url : Url),
      HttpUri parse → mgr.fallbackEndpoint = some endpoint → Url.read endpoint = some url →
        '#' ∉ endpoint.toList →
          ∃ sent, mgr.fallbackRequest parse domain = some sent ∧ AsksAbout url domain sent := by
  intro h
  obtain ⟨sent, hsent, hasks⟩ := h (readsCheck "a&b.com") checkManager _ "a&b.com" checkUrl
    (httpUri_readsOnly (by decide) (by decide) (by decide)) rfl (by decide) (by decide)
  have hquery := hasks.query
  have hrequest : checkManager.fallbackRequest (readsCheck "a&b.com") "a&b.com" =
      some ⟨"127.0.0.1", 9123, "localhost:9123", "/check?domain=a&b.com"⟩ := by
    unfold CaddyManager.fallbackRequest checkManager
    rw [Option.bind_some, fallbackUrl_of_notMem (by decide)]
    rfl
  obtain rfl := Option.some.inj (hrequest.symm.trans hsent)
  revert hquery
  decide

end ZoTunnel
