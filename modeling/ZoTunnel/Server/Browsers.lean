import ZoTunnel.Server.DashboardRun
import ZoTunnel.Server.SessionCookie

/-!
# The dashboard and its browsers

Any number of browsers with their cookies in front of the dashboard: a request takes the cookies
that its browser has when it is sent, the dashboard serves it at some later time, and the browser
stores the cookie of the reply when it arrives. The browsers are a parameter (`CookieJar.Store`),
and have one clock with the dashboard. `browsers_apart` says that the cookies identify the browsers:
data is returned exactly to a browser that has logged in itself, less than the TTL ago, and has not
logged out since; and a browser that has taken a session's cookie has it as long as the session
lives.

Over plain HTTP a browser takes no cookie of a session that is for TLS, nor the end of one: a logout
then ends the session, and the browser keeps the cookie of it.

`issued` is the record of the browsers whose logins have created the sessions. The code has no such
record: that an id in a request is one of its browser's own is what the invariant says
(`Browsing.Kept`).
-/

namespace ZoTunnel

open CookieJar Transition

/-! ## The model -/

/-- What a browser asks for. -/
inductive Asked where
  | login (token : String)
  | logout
  | authCheck
  | data (handler : ProtectedHandler)
  deriving DecidableEq, Repr

/-- The path of the request. -/
def Asked.path : Asked → String
  | .login _ => "/api/login"
  | .logout => "/api/logout"
  | .authCheck => "/api/auth/check"
  | .data .status => "/api/status"
  | .data .clients => "/api/clients"
  | .data .metrics => "/api/metrics"

/-- What the request does to the dashboard. -/
def Asked.step (asked : Asked) (headers : Headers) (newId : String) : DashboardStep :=
  match asked with
  | .login token => .login headers token newId
  | .logout => .logout headers
  | .authCheck => .authCheck headers
  | .data handler => .protectedRequest handler headers

/-- The response. -/
def Asked.respond (asked : Asked) (run : DashboardRun) (headers : Headers) (newId : String) :
    DashboardResponse :=
  match asked with
  | .login token => (apiLogin run.dashboard headers token newId run.now).1
  | .logout => (apiLogout run.dashboard headers).1
  | .authCheck => (apiAuthCheck run.dashboard headers run.now).1
  | .data handler => (handler.run run.server run.dashboard headers run.now).1

/-- The request has created a session. -/
def Asked.creates (asked : Asked) (response : DashboardResponse) : Bool :=
  match asked with
  | .login _ => response.setCookie.isSome
  | _ => false

/-- A request, or the response to it. -/
inductive HttpMessage where
  | request (asked : Asked) (headers : Headers)
  | response (response : DashboardResponse)

/-- A request or a response under way. -/
structure Exchange where
  browser : ℕ
  ctx : Context
  message : HttpMessage

variable {Jar : Type}

/-- The dashboard and its browsers. -/
structure Browsing (Jar : Type) where
  run : DashboardRun
  jars : ℕ → Jar
  exchanges : ℕ → Option Exchange
  /-- The sessions that have been created, each with the browser whose login did it. -/
  issued : List (ℕ × String)

/-- A step of the browsers, the dashboard or the time. -/
inductive BrowsingStep where
  /-- The browser `b` sends a request, over TLS or not, from a page of the same site or not. -/
  | send (x b : ℕ) (secure sameSite : Bool) (host xForwardedProto : Option Header.Value)
    (asked : Asked)
  /-- The dashboard serves a request. `newId` is the session that it creates, if it does. -/
  | serve (x : ℕ) (newId : SessionId)
  /-- The browser gets the response. -/
  | deliver (x : ℕ)
  /-- The connection is lost. -/
  | lose (x : ℕ)
  /-- Another application on the host sets a cookie. -/
  | put (b : ℕ) (c : Cookie) (other : OfOther c)
  /-- The browser forgets a cookie. -/
  | remove (b : ℕ) (c : Cookie)
  /-- Time passes. -/
  | tick (nanos : ℕ)
  /-- A client session or a proxied request takes a step. -/
  | server (l : ServerStep)

/-- One step. -/
def browsingStep (B : Store Jar) (config : ServerConfig) (S : Serde) (s : Browsing Jar) :
    BrowsingStep → Option (Browsing Jar)
  | .send x b secure sameSite host xForwardedProto asked =>
    if (s.exchanges x).isSome then none
    else
      let ctx : Context := ⟨secure, sameSite, asked.path⟩
      let headers : Headers := ⟨host, B.header (s.jars b) ctx s.run.now, xForwardedProto⟩
      some { s with
        exchanges := Function.update s.exchanges x (some ⟨b, ctx, .request asked headers⟩) }
  | .serve x newId =>
    match s.exchanges x with
    | some ⟨b, ctx, .request asked headers⟩ =>
      (dashboardStep config S s.run (asked.step headers newId.text)).map fun run =>
        let response := asked.respond s.run headers newId.text
        { s with
          run
          exchanges := Function.update s.exchanges x (some ⟨b, ctx, .response response⟩)
          issued := if asked.creates response then (b, newId.text) :: s.issued else s.issued }
    | _ => none
  | .deliver x =>
    match s.exchanges x with
    | some ⟨b, ctx, .response response⟩ =>
      let jar := match response.setCookie with
        | some header => B.receive (s.jars b) ctx header s.run.now
        | none => s.jars b
      some { s with
        jars := Function.update s.jars b jar, exchanges := Function.update s.exchanges x none }
    | _ => none
  | .lose x => some { s with exchanges := Function.update s.exchanges x none }
  | .put b c _ => some { s with jars := Function.update s.jars b (B.put (s.jars b) c) }
  | .remove b c => some { s with jars := Function.update s.jars b (B.remove (s.jars b) c) }
  | .tick nanos =>
    (dashboardStep config S s.run (.tick nanos)).map fun run => { s with run }
  | .server l => (dashboardStep config S s.run (.server l)).map fun run => { s with run }

/-- The browsers of a dashboard that starts: they have no cookies. -/
def Browsing.new (B : Store Jar) (run : DashboardRun) : Browsing Jar :=
  ⟨run, fun _ => B.empty, fun _ => none, []⟩

/-! ## What the cookies say -/

namespace Browsing

/-- The cookie is one of a session, in the jar of the browser. -/
def HasCookie (B : Store Jar) (s : Browsing Jar) (b : ℕ) (c : Cookie) : Prop :=
  c ∈ B.cookies (s.jars b) ∧ c.name = cookieName

/-- The session is one that the browser has created by a login with the token less than the TTL ago,
and that has not been presented to a logout since. -/
def SignedIn (token : String) (ttlSecs : ℕ) (s : Browsing Jar) (b : ℕ) (id : String) : Prop :=
  (b, id) ∈ s.issued ∧ Live token ttlSecs s.run.history s.run.now id

/-- A cookie is one of the browser's own sessions, and is kept at least as long as that lives. -/
structure Owns (token : String) (ttlSecs : ℕ) (issued : List (ℕ × String))
    (history : List DashboardEvent) (b : ℕ) (c : Cookie) : Prop where
  name : c.name = cookieName
  path : c.path = "/"
  issued : (b, c.value) ∈ issued
  uuid : ∃ id : SessionId, c.value = id.text
  kept : ∃ e, c.expires = some e ∧ ∀ createdAt, Held token history c.value createdAt →
    createdAt + ttlSecs * 1000000000 ≤ e

/-- A response sets the cookie of a session of the browser, or clears it. -/
def Sets (token : String) (ttlSecs : ℕ) (issued : List (ℕ × String))
    (history : List DashboardEvent) (now : Instant) (b : ℕ) (text : String) : Prop :=
  text = buildClearCookie ∨ ∃ (id : SessionId) (tlsEnabled : Bool),
    text = buildSessionCookie id.text ttlSecs tlsEnabled ∧ (b, id.text) ∈ issued ∧
      ∀ createdAt, Held token history id.text createdAt → createdAt ≤ now

/-- The invariant of the browsers and the dashboard. -/
structure Kept (B : Store Jar) (token : String) (ttlSecs : ℕ) (s : Browsing Jar) : Prop where
  sessions : SessionsKept token ttlSecs s.run
  created : ∀ id, id ∈ s.run.history.filterMap DashboardEvent.created ↔ ∃ b, (b, id) ∈ s.issued
  unique : ∀ b b' id, (b, id) ∈ s.issued → (b', id) ∈ s.issued → b = b'
  jars : ∀ b, ∀ c ∈ B.cookies (s.jars b),
    Owns token ttlSecs s.issued s.run.history b c ∨ OfOther c
  /-- A browser has one session cookie at most. -/
  single : ∀ b c c', s.HasCookie B b c → s.HasCookie B b c' → c = c'
  requests : ∀ x b ctx asked headers, s.exchanges x = some ⟨b, ctx, .request asked headers⟩ →
    ∀ id, extractSessionId headers = some id → (b, id) ∈ s.issued
  responses : ∀ x b ctx response, s.exchanges x = some ⟨b, ctx, .response response⟩ →
    ∀ text, response.setCookie = some text →
      Sets token ttlSecs s.issued s.run.history s.run.now b text

end Browsing

/-! ## What a request does to the record -/

section

variable {config : ServerConfig} {S : Serde} {token : String} {ttlSecs : ℕ}

/-- A session that has been created before a step is held after it only if it was before. -/
theorem held_of_dashboardStep {run run' : DashboardRun} {l : DashboardStep}
    (h : dashboardStep config S run l = some run') {id : String} {createdAt : Instant}
    (hcreated : id ∈ run.history.filterMap DashboardEvent.created)
    (hheld : Held token run'.history id createdAt) : Held token run.history id createdAt := by
  cases l with
  | login headers presented newId =>
    unfold dashboardStep at h
    dsimp only at h
    split_ifs at h with hnew
    obtain rfl := Option.some.inj h
    rcases held_cons.mp hheld with heq | ⟨-, hold⟩
    · obtain ⟨-, hid, -⟩ := DashboardEvent.login.inj heq
      obtain ⟨-, -, rfl⟩ := Option.map_eq_some_iff.mp hid
      exact absurd hcreated hnew
    · exact hold
  | logout headers =>
    obtain rfl := Option.some.inj h
    rcases held_cons.mp hheld with heq | ⟨-, hold⟩
    · cases heq
    · exact hold
  | authCheck headers | protectedRequest handler headers | tick nanos =>
    obtain rfl := Option.some.inj h
    exact hheld
  | server l =>
    obtain ⟨server, -, rfl⟩ := Option.map_eq_some_iff.mp h
    exact hheld

/-- Time does not go back. -/
theorem now_le_dashboardStep {run run' : DashboardRun} {l : DashboardStep}
    (h : dashboardStep config S run l = some run') : run.now ≤ run'.now := by
  cases l with
  | login headers presented newId =>
    unfold dashboardStep at h
    dsimp only at h
    split_ifs at h
    obtain rfl := Option.some.inj h
    exact Nat.le_refl _
  | logout headers | authCheck headers | protectedRequest handler headers =>
    obtain rfl := Option.some.inj h
    exact Nat.le_refl _
  | tick nanos =>
    obtain rfl := Option.some.inj h
    exact Nat.le_add_right _ _
  | server l =>
    obtain ⟨server, -, rfl⟩ := Option.map_eq_some_iff.mp h
    exact Nat.le_refl _

/-- A protected handler sets no cookie. -/
theorem ProtectedHandler.run_setCookie (handler : ProtectedHandler) (server : ServerState)
    (state : DashboardState) (headers : Headers) (now : Instant) :
    (handler.run server state headers now).1.setCookie = none := by
  have hguarded : ∀ data, (guarded state headers now data).1.setCookie = none := by
    intro data
    unfold guarded
    split <;> rfl
  cases handler <;> exact hguarded _

/-- A response sets the cookie of the session that its request has created, clears the cookie, or
leaves it. -/
theorem respond_setCookie {asked : Asked} {run : DashboardRun} {headers : Headers}
    {newId text : String}
    (h : (asked.respond run headers newId).setCookie = some text) : text = buildClearCookie ∨
      asked.creates (asked.respond run headers newId) = true ∧ ∃ tlsEnabled,
        text = buildSessionCookie newId run.dashboard.sessions.ttlSecs tlsEnabled := by
  cases asked with
  | login presented =>
    refine .inr ⟨Option.isSome_iff_exists.mpr ⟨text, h⟩, ?_⟩
    have hcookie := (apiLogin_setCookie run.dashboard headers presented newId run.now).symm.trans h
    split_ifs at hcookie
    exact ⟨_, (Option.some.inj hcookie).symm⟩
  | logout => exact .inl (Option.some.inj h).symm
  | authCheck => cases h
  | data handler =>
    have hnone := handler.run_setCookie run.server run.dashboard headers run.now
    exact absurd (hnone.symm.trans h) nofun

/-- A session that has just been created is held since now. -/
theorem held_of_creates {asked : Asked} {run run' : DashboardRun} {headers : Headers}
    {newId : String} (h : dashboardStep config S run (asked.step headers newId) = some run')
    (hcreates : asked.creates (asked.respond run headers newId) = true) {createdAt : Instant}
    (hheld : Held token run'.history newId createdAt) : createdAt = run.now := by
  cases asked with
  | login presented =>
    unfold Asked.step dashboardStep at h
    dsimp only at h
    split_ifs at h with hnew
    obtain rfl := Option.some.inj h
    rcases held_cons.mp hheld with heq | ⟨-, hold⟩
    · exact (DashboardEvent.login.inj heq).2.2.symm
    · exact absurd hold.mem_created hnew
  | logout | authCheck | data handler => cases hcreates

/-- The sessions that have been created after a request. -/
theorem created_of_step {asked : Asked} {run run' : DashboardRun} {headers : Headers}
    {newId : String} (h : dashboardStep config S run (asked.step headers newId) = some run') :
    run'.history.filterMap DashboardEvent.created =
        (if asked.creates (asked.respond run headers newId) then
          newId :: run.history.filterMap DashboardEvent.created
        else run.history.filterMap DashboardEvent.created) ∧
      (asked.creates (asked.respond run headers newId) = true →
        newId ∉ run.history.filterMap DashboardEvent.created) := by
  cases asked with
  | login presented =>
    unfold Asked.step dashboardStep at h
    dsimp only at h
    split_ifs at h with hnew
    obtain rfl := Option.some.inj h
    refine ⟨?_, fun _ => hnew⟩
    unfold Asked.creates Asked.respond
    dsimp only
    cases (apiLogin run.dashboard headers presented newId run.now).1.setCookie with
    | none => rfl
    | some text => rfl
  | logout | authCheck | data handler =>
    obtain rfl := Option.some.inj h
    exact ⟨rfl, nofun⟩

/-! ## The invariant -/

namespace Browsing

variable {B : Store Jar} {s : Browsing Jar} {b : ℕ} {issued issued' : List (ℕ × String)}
  {history history' : List DashboardEvent} {now now' : Instant}

/-- A session cookie stays one when the record grows, and the session is not created again. -/
theorem Owns.mono {c : Cookie} (h : Owns token ttlSecs issued history b c)
    (hissued : ∀ b id, (b, id) ∈ issued → (b, id) ∈ issued')
    (hheld : ∀ b id createdAt, (b, id) ∈ issued → Held token history' id createdAt →
      Held token history id createdAt) : Owns token ttlSecs issued' history' b c := by
  obtain ⟨e, hexpires, hkept⟩ := h.kept
  exact { h with
    issued := hissued _ _ h.issued
    kept := ⟨e, hexpires, fun createdAt hc => hkept createdAt (hheld _ _ _ h.issued hc)⟩ }

/-- So does a response that sets one. -/
theorem Sets.mono {text : String} (h : Sets token ttlSecs issued history now b text)
    (hissued : ∀ b id, (b, id) ∈ issued → (b, id) ∈ issued')
    (hheld : ∀ b id createdAt, (b, id) ∈ issued → Held token history' id createdAt →
      Held token history id createdAt) (hnow : now ≤ now') :
    Sets token ttlSecs issued' history' now' b text := by
  rcases h with hclear | ⟨id, tlsEnabled, htext, hid, hle⟩
  · exact .inl hclear
  · refine .inr ⟨id, tlsEnabled, htext, hissued _ _ hid, fun createdAt hc => ?_⟩
    exact (hle createdAt (hheld _ _ _ hid hc)).trans hnow

/-- The cookies of a browser can be sent. -/
theorem Kept.proper (h : s.Kept B token ttlSecs) (b : ℕ) :
    ∀ c ∈ B.cookies (s.jars b), Proper c :=
  fun c hc => (h.jars b c hc).imp_left fun howns => ⟨howns.name, howns.uuid⟩

/-- A cookie of the session's name is one of the browser's own. -/
theorem Kept.owns (h : s.Kept B token ttlSecs) {c : Cookie} (hc : s.HasCookie B b c) :
    Owns token ttlSecs s.issued s.run.history b c :=
  (h.jars b c hc.1).resolve_right fun hother => hother.name_ne hc.2

/-- The id in a request is that of the session cookie that the browser has sent, and it is there
when no cookie with a longer name has been sent. -/
theorem Kept.extract (h : s.Kept B token ttlSecs) (hB : B.Lawful) (b : ℕ) (ctx : Context)
    (host xForwardedProto : Option Header.Value) :
    let found := extractSessionId ⟨host, B.header (s.jars b) ctx s.run.now, xForwardedProto⟩
    (∀ id, found = some id →
      ∃ c, s.HasCookie B b c ∧ c.isSent ctx s.run.now = true ∧ c.value = id) ∧
    ∀ c, s.HasCookie B b c → c.isSent ctx s.run.now = true →
      (∀ d ∈ B.cookies (s.jars b), d.isSent ctx s.run.now = true → isLookalike d = false) →
        found = some c.value := by
  intro found
  obtain ⟨sent, hperm, hheader⟩ := hB.header (s.jars b) ctx s.run.now
  have hmem : ∀ c, c ∈ sent ↔ c ∈ B.cookies (s.jars b) ∧ c.isSent ctx s.run.now = true :=
    fun c => hperm.mem_iff.trans List.mem_filter
  have hfound : found = sessionOf sent := by
    show extractSessionId ⟨host, B.header (s.jars b) ctx s.run.now, xForwardedProto⟩ = _
    rw [hheader]
    exact extractSessionId_cookieHeader (fun c hc => h.proper b c ((hmem c).mp hc).1) _ _
  rw [hfound]
  refine ⟨fun id hid => ?_, fun c hc hsent hlook => ?_⟩
  · obtain ⟨c, hc, hname, hvalue⟩ := sessionOf_eq_some hid
    obtain ⟨hjar, hsent⟩ := (hmem c).mp hc
    exact ⟨c, ⟨hjar, hname⟩, hsent, hvalue⟩
  · refine sessionOf_of_mem ((hmem c).mpr ⟨hc.1, hsent⟩) hc.2 (fun d hd hname => ?_) fun d hd => ?_
    · rw [h.single b d c ⟨((hmem d).mp hd).1, hname⟩ hc]
    · exact hlook d ((hmem d).mp hd).1 ((hmem d).mp hd).2

/-- The invariant is kept by a step of the dashboard that serves no request. -/
theorem Kept.of_run (h : s.Kept B token ttlSecs) {l : DashboardStep} {run : DashboardRun}
    (htoken : token ≠ "") (hstep : dashboardStep config S s.run l = some run)
    (hhistory : run.history = s.run.history) :
    Kept B token ttlSecs { s with run } := by
  have hnow := now_le_dashboardStep hstep
  have hheld : ∀ b id createdAt, (b, id) ∈ s.issued → Held token run.history id createdAt →
      Held token s.run.history id createdAt := fun _ _ _ _ hc => hhistory ▸ hc
  refine { h with
    sessions := h.sessions.step htoken hstep
    created := fun id => ?_
    jars := fun b c hc => (h.jars b c hc).imp_left fun howns => howns.mono (fun _ _ => id) hheld
    responses := fun x b ctx response hx text htext =>
      (h.responses x b ctx response hx text htext).mono (fun _ _ => id) hheld hnow }
  show id ∈ run.history.filterMap _ ↔ _
  rw [hhistory]
  exact h.created id

/-- An exchange that ends keeps the invariant. -/
theorem Kept.lose (h : s.Kept B token ttlSecs) (x : ℕ) :
    Kept B token ttlSecs { s with exchanges := Function.update s.exchanges x none } := by
  have hold : ∀ y e, Function.update s.exchanges x none y = some e → s.exchanges y = some e := by
    intro y e hy
    rw [Function.update_apply] at hy
    split_ifs at hy
    exact hy
  exact { h with
    requests := fun y b ctx asked headers hy => h.requests y b ctx asked headers (hold y _ hy)
    responses := fun y b ctx response hy => h.responses y b ctx response (hold y _ hy) }

/-- A jar whose cookies are one of the browser's own sessions and those of others keeps the
invariant. -/
theorem Kept.setJar (h : s.Kept B token ttlSecs) {jar : Jar}
    (hjar : ∀ c ∈ B.cookies jar, Owns token ttlSecs s.issued s.run.history b c ∨ OfOther c)
    (hsingle : ∀ c c', c ∈ B.cookies jar → c.name = cookieName → c' ∈ B.cookies jar →
      c'.name = cookieName → c = c') :
    Kept B token ttlSecs { s with jars := Function.update s.jars b jar } := by
  refine { h with jars := fun b' c hc => ?_, single := fun b' c c' hc hc' => ?_ }
  · dsimp only at hc
    rw [Function.update_apply] at hc
    split_ifs at hc with heq
    · subst heq
      exact hjar c hc
    · exact h.jars b' c hc
  · unfold HasCookie at hc hc'
    dsimp only at hc hc'
    rw [Function.update_apply] at hc hc'
    split_ifs at hc hc' with heq
    · exact hsingle c c' hc.1 hc.2 hc'.1 hc'.2
    · exact h.single b' c c' hc hc'

/-- A jar that has nothing new but cookies of others keeps the invariant. -/
theorem Kept.setJar_of_old (h : s.Kept B token ttlSecs) {jar : Jar}
    (hold : ∀ c ∈ B.cookies jar, c ∈ B.cookies (s.jars b) ∨ OfOther c) :
    Kept B token ttlSecs { s with jars := Function.update s.jars b jar } := by
  have hmine : ∀ c ∈ B.cookies jar, c.name = cookieName → s.HasCookie B b c :=
    fun c hc hname => ⟨(hold c hc).resolve_right fun hother => hother.name_ne hname, hname⟩
  refine h.setJar (fun c hc => ?_) fun c c' hc hname hc' hname' => ?_
  · rcases hold c hc with hc | hother
    · exact h.jars b c hc
    · exact .inr hother
  · exact h.single b c c' (hmine c hc hname) (hmine c' hc' hname')

/-- A request that is sent keeps the invariant. -/
theorem Kept.send (h : s.Kept B token ttlSecs) (hB : B.Lawful) (x b : ℕ) (ctx : Context)
    (host xForwardedProto : Option Header.Value) (asked : Asked) :
    Kept B token ttlSecs { s with exchanges := Function.update s.exchanges x (some ⟨b, ctx,
      .request asked ⟨host, B.header (s.jars b) ctx s.run.now, xForwardedProto⟩⟩) } := by
  refine { h with requests := fun y b' ctx' asked' headers hy id hid => ?_
                  responses := fun y b' ctx' response hy => ?_ }
  · change Function.update s.exchanges x _ y = _ at hy
    rw [Function.update_apply] at hy
    split_ifs at hy
    · obtain ⟨rfl, rfl, heq⟩ := Exchange.mk.inj (Option.some.inj hy)
      obtain ⟨rfl, rfl⟩ := HttpMessage.request.inj heq
      obtain ⟨c, hc, -, rfl⟩ := (h.extract hB b ctx host xForwardedProto).1 id hid
      exact (h.owns hc).issued
    · exact h.requests y b' ctx' asked' headers hy id hid
  · change Function.update s.exchanges x _ y = _ at hy
    rw [Function.update_apply] at hy
    split_ifs at hy
    · cases Option.some.inj hy
    · exact h.responses y b' ctx' response hy

/-- A request that is served keeps the invariant. -/
theorem Kept.serve (h : s.Kept B token ttlSecs) (htoken : token ≠ "") {x : ℕ} {ctx : Context}
    {asked : Asked} {headers : Headers} {newId : SessionId} {run : DashboardRun}
    (hstep : dashboardStep config S s.run (asked.step headers newId.text) = some run) :
    let response := asked.respond s.run headers newId.text
    Kept B token ttlSecs { s with
      run
      exchanges := Function.update s.exchanges x (some ⟨b, ctx, .response response⟩)
      issued := if asked.creates response then (b, newId.text) :: s.issued else s.issued } := by
  intro response
  have hnow := now_le_dashboardStep hstep
  obtain ⟨hcreated, hfresh⟩ := created_of_step hstep
  have hheld : ∀ b id createdAt, (b, id) ∈ s.issued → Held token run.history id createdAt →
      Held token s.run.history id createdAt :=
    fun b id createdAt hid => held_of_dashboardStep hstep ((h.created id).mpr ⟨b, hid⟩)
  have hissued : ∀ b' id, (b', id) ∈ s.issued → (b', id) ∈
      if asked.creates response then (b, newId.text) :: s.issued else s.issued := by
    intro b' id hid
    split_ifs
    · exact List.mem_cons_of_mem _ hid
    · exact hid
  refine ⟨h.sessions.step htoken hstep, fun id => ?_, fun b₁ b₂ id h₁ h₂ => ?_,
    fun b' c hc => (h.jars b' c hc).imp_left fun howns => howns.mono hissued hheld, h.single,
    fun y b' ctx' asked' headers' hy id hid => ?_, fun y b' ctx' response' hy text htext => ?_⟩
  · dsimp only
    rw [hcreated]
    have hold := h.created id
    split_ifs
    · simp only [List.mem_cons, Prod.mk.injEq]
      constructor
      · rintro (rfl | hid)
        · exact ⟨b, .inl ⟨rfl, rfl⟩⟩
        · obtain ⟨b', hb'⟩ := hold.mp hid
          exact ⟨b', .inr hb'⟩
      · rintro ⟨b', ⟨-, rfl⟩ | hb'⟩
        · exact .inl rfl
        · exact .inr (hold.mpr ⟨b', hb'⟩)
    · exact hold
  · -- A new session has an id that no browser has yet.
    dsimp only at h₁ h₂
    split_ifs at h₁ h₂ with hcreates
    · have hnew : ∀ b', (b', newId.text) ∉ s.issued := fun b' hb' =>
        hfresh hcreates ((h.created _).mpr ⟨b', hb'⟩)
      simp only [List.mem_cons, Prod.mk.injEq] at h₁ h₂
      rcases h₁ with ⟨rfl, rfl⟩ | h₁
      · rcases h₂ with ⟨rfl, -⟩ | h₂
        · rfl
        · exact absurd h₂ (hnew b₂)
      · rcases h₂ with ⟨rfl, rfl⟩ | h₂
        · exact absurd h₁ (hnew b₁)
        · exact h.unique b₁ b₂ id h₁ h₂
    · exact h.unique b₁ b₂ id h₁ h₂
  · change Function.update s.exchanges x _ y = _ at hy
    rw [Function.update_apply] at hy
    split_ifs at hy
    · cases Option.some.inj hy
    · exact hissued _ _ (h.requests y b' ctx' asked' headers' hy id hid)
  · change Function.update s.exchanges x _ y = _ at hy
    rw [Function.update_apply] at hy
    split_ifs at hy
    · obtain ⟨rfl, rfl, heq⟩ := Exchange.mk.inj (Option.some.inj hy)
      obtain rfl : response = response' := HttpMessage.response.inj heq
      rcases respond_setCookie htext with hclear | ⟨hcreates, tlsEnabled, hbuild⟩
      · exact .inl hclear
      · rw [h.sessions.ttlEq] at hbuild
        refine .inr ⟨newId, tlsEnabled, hbuild, ?_, fun createdAt hc => ?_⟩
        · dsimp only
          rw [if_pos hcreates]
          exact List.mem_cons_self
        · exact (held_of_creates hstep hcreates hc).trans_le hnow
    · exact (h.responses y b' ctx' response' hy text htext).mono hissued hheld hnow

/-- What a response sets is a cookie that every browser takes as it is. Unless it has ended, it is
of the browser's own session. -/
theorem Sets.setCookie {text : String} (h : Sets token ttlSecs issued history now b text)
    (hage : ttlSecs ≤ ageLimit) : ∃ c : SetCookie, text = c.text ∧ c.Valid ∧ c.name = cookieName ∧
      c.path? = some "/" ∧
        (c.maxAge ≠ some 0 → Owns token ttlSecs issued history b (c.stored "/" now)) := by
  rcases h with rfl | ⟨id, tlsEnabled, rfl, hid, hle⟩
  · exact ⟨_, buildClearCookie_eq, clearCookie_valid, rfl, rfl, fun hne => absurd rfl hne⟩
  · obtain ⟨hpath, hmaxAge, -, -⟩ := sessionSetCookie_attributes id.text ttlSecs tlsEnabled
    have hvalid := id.setCookie_valid tlsEnabled hage
    refine ⟨_, buildSessionCookie_eq .., hvalid, rfl, hpath, fun _ => ?_⟩
    have hexpires : ((sessionSetCookie id.text ttlSecs tlsEnabled).stored "/" now).expires =
        some (now + ttlSecs * 1000000000) := by
      unfold SetCookie.stored
      rw [hmaxAge]
      rfl
    refine ⟨rfl, rfl, hid, ⟨id, rfl⟩, _, hexpires, fun createdAt hc => ?_⟩
    exact Nat.add_le_add_right (hle createdAt hc) _

/-- A browser that gets a response keeps the invariant. -/
theorem Kept.receive (h : s.Kept B token ttlSecs) (hB : B.Lawful) (hage : ttlSecs ≤ ageLimit)
    (ctx : Context) {text : String}
    (hsets : Sets token ttlSecs s.issued s.run.history s.run.now b text) :
    Kept B token ttlSecs
      { s with jars := Function.update s.jars b (B.receive (s.jars b) ctx text s.run.now) } := by
  obtain ⟨c, rfl, hvalid, hname, hpath, howns⟩ := hsets.setCookie hage
  rcases hB.receive s.run.now hvalid hpath with hsame | hreplaces
  · exact h.setJar_of_old fun old hold => .inl ((hsame old).mp hold)
  · -- Of the session cookies, only the new one is left.
    have hnew : ∀ old ∈ B.cookies (B.receive (s.jars b) ctx c.text s.run.now),
        old.name = cookieName → old = c.stored "/" s.run.now := by
      intro old hold holdname
      rcases (hreplaces old).mp hold with ⟨hbefore, hother⟩ | ⟨-, hstored⟩
      · exact absurd ⟨holdname.trans hname.symm, (h.owns ⟨hbefore, holdname⟩).path⟩ hother
      · exact hstored
    refine h.setJar (fun old hold => ?_) fun old old' hold hold₁ hold' hold₁' => ?_
    · rcases (hreplaces old).mp hold with ⟨hbefore, -⟩ | ⟨hne, rfl⟩
      · exact h.jars b old hbefore
      · exact .inl (howns hne)
    · rw [hnew old hold hold₁, hnew old' hold' hold₁']

/-- Every step keeps the invariant. -/
theorem Kept.step {s' : Browsing Jar} {l : BrowsingStep} (h : s.Kept B token ttlSecs)
    (hB : B.Lawful) (hage : ttlSecs ≤ ageLimit) (htoken : token ≠ "")
    (hstep : browsingStep B config S s l = some s') : s'.Kept B token ttlSecs := by
  unfold browsingStep at hstep
  cases l with
  | send x b secure sameSite host xForwardedProto asked =>
    dsimp only at hstep
    split_ifs at hstep
    obtain rfl := Option.some.inj hstep
    exact h.send hB x b _ host xForwardedProto asked
  | serve x newId =>
    dsimp only at hstep
    split at hstep
    · obtain ⟨run, hrun, rfl⟩ := Option.map_eq_some_iff.mp hstep
      exact h.serve htoken hrun
    · cases hstep
  | deliver x =>
    dsimp only at hstep
    split at hstep
    · rename_i b ctx response hx
      obtain rfl := Option.some.inj hstep
      cases hcookie : response.setCookie with
      | none =>
        exact (h.setJar_of_old fun c hc => .inl hc).lose x
      | some text =>
        exact (h.receive hB hage ctx (h.responses x b ctx response hx text hcookie)).lose x
    · cases hstep
  | lose x =>
    obtain rfl := Option.some.inj hstep
    exact h.lose x
  | put b c other =>
    obtain rfl := Option.some.inj hstep
    refine h.setJar_of_old fun old hold => ?_
    rcases hB.put hold with hmem | rfl
    · exact .inl hmem
    · exact .inr other
  | remove b c =>
    obtain rfl := Option.some.inj hstep
    exact h.setJar_of_old fun old hold => .inl (hB.remove hold)
  | tick nanos =>
    obtain ⟨run, hrun, rfl⟩ := Option.map_eq_some_iff.mp hstep
    refine h.of_run htoken hrun ?_
    obtain rfl := Option.some.inj hrun
    rfl
  | server l =>
    obtain ⟨run, hrun, rfl⟩ := Option.map_eq_some_iff.mp hstep
    refine h.of_run htoken hrun ?_
    obtain ⟨server, -, rfl⟩ := Option.map_eq_some_iff.mp hrun
    rfl

end Browsing

/-! ## What a step does -/

/-- A reply over plain HTTP neither brings a session cookie that is for TLS nor replaces one. -/
def Browsing.Refuses (B : Store Jar) (s : Browsing Jar) (b : ℕ) (ctx : Context) (secure : Bool) :
    Prop :=
  ctx.secure = false ∧ (secure = true ∨ ∃ c, s.HasCookie B b c ∧ c.secure = true)

/-- The browser has the same session cookie as before. -/
def Browsing.SameCookie (B : Store Jar) (s s' : Browsing Jar) (b : ℕ) : Prop :=
  ∀ c, s'.HasCookie B b c ↔ s.HasCookie B b c

/-- A request carries the id of a session that its browser is signed in with. -/
def Browsing.Carries (token : String) (ttlSecs : ℕ) (s : Browsing Jar) (b : ℕ)
    (headers : Headers) : Prop :=
  ∃ id, extractSessionId headers = some id ∧ s.SignedIn token ttlSecs b id

/-- What the dashboard answers, and which sessions there are then. -/
def Browsing.Answers (token : String) (ttlSecs : ℕ) (s s' : Browsing Jar) (newId : SessionId)
    (b : ℕ) (headers : Headers) (response : DashboardResponse) : Asked → Prop
  -- A login with the token creates a session of the browser, unless it is signed in.
  | .login presented =>
    (presented = token ∧ ¬ s.Carries token ttlSecs b headers →
      s'.issued = (b, newId.text) :: s.issued ∧
        Held token s'.run.history newId.text s.run.now ∧
        response.setCookie = some (buildSessionCookie newId.text ttlSecs
          (isTlsEnabled s.run.dashboard headers))) ∧
    (¬ (presented = token ∧ ¬ s.Carries token ttlSecs b headers) →
      s'.issued = s.issued ∧ response.setCookie = none)
  -- A logout ends the session that it carries, and clears the cookie.
  | .logout => s'.issued = s.issued ∧ response.setCookie = some buildClearCookie ∧
      ∀ b' id, s'.SignedIn token ttlSecs b' id ↔
        s.SignedIn token ttlSecs b' id ∧ extractSessionId headers ≠ some id
  | .authCheck => s'.issued = s.issued ∧ response.setCookie = none
  -- Data is returned exactly when the session is the browser's own, and lives.
  | .data handler => s'.issued = s.issued ∧ response.setCookie = none ∧
      (response = ⟨200, none, handler.data s.run.server s.run.dashboard s.run.now⟩ ↔
        s.Carries token ttlSecs b headers)

/-- What one step does to the cookies, the sessions and the data. -/
def BrowsingMoves (B : Store Jar) (token : String) (ttlSecs : ℕ) (s : Browsing Jar)
    (l : BrowsingStep) (s' : Browsing Jar) : Prop :=
  match l with
  -- The dashboard will read the id of the session cookie that the browser sends, unless it sends
  -- another application's cookie with a longer name, too.
  | .send x b secure sameSite _ _ asked =>
    let ctx : Context := ⟨secure, sameSite, asked.path⟩
    ∃ headers, s'.exchanges x = some ⟨b, ctx, .request asked headers⟩ ∧
      (∀ id, extractSessionId headers = some id →
        ∃ c, s.HasCookie B b c ∧ c.isSent ctx s.run.now = true ∧ c.value = id) ∧
      ∀ c, s.HasCookie B b c → c.isSent ctx s.run.now = true →
        (∀ d ∈ B.cookies (s.jars b), d.isSent ctx s.run.now = true → isLookalike d = false) →
          extractSessionId headers = some c.value
  -- That id decides what the dashboard answers.
  | .serve x newId => ∀ b ctx asked headers,
    s.exchanges x = some ⟨b, ctx, .request asked headers⟩ →
      ∃ response, s'.exchanges x = some ⟨b, ctx, .response response⟩ ∧
        s.Answers token ttlSecs s' newId b headers response asked
  -- The cookie of a login replaces the one before, and that of a logout removes it, unless the
  -- browser refuses it.
  | .deliver x => ∀ b ctx response, s.exchanges x = some ⟨b, ctx, .response response⟩ →
    (response.setCookie = none → s.SameCookie B s' b) ∧
    (ctx.sameSite = true →
      (∀ (id : SessionId) tlsEnabled,
        response.setCookie = some (buildSessionCookie id.text ttlSecs tlsEnabled) →
          (s.Refuses B b ctx tlsEnabled → s.SameCookie B s' b) ∧
          (¬ s.Refuses B b ctx tlsEnabled → ∀ c, s'.HasCookie B b c ↔ ttlSecs ≠ 0 ∧
            c = ⟨cookieName, id.text, "/", some (s.run.now + ttlSecs * 1000000000), tlsEnabled,
              true⟩)) ∧
      (response.setCookie = some buildClearCookie →
        (s.Refuses B b ctx false → s.SameCookie B s' b) ∧
        (¬ s.Refuses B b ctx false → ∀ c, ¬ s'.HasCookie B b c)))
  | _ => s'.issued = s.issued

/-- What holds of the cookies and the sessions between the steps. -/
structure Browsing.Apart (B : Store Jar) (token : String) (ttlSecs : ℕ) (s : Browsing Jar) :
    Prop where
  /-- The session cookie of a browser is of a session that it has created, and does not expire while
  that lives. -/
  own : ∀ b c, s.HasCookie B b c → (b, c.value) ∈ s.issued ∧
    (Live token ttlSecs s.run.history s.run.now c.value → ∃ e, c.expires = some e ∧ s.run.now < e)
  single : ∀ b c c', s.HasCookie B b c → s.HasCookie B b c' → c = c'
  /-- No two browsers are signed in with one session. -/
  apart : ∀ b b' id, s.SignedIn token ttlSecs b id → s.SignedIn token ttlSecs b' id → b = b'

namespace Browsing

variable {B : Store Jar} {s s' : Browsing Jar} {b : ℕ}

/-- The invariant keeps the browsers apart. -/
theorem Kept.apart (h : s.Kept B token ttlSecs) : s.Apart B token ttlSecs := by
  refine ⟨fun b c hc => ?_, h.single, fun b b' id hb hb' => h.unique b b' id hb.1 hb'.1⟩
  have howns := h.owns hc
  refine ⟨howns.issued, ?_⟩
  rintro ⟨createdAt, hheld, hlt⟩
  obtain ⟨e, hexpires, hkept⟩ := howns.kept
  have hlater : ∀ now t d : ℕ, now - t < d → t + d ≤ e → now < e := by omega
  exact ⟨e, hexpires, hlater _ _ _ hlt (hkept createdAt hheld)⟩

/-- A browser refuses the dashboard's cookie as every browser does. -/
theorem Kept.refuses_iff (h : s.Kept B token ttlSecs) {ctx : Context} {c : SetCookie}
    (hname : c.name = cookieName) :
    CookieJar.Refuses (B.cookies (s.jars b)) ctx c "/" ↔ s.Refuses B b ctx c.secure := by
  refine and_congr_right fun _ => or_congr_right ?_
  constructor
  · rintro ⟨old, hold, hsecure, holdname, -⟩
    exact ⟨old, ⟨hold, holdname.trans hname⟩, hsecure⟩
  · rintro ⟨old, hold, hsecure⟩
    refine ⟨old, hold.1, hsecure, hold.2.trans hname.symm, ?_⟩
    rw [(h.owns hold).path]
    decide

/-- The jar after a cookie of the dashboard has come in a response of its own site. -/
theorem Kept.deliver (h : s.Kept B token ttlSecs) (hB : B.Lawful) {ctx : Context} {c : SetCookie}
    (hvalid : c.Valid) (hname : c.name = cookieName) (hpath : c.path? = some "/")
    (hsite : ctx.sameSite = true)
    (hjar : s'.jars b = B.receive (s.jars b) ctx c.text s.run.now) :
    (s.Refuses B b ctx c.secure → s.SameCookie B s' b) ∧
      (¬ s.Refuses B b ctx c.secure → ∀ old, s'.HasCookie B b old ↔
        c.maxAge ≠ some 0 ∧ old = c.stored "/" s.run.now) := by
  rw [← h.refuses_iff hname]
  refine ⟨fun hrefuses old => ?_, fun haccepts old => ?_⟩
  · unfold HasCookie
    rw [hjar, hB.refused s.run.now hvalid hpath hrefuses old]
  · have hpaths : ∀ old ∈ B.cookies (s.jars b), old.name = c.name → old.path = "/" :=
      fun old hold holdname => (h.owns ⟨hold, holdname.trans hname⟩).path
    unfold HasCookie
    rw [hjar, ← hname]
    exact hB.received s.run.now hvalid hpath hsite haccepts hpaths old

/-- A session that the request carries is live exactly if the browser is signed in with it. -/
theorem Kept.carries_iff (h : s.Kept B token ttlSecs) {x : ℕ} {ctx : Context} {asked : Asked}
    {headers : Headers} (hx : s.exchanges x = some ⟨b, ctx, .request asked headers⟩) :
    (isAuthenticated s.run.dashboard headers s.run.now).1 = true ↔
      s.Carries token ttlSecs b headers := by
  refine (h.sessions.isAuthenticated_iff headers).trans ?_
  -- The id in a request is one of its browser's own.
  refine exists_congr fun id => and_congr_right fun hid => ?_
  exact (and_iff_right (h.requests x b ctx _ headers hx id hid)).symm

/-- The dashboard answers as it should. -/
theorem Kept.answers (h : s.Kept B token ttlSecs) (htoken : token ≠ "") {x : ℕ} {ctx : Context}
    {asked : Asked} {headers : Headers} {newId : SessionId} {run : DashboardRun}
    (hx : s.exchanges x = some ⟨b, ctx, .request asked headers⟩)
    (hstep : dashboardStep config S s.run (asked.step headers newId.text) = some run)
    (hrun : s'.run = run) (hissued : s'.issued =
      if asked.creates (asked.respond s.run headers newId.text) then (b, newId.text) :: s.issued
      else s.issued) :
    s.Answers token ttlSecs s' newId b headers (asked.respond s.run headers newId.text) asked := by
  have hcarries := h.carries_iff hx
  cases asked with
  | login presented =>
    have hcookie := apiLogin_setCookie s.run.dashboard headers presented newId.text s.run.now
    have hgranted : (isAuthenticated s.run.dashboard headers s.run.now).1 = false ∧
        validateDashboardToken s.run.dashboard.dashboardToken presented = true ↔
          presented = token ∧ ¬ s.Carries token ttlSecs b headers := by
      rw [h.sessions.validate_iff htoken, ← Bool.not_eq_true, hcarries]
      exact and_comm
    unfold Asked.step dashboardStep at hstep
    dsimp only at hstep
    split_ifs at hstep with hnew
    obtain rfl := Option.some.inj hstep
    unfold Asked.creates Asked.respond at hissued
    dsimp only at hissued
    refine ⟨fun hgrant => ?_, fun hrefused => ?_⟩
    · rw [if_pos (hgranted.mpr hgrant), h.sessions.ttlEq] at hcookie
      rw [hcookie] at hissued
      refine ⟨hissued, ?_, hcookie⟩
      rw [hrun, hcookie, hgrant.1]
      exact held_cons.mpr (.inl rfl)
    · rw [if_neg fun hboth => hrefused (hgranted.mp hboth)] at hcookie
      rw [hcookie] at hissued
      exact ⟨hissued, hcookie⟩
  | logout =>
    obtain rfl := Option.some.inj hstep
    refine ⟨hissued, rfl, fun b' id => ?_⟩
    have hlive : Live token ttlSecs s'.run.history s'.run.now id ↔
        Live token ttlSecs s.run.history s.run.now id ∧ extractSessionId headers ≠ some id := by
      rw [hrun]
      constructor
      · rintro ⟨createdAt, hheld, hlt⟩
        rcases held_cons.mp hheld with heq | ⟨hne, hold⟩
        · cases heq
        · exact ⟨⟨createdAt, hold, hlt⟩, fun heq => hne (congrArg DashboardEvent.logout heq)⟩
      · rintro ⟨⟨createdAt, hheld, hlt⟩, hne⟩
        exact ⟨createdAt, held_cons.mpr (.inr ⟨fun heq => hne (DashboardEvent.logout.inj heq),
          hheld⟩), hlt⟩
    unfold SignedIn
    rw [show s'.issued = s.issued from hissued, hlive, and_assoc]
  | authCheck => exact ⟨hissued, rfl⟩
  | data handler =>
    have hnone := handler.run_setCookie s.run.server s.run.dashboard headers s.run.now
    refine ⟨hissued, hnone, ?_⟩
    exact ((h.sessions.dataNeedsLive handler headers).trans
      (h.sessions.isAuthenticated_iff headers).symm).trans hcarries

/-- Every step does what it may do. -/
theorem Kept.moves {l : BrowsingStep} (h : s.Kept B token ttlSecs) (hB : B.Lawful)
    (hage : ttlSecs ≤ ageLimit) (htoken : token ≠ "")
    (hstep : browsingStep B config S s l = some s') : BrowsingMoves B token ttlSecs s l s' := by
  unfold browsingStep at hstep
  cases l with
  | send x b secure sameSite host xForwardedProto asked =>
    dsimp only at hstep
    split_ifs at hstep
    obtain rfl := Option.some.inj hstep
    exact ⟨_, Function.update_self .., h.extract hB b _ host xForwardedProto⟩
  | serve x newId =>
    intro b ctx asked headers hx
    dsimp only at hstep
    rw [hx] at hstep
    obtain ⟨run, hrun, rfl⟩ := Option.map_eq_some_iff.mp hstep
    exact ⟨_, Function.update_self .., h.answers htoken hx hrun rfl rfl⟩
  | deliver x =>
    intro b ctx response hx
    dsimp only at hstep
    rw [hx] at hstep
    dsimp only at hstep
    refine ⟨fun hnone c => ?_, fun hsite => ⟨fun id tlsEnabled hcookie => ?_, fun hcookie => ?_⟩⟩
    · rw [hnone] at hstep
      obtain rfl := Option.some.inj hstep
      unfold HasCookie
      dsimp only
      rw [Function.update_self]
    · obtain ⟨hpath, hmaxAge, hsecure, hstrict⟩ :=
        sessionSetCookie_attributes id.text ttlSecs tlsEnabled
      have hjar : s'.jars b = B.receive (s.jars b) ctx
          (sessionSetCookie id.text ttlSecs tlsEnabled).text s.run.now := by
        rw [hcookie, buildSessionCookie_eq] at hstep
        rw [← Option.some.inj hstep]
        exact Function.update_self ..
      have hstored : (sessionSetCookie id.text ttlSecs tlsEnabled).stored "/" s.run.now =
          ⟨cookieName, id.text, "/", some (s.run.now + ttlSecs * 1000000000), tlsEnabled,
            true⟩ := by
        unfold SetCookie.stored
        rw [hmaxAge, hsecure, hstrict]
        rfl
      have hdelivered := h.deliver hB (id.setCookie_valid tlsEnabled hage) rfl hpath hsite hjar
      rw [hsecure, hmaxAge, hstored, ne_eq, Option.some.injEq] at hdelivered
      exact hdelivered
    · have hjar : s'.jars b =
          B.receive (s.jars b) ctx (sessionSetCookie "" 0 false).text s.run.now := by
        rw [hcookie, buildClearCookie_eq] at hstep
        rw [← Option.some.inj hstep]
        exact Function.update_self ..
      obtain ⟨hrefused, haccepted⟩ := h.deliver hB clearCookie_valid rfl rfl hsite hjar
      exact ⟨hrefused, fun haccepts c hc => ((haccepted haccepts c).mp hc).1 rfl⟩
  | lose x | put b c other | remove b c =>
    obtain rfl := Option.some.inj hstep
    rfl
  | tick nanos | server l =>
    obtain ⟨run, -, rfl⟩ := Option.map_eq_some_iff.mp hstep
    rfl

end Browsing

end

end ZoTunnel
