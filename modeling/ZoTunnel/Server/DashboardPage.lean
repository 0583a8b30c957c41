import ZoTunnel.Lib.Run
import ZoTunnel.Server.DashboardScript

/-!
# The dashboard's page in any order of events

Logins, replies and intervals come to the page in any order, and the three replies of a refresh in
any order among those of others. `Page.Keeps` is the invariant: the page polls exactly while the
dashboard is displayed, and disables the login's button exactly while its request is under way.
`Moves` says what one event may do: a reply with the status 401 to a request for data displays the
login at once, the dashboard appears only by a reply that grants it, and what is shown changes only
when the three replies of one refresh are there.
-/

namespace ZoTunnel.DashboardPage

open Dom EventLoop Reconcile

/-! ## The clients table -/

/-- A row of the table has the empty name. No refresh finds it again. -/
def HasNamelessRow (tbody : Parent (Node Empty)) : Prop :=
  ∃ n ∈ bodyNodes tbody, n.root.bind (·.dataId) = some ""

/-- A list that is shown to its end is what the table shows, but for rows with the empty name that
were there. -/
theorem shows_of_showsAll {N : Numbers} {elementMembers : String → Bool} {p : Page}
    (h : BodySound N elementMembers p.table) (l : ClientList)
    (hall : p.showsAll N elementMembers l.clients = true) :
    let tbody := refresh N elementMembers p.table l.clients
    ShowsClients N tbody l.clients ∨ HasNamelessRow tbody := by
  intro tbody
  by_cases hfree : NamesFree p.table l.clients
  · exact .inl ((h.shows_iff l.distinct).mpr hfree)
  · obtain ⟨hnil, hrest⟩ := not_or.mp hfree
    obtain ⟨hrows, hkeyed⟩ := h.cleared
    unfold Page.showsAll at hall
    rw [decide_eq_false hnil, Bool.false_or] at hall
    have hplain : ∀ c ∈ l.clients, c.clientId ∉ objectMembers := by
      intro c hc hmember
      have hfalse := View.plain_of_isOk (clientView_lawful N) hkeyed l.distinct hall c hc
      have htrue : (inherited elementMembers).object c.clientId = true :=
        List.contains_iff_mem.mpr hmember
      exact Bool.false_ne_true (hfalse.symm.trans htrue)
    obtain ⟨hempty, hnameless⟩ := not_or.mp fun hor => hrest ⟨hplain, hor⟩
    push Not at hnameless
    obtain ⟨n, hn, hname⟩ := hnameless
    refine .inr ⟨n, ?_, hname⟩
    -- The row has no key, so it is neither found nor removed.
    rw [if_neg hempty] at hrows hkeyed
    have hkeyless : (clientView N).keyOf n = none := by
      obtain ⟨c, rfl⟩ := hrows n hn
      rw [dataId_build] at hname
      have hc : c.clientId = "" := Option.some.inj hname
      exact (rowId_build c).trans (if_pos hc)
    have hkept := View.reconciled_keyless (clientView_lawful N) hkeyed l.distinct
      (by rwa [items_eq_bodyNodes]) hkeyless
    rw [items_eq_bodyNodes] at hkept
    show n ∈ bodyNodes (refresh N elementMembers p.table l.clients)
    unfold refresh
    rw [if_neg hnil, if_neg hempty]
    exact hkept

/-! ## The invariant -/

/-- The login is displayed, and the page does not poll; or the dashboard is, and it does. -/
def ScreensPoll (screens : Screens) (refreshInterval : Option ℕ) : Prop :=
  (screens = ⟨true, false⟩ ∧ refreshInterval = none) ∨
    (screens = ⟨false, true⟩ ∧ refreshInterval.isSome = true)

/-- A job is the request of a login. -/
def Job.isLogin (job : Job) : Bool := job = .login

/-- The flag of the login's button when a job is settled. -/
def settledFlag (flag : Bool) (job : Job) : Bool := if job = .login then false else flag

namespace Page

/-- The invariant of the page, with whether a login is under way. -/
structure Keeps (N : Numbers) (elementMembers : String → Bool) (flag : Bool) (p : Page) : Prop where
  polls : p.loop.Polls .refresh p.refreshInterval
  login : p.loop.Occupied Job.isLogin flag
  screens : ScreensPoll p.screens p.refreshInterval
  table : BodySound N elementMembers p.table

variable {N : Numbers} {elementMembers : String → Bool} {flag : Bool} {p : Page}

/-- The page is loaded with the invariant. -/
theorem keeps_load : load.Keeps N elementMembers load.loginDisabled where
  polls := polls_new.of_jobs _
  login := rfl
  screens := .inl ⟨rfl, rfl⟩
  table := .inl rfl

/-- A job is settled. -/
theorem Keeps.settle (h : p.Keeps N elementMembers flag) {job : Job} (hmem : job ∈ p.loop.jobs) :
    ({ p with loop := p.loop.settle job } : Page).Keeps N elementMembers
      (settledFlag flag job) := by
  refine { h with polls := h.polls.of_jobs _, login := ?_ }
  unfold settledFlag
  split_ifs with hjob
  · exact (h.login.settle hmem (decide_eq_true hjob)).2
  · exact h.login.settle_of_ne (decide_eq_false hjob)

/-! ## Screens -/

/-- A refresh begins. -/
theorem Keeps.refresh (h : p.Keeps N elementMembers flag) :
    p.refresh.Keeps N elementMembers flag := by
  have hstatus : (p.loop.await (.fetch p.next .status)).Occupied Job.isLogin flag :=
    h.login.await_of_ne rfl
  have hclients : ((p.loop.await (.fetch p.next .status)).await
      (.fetch p.next .clients)).Occupied Job.isLogin flag := hstatus.await_of_ne rfl
  have hmetrics : p.refresh.loop.Occupied Job.isLogin flag := hclients.await_of_ne rfl
  exact { h with polls := h.polls.of_jobs _, login := hmetrics }

/-- The login is displayed. -/
theorem Keeps.showLogin (h : p.Keeps N elementMembers flag) :
    p.showLogin.Keeps N elementMembers flag := by
  unfold Page.showLogin
  dsimp only
  have hpolls := h.polls
  cases hinterval : p.refreshInterval with
  | none =>
    rw [hinterval] at hpolls
    exact { h with polls := hpolls, screens := .inl ⟨rfl, rfl⟩ }
  | some id =>
    rw [hinterval] at hpolls
    exact { h with polls := hpolls.clearInterval, screens := .inl ⟨rfl, rfl⟩ }

/-- The dashboard is displayed, and the interval that polls is a new one. -/
theorem Keeps.showDashboard (h : p.Keeps N elementMembers flag) :
    p.showDashboard.Keeps N elementMembers flag := by
  have hasked := h.refresh
  have hpolls : EventLoop.Polls .refresh p.refreshInterval p.refresh.loop := hasked.polls
  unfold Page.showDashboard
  dsimp only
  have hinterval : ({ p with screens := ⟨false, true⟩ } : Page).refresh.refreshInterval =
      p.refreshInterval := rfl
  rw [hinterval]
  cases hold : p.refreshInterval with
  | none =>
    rw [hold] at hpolls
    exact { hasked with polls := hpolls.setInterval, screens := .inr ⟨rfl, rfl⟩ }
  | some id =>
    rw [hold] at hpolls
    exact { hasked with
      polls := hpolls.clearInterval.setInterval, screens := .inr ⟨rfl, rfl⟩ }

/-! ## A refresh -/

/-- A `catch` keeps the invariant. -/
theorem Keeps.caught (h : p.Keeps N elementMembers flag) (message : String) :
    (p.caught message).Keeps N elementMembers flag := by
  unfold Page.caught
  split_ifs
  · exact h
  · exact { h with }

/-- So does a rejection. -/
theorem Keeps.reject (h : p.Keeps N elementMembers flag) (call : ℕ) (message : String) :
    (p.reject call message).Keeps N elementMembers flag := by
  unfold Page.reject
  dsimp only
  split_ifs
  · exact h
  · have hmarked : ({ p with
        refreshes := Function.update p.refreshes call
          { p.refreshes call with rejected := true } } : Page).Keeps N elementMembers flag :=
      { h with }
    exact hmarked.caught message

/-- When the replies of a refresh are there, the page shows them. -/
theorem Keeps.showSnapshot (h : p.Keeps N elementMembers flag) (s : Snapshot) :
    (p.showSnapshot N elementMembers s).Keeps N elementMembers flag :=
  { h with table := h.table.refresh s.clients.distinct }

/-- A reply to a request of a refresh keeps the invariant. -/
theorem Keeps.fetched {α : Type} (h : p.Keeps N elementMembers flag) (call : ℕ)
    (put : α → Refresh → Refresh) (reply : Fetched α) :
    (p.fetched N elementMembers call put reply).Keeps N elementMembers flag := by
  cases reply with
  | unauthorized => exact h.showLogin.reject call _
  | failed message => exact h.reject call message
  | ok data =>
    unfold Page.fetched
    dsimp only
    have hput : ({ p with
        refreshes := Function.update p.refreshes call (put data (p.refreshes call)) } : Page).Keeps
          N elementMembers flag := { h with }
    cases (put data (p.refreshes call)).snapshot with
    | none => exact hput
    | some s => exact hput.showSnapshot s

/-! ## Handlers -/

/-- The rest of a handler keeps the invariant, for the flag after its job has been settled. -/
theorem Keeps.resume (h : p.Keeps N elementMembers flag) (reply : Replied) :
    (p.resume N elementMembers reply).Keeps N elementMembers flag := by
  cases reply with
  | checkAuth reply =>
    unfold Page.resume Page.authChecked
    cases reply with
    | none => exact h.showLogin
    | some data =>
      have hwarned : ({ p with tlsWarning := !data.tlsEnabled } : Page).Keeps N elementMembers
          flag := { h with }
      dsimp only
      split_ifs
      · exact hwarned.showDashboard
      · exact hwarned.showLogin
  | login reply =>
    unfold Page.resume Page.loggedIn
    cases reply with
    | none => exact { h with }
    | some data =>
      dsimp only
      split_ifs
      · have hcleared : ({ p with token := "" } : Page).Keeps N elementMembers flag := { h with }
        exact { hcleared.showDashboard with }
      · exact { h with }
      · exact { h with }
  | logout => exact h.showLogin
  | status call reply | clients call reply | metrics call reply =>
    unfold Page.resume
    exact h.fetched call _ reply

/-- To display the login does not touch the button. -/
theorem showLogin_loginDisabled (p : Page) : p.showLogin.loginDisabled = p.loginDisabled := by
  unfold Page.showLogin
  dsimp only
  split <;> rfl

/-- Nor does a rejection. -/
theorem reject_loginDisabled (p : Page) (call : ℕ) (message : String) :
    (p.reject call message).loginDisabled = p.loginDisabled := by
  unfold Page.reject Page.caught
  dsimp only
  split_ifs <;> rfl

/-- Nor does a reply to a request of a refresh. -/
theorem fetched_loginDisabled {α : Type} (p : Page) (call : ℕ) (put : α → Refresh → Refresh)
    (reply : Fetched α) :
    (p.fetched N elementMembers call put reply).loginDisabled = p.loginDisabled := by
  cases reply with
  | unauthorized =>
    have hreject := reject_loginDisabled p.showLogin call "Unauthorized"
    exact hreject.trans (showLogin_loginDisabled p)
  | failed message => exact reject_loginDisabled p call message
  | ok data =>
    unfold Page.fetched
    dsimp only
    split <;> rfl

/-- The rest of a handler enables the button when its job was a login, and else does not touch
it. -/
theorem resume_loginDisabled (p : Page) (reply : Replied) :
    (p.resume N elementMembers reply).loginDisabled =
      settledFlag p.loginDisabled reply.job := by
  cases reply with
  | checkAuth reply =>
    unfold Page.resume Page.authChecked
    cases reply with
    | none => exact showLogin_loginDisabled p
    | some data =>
      dsimp only
      split_ifs
      · rfl
      · exact showLogin_loginDisabled _
  | login reply => rfl
  | logout => exact showLogin_loginDisabled p
  | status call reply | clients call reply | metrics call reply =>
    unfold Page.resume
    exact fetched_loginDisabled p call _ reply

/-- The invariant holds for the flag of the page. -/
theorem Keeps.of_loginDisabled (h : p.Keeps N elementMembers flag)
    (heq : p.loginDisabled = flag) : p.Keeps N elementMembers p.loginDisabled := by
  rw [heq]
  exact h

/-- Every event keeps the invariant. -/
theorem Keeps.step {p' : Page} (h : p.Keeps N elementMembers p.loginDisabled) {event : PageEvent}
    (hstep : dashboardPageStep N elementMembers p event = some p') :
    p'.Keeps N elementMembers p'.loginDisabled := by
  unfold dashboardPageStep at hstep
  cases event with
  | type token =>
    obtain rfl := Option.some.inj hstep
    exact { h with }
  | submitLogin =>
    dsimp only at hstep
    split_ifs at hstep with hdisabled
    obtain rfl := Option.some.inj hstep
    have hfree : p.loginDisabled = false := Bool.eq_false_iff.mpr hdisabled
    unfold Page.handleLogin
    dsimp only
    split_ifs
    · exact { h with }
    · rw [hfree] at h
      exact { h with polls := h.polls.of_jobs _, login := h.login.await rfl }
  | logout =>
    obtain rfl := Option.some.inj hstep
    exact { h with polls := h.polls.of_jobs _, login := h.login.await_of_ne rfl }
  | replied reply =>
    dsimp only at hstep
    split_ifs at hstep with hmem
    obtain rfl := Option.some.inj hstep
    exact ((h.settle hmem).resume reply).of_loginDisabled (resume_loginDisabled _ reply)
  | tick id =>
    obtain ⟨ticker, -, rfl⟩ := Option.map_eq_some_iff.mp hstep
    exact h.refresh

end Page

/-! ## What one event does -/

/-- A reply that displays the login: to a logout, or with the status 401. -/
def PageEvent.refuses : PageEvent → Bool
  | .replied .logout => true
  | .replied (.status _ .unauthorized) => true
  | .replied (.clients _ .unauthorized) => true
  | .replied (.metrics _ .unauthorized) => true
  | _ => false

/-- A reply that displays the dashboard. -/
def PageEvent.grants : PageEvent → Bool
  | .replied (.checkAuth (some data)) => !data.authRequired || data.authenticated
  | .replied (.login (some data)) => data.success
  | _ => false

/-- The refresh that a reply belongs to. -/
def Replied.call : Replied → Option ℕ
  | .status call _ | .clients call _ | .metrics call _ => some call
  | .checkAuth _ | .login _ | .logout => none

@[inherit_doc Replied.call]
def PageEvent.call : PageEvent → Option ℕ
  | .replied reply => reply.call
  | _ => none

/-- What one event may do to the page. -/
structure Moves (N : Numbers) (elementMembers : String → Bool) (p : Page) (event : PageEvent)
    (p' : Page) : Prop where
  refuses : event.refuses = true → p'.screens = ⟨true, false⟩
  grants : p'.screens.dashboard = true → p.screens.dashboard = true ∨ event.grants = true
  /-- Data is asked for only while the dashboard is displayed. -/
  asks : p'.next = p.next ∨ p'.screens.dashboard = true
  /-- What is shown changes only when the three replies of one refresh are there. -/
  shows : (p'.stats = p.stats ∧ p'.table = p.table ∧ (p'.badge = .online → p.badge = .online) ∧
      ∀ call, event.call = some call → (p'.refreshes call).snapshot = none) ∨
    ∃ call s, event.call = some call ∧ (p'.refreshes call).snapshot = some s ∧
      p'.stats = s.stats N ∧ p'.table = refresh N elementMembers p.table s.clients.clients ∧
        (p'.badge = .online → p.showsAll N elementMembers s.clients.clients = true)

/-- What the page relies on between the events. -/
structure Page.Consistent (p : Page) : Prop where
  screens : ScreensPoll p.screens p.refreshInterval
  /-- The interval that runs is the one whose id the page keeps. -/
  interval : ∀ id, p.loop.intervals id = some .refresh ↔ p.refreshInterval = some id
  /-- The button of the login is disabled exactly while its one request is under way. -/
  login : p.loop.jobs.countP Job.isLogin = p.loginDisabled.toNat

section

variable {N : Numbers} {elementMembers : String → Bool} {p p' : Page}

/-- What the login's screen changes. -/
theorem Page.showLogin_eq (p : Page) : ∃ loop refreshInterval,
    p.showLogin = { p with loop, refreshInterval, screens := ⟨true, false⟩ } := by
  unfold Page.showLogin
  dsimp only
  cases p.refreshInterval with
  | none => exact ⟨p.loop, none, rfl⟩
  | some id => exact ⟨p.loop.clearInterval id, none, rfl⟩

/-- What a rejection changes. -/
theorem Page.reject_eq (p : Page) (call : ℕ) (message : String) : ∃ refreshes badge,
    p.reject call message = { p with refreshes, badge } ∧ (badge = .online → p.badge = .online) ∧
      refreshes = Function.update p.refreshes call { p.refreshes call with rejected := true } := by
  unfold Page.reject Page.caught
  dsimp only
  split_ifs with hrejected
  · refine ⟨p.refreshes, p.badge, rfl, id, ?_⟩
    have hsame : ({ p.refreshes call with rejected := true } : Refresh) = p.refreshes call := by
      rw [← hrejected]
    rw [hsame, Function.update_eq_self]
  · exact ⟨_, p.badge, rfl, id, rfl⟩
  · exact ⟨_, .offline, rfl, nofun, rfl⟩

/-- What is shown does not change. -/
theorem shows_same {event : PageEvent} (hcall : event.call = none) :
    (p.stats = p.stats ∧ p.table = p.table ∧ (p.badge = .online → p.badge = .online) ∧
      ∀ call, event.call = some call → (p'.refreshes call).snapshot = none) := by
  refine ⟨rfl, rfl, id, fun call hsome => ?_⟩
  rw [hcall] at hsome
  cases hsome

/-- An event that displays the login changes nothing that is shown. -/
theorem moves_showLogin {event : PageEvent} (hcall : event.call = none) :
    Moves N elementMembers p event p.showLogin := by
  obtain ⟨loop, refreshInterval, heq⟩ := p.showLogin_eq
  rw [heq]
  exact ⟨fun _ => rfl, nofun, .inl rfl, .inl (shows_same hcall)⟩

/-- An event that displays the dashboard does so since its reply says so. -/
theorem moves_showDashboard {event : PageEvent} (hgrants : event.grants = true)
    (hrefuses : event.refuses = false) (hcall : event.call = none) :
    Moves N elementMembers p event p.showDashboard := by
  refine ⟨fun htrue => ?_, fun _ => .inr hgrants, .inr rfl, .inl (shows_same hcall)⟩
  rw [hrefuses] at htrue
  cases htrue

/-- The reply to a request of a refresh. -/
theorem moves_fetched {α : Type} {event : PageEvent} {call : ℕ} {put : α → Refresh → Refresh}
    {reply : Fetched α} (hcall : event.call = some call)
    (hrefuses : event.refuses = true → reply = .unauthorized) :
    Moves N elementMembers p event (p.fetched N elementMembers call put reply) := by
  -- A refresh that is rejected shows nothing.
  have hnone : ∀ q : Page, (∃ r : Refresh, q.refreshes call = { r with rejected := true }) →
      ∀ call', event.call = some call' → (q.refreshes call').snapshot = none := by
    rintro q ⟨r, hr⟩ call' hcall'
    obtain rfl := Option.some.inj (hcall.symm.trans hcall')
    rw [hr]
    exact if_pos rfl
  cases reply with
  | unauthorized =>
    obtain ⟨loop, refreshInterval, hlogin⟩ := p.showLogin_eq
    obtain ⟨refreshes, badge, heq, hbadge, rfl⟩ := p.showLogin.reject_eq call "Unauthorized"
    change Moves N elementMembers p event (p.showLogin.reject call "Unauthorized")
    rw [heq]
    rw [hlogin] at hbadge ⊢
    exact ⟨fun _ => rfl, nofun, .inl rfl,
      .inl ⟨rfl, rfl, hbadge, hnone _ ⟨_, Function.update_self ..⟩⟩⟩
  | failed message =>
    obtain ⟨refreshes, badge, heq, hbadge, rfl⟩ := p.reject_eq call message
    change Moves N elementMembers p event (p.reject call message)
    rw [heq]
    exact ⟨fun htrue => (nomatch hrefuses htrue), .inl, .inl rfl,
      .inl ⟨rfl, rfl, hbadge, hnone _ ⟨_, Function.update_self ..⟩⟩⟩
  | ok data =>
    unfold Page.fetched
    dsimp only
    have hput : Function.update p.refreshes call (put data (p.refreshes call)) call =
        put data (p.refreshes call) := Function.update_self ..
    cases hsnapshot : (put data (p.refreshes call)).snapshot with
    | none =>
      refine ⟨fun htrue => (nomatch hrefuses htrue), .inl, .inl rfl,
        .inl ⟨rfl, rfl, id, fun call' hcall' => ?_⟩⟩
      obtain rfl := Option.some.inj (hcall.symm.trans hcall')
      exact (congrArg Refresh.snapshot hput).trans hsnapshot
    | some s =>
      refine ⟨fun htrue => (nomatch hrefuses htrue), .inl, .inl rfl,
        .inr ⟨call, s, hcall, ?_, rfl, rfl, fun honline => ?_⟩⟩
      · exact (congrArg Refresh.snapshot hput).trans hsnapshot
      · by_contra hnot
        have hoffline : (if p.showsAll N elementMembers s.clients.clients then Badge.online
            else .offline) = .offline := if_neg hnot
        have honline : (if p.showsAll N elementMembers s.clients.clients then Badge.online
            else .offline) = .online := honline
        rw [hoffline] at honline
        cases honline

/-- Every event does what it may do. -/
theorem Page.Keeps.moves {flag : Bool} (h : p.Keeps N elementMembers flag) {event : PageEvent}
    (hstep : dashboardPageStep N elementMembers p event = some p') :
    Moves N elementMembers p event p' := by
  unfold dashboardPageStep at hstep
  cases event with
  | type token =>
    obtain rfl := Option.some.inj hstep
    exact ⟨nofun, .inl, .inl rfl, .inl (shows_same rfl)⟩
  | submitLogin =>
    dsimp only at hstep
    split_ifs at hstep
    obtain rfl := Option.some.inj hstep
    unfold Page.handleLogin
    dsimp only
    split_ifs
    · exact ⟨nofun, .inl, .inl rfl, .inl (shows_same rfl)⟩
    · exact ⟨nofun, .inl, .inl rfl, .inl (shows_same rfl)⟩
  | logout =>
    obtain rfl := Option.some.inj hstep
    exact ⟨nofun, .inl, .inl rfl, .inl (shows_same rfl)⟩
  | tick id =>
    obtain ⟨ticker, hticker, rfl⟩ := Option.map_eq_some_iff.mp hstep
    have hdashboard : p.screens.dashboard = true := by
      have hinterval := (h.polls.running id).mp hticker
      rcases h.screens with ⟨-, hnone⟩ | ⟨hscreens, -⟩
      · rw [hnone] at hinterval
        cases hinterval
      · rw [hscreens]
    exact ⟨nofun, .inl, .inr hdashboard, .inl (shows_same rfl)⟩
  | replied reply =>
    dsimp only at hstep
    split_ifs at hstep
    obtain rfl := Option.some.inj hstep
    -- A job that is settled changes nothing that is spoken of.
    suffices hmoves : ∀ q : Page, Moves N elementMembers q (.replied reply)
        (q.resume N elementMembers reply) from
      ⟨(hmoves _).refuses, (hmoves _).grants, (hmoves _).asks, (hmoves _).shows⟩
    intro q
    cases reply with
    | checkAuth reply =>
      unfold Page.resume Page.authChecked
      cases reply with
      | none => exact moves_showLogin rfl
      | some data =>
        dsimp only
        split_ifs with hgrants
        · exact { moves_showDashboard (show (PageEvent.replied (.checkAuth (some data))).grants =
            true from hgrants) rfl rfl with }
        · exact { moves_showLogin rfl with }
    | login reply =>
      unfold Page.resume Page.loggedIn
      cases reply with
      | none => exact ⟨nofun, .inl, .inl rfl, .inl (shows_same rfl)⟩
      | some data =>
        dsimp only
        split_ifs with hgrants
        · exact { moves_showDashboard (show (PageEvent.replied (.login (some data))).grants =
            true from hgrants) rfl rfl with }
        · exact ⟨nofun, .inl, .inl rfl, .inl (shows_same rfl)⟩
        · exact ⟨nofun, .inl, .inl rfl, .inl (shows_same rfl)⟩
    | logout => exact moves_showLogin rfl
    | status call reply | clients call reply | metrics call reply =>
      unfold Page.resume
      refine moves_fetched rfl fun htrue => ?_
      cases reply with
      | unauthorized => rfl
      | failed message | ok data => cases htrue

end

end ZoTunnel.DashboardPage
