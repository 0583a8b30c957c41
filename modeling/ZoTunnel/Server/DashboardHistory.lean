import ZoTunnel.Server.DashboardPage

/-!
# What the dashboard's page shows

The page keeps the replies of each refresh by itself. `History` says that these are the replies that
have come in the run so far: each request of a refresh is answered once, and what has come of a
refresh is what its replies have brought. So `snapshot_shown` can speak of the run's events only:
while the badge says `online`, the numbers and the table are those of the refresh whose third reply
has come last.
-/

namespace ZoTunnel.DashboardPage

open EventLoop Reconcile

/-- A reply that has brought data. -/
def Replied.isOk : Replied → Bool
  | .status _ (.ok _) | .clients _ (.ok _) | .metrics _ (.ok _) => true
  | _ => false

/-- The data of a reply is among that of a refresh. -/
def Refresh.Has (r : Refresh) : Replied → Prop
  | .status _ (.ok status) => r.status = some status
  | .clients _ (.ok clients) => r.clients = some clients
  | .metrics _ (.ok metrics) => r.metrics = some metrics
  | _ => False

/-- A refresh when one more reply has come. -/
def Refresh.record (r : Refresh) : Replied → Refresh
  | .status _ (.ok status) => { r with status := some status }
  | .clients _ (.ok clients) => { r with clients := some clients }
  | .metrics _ (.ok metrics) => { r with metrics := some metrics }
  | _ => { r with rejected := true }

/-- The event is the reply to this request of a refresh. -/
def PageEvent.answers (call : ℕ) (part : Part) : PageEvent → Bool
  | .replied reply => reply.job = .fetch call part
  | _ => false

/-- What the page keeps of the events so far. -/
structure History (events : List PageEvent) (p : Page) : Prop where
  /-- A request that was sent is waited for or has been answered, once. -/
  once : ∀ call part, p.loop.jobs.count (.fetch call part) +
    events.countP (PageEvent.answers call part) ≤ if call < p.next then 1 else 0
  has : ∀ call reply, reply.call = some call →
    ((p.refreshes call).Has reply ↔ reply.isOk = true ∧ .replied reply ∈ events)
  rejected : ∀ call, (p.refreshes call).rejected = true →
    ∃ reply, reply.call = some call ∧ reply.isOk = false ∧ .replied reply ∈ events

/-- The three requests of a refresh have been answered with this data. -/
def Delivered (events : List PageEvent) (call : ℕ) (s : Snapshot) : Prop :=
  .replied (.status call (.ok s.status)) ∈ events ∧
    .replied (.clients call (.ok s.clients)) ∈ events ∧
      .replied (.metrics call (.ok s.metrics)) ∈ events

/-- The numbers and the table are those of the refresh whose third reply has come last, but for rows
of clients with the empty name. -/
def ShowsLatest (N : Numbers) (events : List PageEvent) (p : Page) : Prop :=
  ∃ before event after call s, events = before ++ event :: after ∧
    ¬ Delivered before call s ∧ Delivered (before ++ [event]) call s ∧
      (∀ call' s', Delivered events call' s' → Delivered (before ++ [event]) call' s') ∧
        p.stats = s.stats N ∧ (ShowsClients N p.table s.clients.clients ∨ HasNamelessRow p.table)

variable {N : Numbers} {elementMembers : String → Bool} {events : List PageEvent} {p p' : Page}

/-! ## Replies -/

/-- The job of a request of a refresh belongs to it. -/
theorem Replied.exists_part {reply : Replied} {call : ℕ} (h : reply.call = some call) :
    ∃ part, reply.job = .fetch call part := by
  cases reply with
  | checkAuth _ | login _ | logout => cases h
  | status i _ =>
    obtain rfl := Option.some.inj h
    exact ⟨.status, rfl⟩
  | clients i _ =>
    obtain rfl := Option.some.inj h
    exact ⟨.clients, rfl⟩
  | metrics i _ =>
    obtain rfl := Option.some.inj h
    exact ⟨.metrics, rfl⟩

/-- A reply without data is not among the replies of a refresh. -/
theorem Refresh.not_has {r : Refresh} {reply : Replied} (hno : reply.isOk = false) :
    ¬ r.Has reply := by
  intro hhas
  cases reply with
  | checkAuth _ | login _ | logout => exact hhas
  | status i fetched | clients i fetched | metrics i fetched =>
    cases fetched with
    | ok data => cases hno
    | unauthorized | failed message => exact hhas

/-- A reply without data leaves the replies of its refresh. -/
theorem Refresh.has_record_of_not_ok {r : Refresh} {reply reply' : Replied}
    (hno : reply.isOk = false) : (r.record reply).Has reply' ↔ r.Has reply' := by
  have hrecord : r.record reply = { r with rejected := true } := by
    cases reply with
    | checkAuth _ | login _ | logout => rfl
    | status i fetched | clients i fetched | metrics i fetched =>
      cases fetched with
      | ok data => cases hno
      | unauthorized | failed message => rfl
  rw [hrecord]
  cases reply' with
  | checkAuth _ | login _ | logout => exact Iff.rfl
  | status i fetched | clients i fetched | metrics i fetched => cases fetched <;> exact Iff.rfl

/-- A reply with data is recorded in the place of its request. -/
theorem Refresh.has_record_of_ok {r : Refresh} {call : ℕ} {reply reply' : Replied}
    (hcall : reply.call = some call) (hcall' : reply'.call = some call) (hok : reply.isOk = true)
    (hok' : reply'.isOk = true) : (r.record reply).Has reply' ↔
      if reply'.job = reply.job then reply' = reply else r.Has reply' := by
  cases reply with
  | checkAuth _ | login _ | logout => cases hcall
  | status i fetched | clients i fetched | metrics i fetched =>
    cases fetched with
    | unauthorized | failed message => cases hok
    | ok data =>
      obtain rfl := Option.some.inj hcall
      cases reply' with
      | checkAuth _ | login _ | logout => cases hcall'
      | status i' fetched' | clients i' fetched' | metrics i' fetched' =>
        cases fetched' with
        | unauthorized | failed message => cases hok'
        | ok data' =>
          obtain rfl := Option.some.inj hcall'
          simp [record, Has, Replied.job, eq_comm]

/-- A reply is recorded by itself, when its request has not been answered before. -/
theorem Refresh.has_record {r : Refresh} {call : ℕ} {reply reply' : Replied}
    (hcall : reply.call = some call) (hcall' : reply'.call = some call)
    (hfirst : ∀ other, other.job = reply.job → ¬ r.Has other) :
    (r.record reply).Has reply' ↔ r.Has reply' ∨ reply.isOk = true ∧ reply' = reply := by
  cases hok : reply.isOk with
  | false =>
    rw [has_record_of_not_ok hok]
    simp
  | true =>
    cases hok' : reply'.isOk with
    | false =>
      have hne : reply' ≠ reply := by
        rintro rfl
        rw [hok] at hok'
        cases hok'
      exact iff_of_false (not_has hok') fun h => h.elim (not_has hok') fun h => hne h.2
    | true =>
      rw [has_record_of_ok hcall hcall' hok hok']
      split_ifs with hjob
      · simp [hfirst reply' hjob]
      · have hne : reply' ≠ reply := fun heq => hjob (congrArg Replied.job heq)
        simp [hne]

/-! ## What an event does to the refreshes -/

/-- An event that is no reply to a refresh and begins none. -/
structure Quiet (p p' : Page) : Prop where
  next : p'.next = p.next
  refreshes : p'.refreshes = p.refreshes
  jobs : ∀ call part, p'.loop.jobs.count (.fetch call part) = p.loop.jobs.count (.fetch call part)

/-- An event that begins a refresh. -/
structure Begins (p p' : Page) : Prop where
  next : p'.next = p.next + 1
  refreshes : p'.refreshes = Function.update p.refreshes p.next .new
  jobs : ∀ call part, p'.loop.jobs.count (.fetch call part) =
    p.loop.jobs.count (.fetch call part) + if call = p.next then 1 else 0

/-- To display the login is quiet. -/
theorem quiet_showLogin (p : Page) : Quiet p p.showLogin := by
  unfold Page.showLogin
  dsimp only
  cases p.refreshInterval with
  | none => exact ⟨rfl, rfl, fun _ _ => rfl⟩
  | some id => exact ⟨rfl, rfl, fun _ _ => rfl⟩

/-- A refresh begins. -/
theorem begins_refresh (p : Page) : Begins p p.refresh := by
  refine ⟨rfl, rfl, fun call part => ?_⟩
  unfold Page.refresh await
  dsimp only
  by_cases hcall : call = p.next
  · subst hcall
    cases part <;> simp
  · simp [hcall, Ne.symm hcall]

/-- To display the dashboard begins a refresh. -/
theorem begins_showDashboard (p : Page) : Begins p p.showDashboard := by
  obtain ⟨hnext, hrefreshes, hjobs⟩ := begins_refresh { p with screens := ⟨false, true⟩ }
  refine ⟨hnext, hrefreshes, fun call part => ?_⟩
  rw [← hjobs call part]
  unfold Page.showDashboard
  dsimp only
  split <;> rfl

/-- The reply to a request of a refresh is recorded. -/
theorem fetched_record {α : Type} (p : Page) (call : ℕ) (put : α → Refresh → Refresh)
    {fetched : Fetched α} {reply : Replied}
    (hok : ∀ data, fetched = .ok data →
      (p.refreshes call).record reply = put data (p.refreshes call))
    (hno : (∀ data, fetched ≠ .ok data) →
      (p.refreshes call).record reply = { p.refreshes call with rejected := true }) :
    (p.fetched N elementMembers call put fetched).loop.jobs = p.loop.jobs ∧
      (p.fetched N elementMembers call put fetched).next = p.next ∧
        (p.fetched N elementMembers call put fetched).refreshes =
          Function.update p.refreshes call ((p.refreshes call).record reply) := by
  cases fetched with
  | unauthorized =>
    rw [hno nofun]
    obtain ⟨refreshes, badge, heq, -, rfl⟩ := p.showLogin.reject_eq call "Unauthorized"
    change (p.showLogin.reject call "Unauthorized").loop.jobs = _ ∧
      (p.showLogin.reject call "Unauthorized").next = _ ∧
        (p.showLogin.reject call "Unauthorized").refreshes = _
    rw [heq]
    unfold Page.showLogin
    dsimp only
    split <;> exact ⟨rfl, rfl, rfl⟩
  | failed message =>
    rw [hno nofun]
    obtain ⟨refreshes, badge, heq, -, rfl⟩ := p.reject_eq call message
    change (p.reject call message).loop.jobs = _ ∧ (p.reject call message).next = _ ∧
      (p.reject call message).refreshes = _
    rw [heq]
    exact ⟨rfl, rfl, rfl⟩
  | ok data =>
    rw [hok data rfl]
    unfold Page.fetched
    dsimp only
    split <;> exact ⟨rfl, rfl, rfl⟩

/-- So are the replies to all of its requests. -/
theorem resume_record (N : Numbers) (elementMembers : String → Bool) (p : Page) {reply : Replied}
    {call : ℕ} (hcall : reply.call = some call) :
    (p.resume N elementMembers reply).loop.jobs = p.loop.jobs ∧
      (p.resume N elementMembers reply).next = p.next ∧
        (p.resume N elementMembers reply).refreshes =
          Function.update p.refreshes call ((p.refreshes call).record reply) := by
  cases reply with
  | checkAuth _ | login _ | logout => cases hcall
  | status i fetched | clients i fetched | metrics i fetched =>
    obtain rfl := Option.some.inj hcall
    refine fetched_record p i _ ?_ fun hno => ?_
    · rintro data rfl
      rfl
    · cases fetched with
      | ok data => exact absurd rfl (hno data)
      | unauthorized | failed message => rfl

/-- A job that is no request of a refresh is settled, which does nothing to the refreshes. -/
theorem quiet_settle (p : Page) (job : Job) (hjob : ∀ call part, job ≠ .fetch call part) :
    Quiet p { p with loop := p.loop.settle job } :=
  ⟨rfl, rfl, fun call part => List.count_erase_of_ne (hjob call part).symm⟩

/-- Nor does a request that is no part of a refresh. -/
theorem count_await (p : Page) (job : Job) (hjob : ∀ call part, job ≠ .fetch call part) (call : ℕ)
    (part : Part) :
    (p.loop.await job).jobs.count (.fetch call part) = p.loop.jobs.count (.fetch call part) :=
  List.count_cons_of_ne (hjob call part)

/-- Quiet events follow one another. -/
theorem Quiet.trans {q : Page} (h : Quiet p q) (h' : Quiet q p') : Quiet p p' :=
  ⟨h'.next.trans h.next, h'.refreshes.trans h.refreshes, fun call part =>
    (h'.jobs call part).trans (h.jobs call part)⟩

/-- A refresh that begins after a quiet event. -/
theorem Quiet.begins {q : Page} (h : Quiet p q) (h' : Begins q p') : Begins p p' := by
  obtain ⟨hnext, hrefreshes, hjobs⟩ := h
  refine ⟨by rw [h'.next, hnext], by rw [h'.refreshes, hrefreshes, hnext], fun call part => ?_⟩
  rw [h'.jobs, hjobs, hnext]

/-- An event that is no reply to a refresh begins one, or is quiet. -/
theorem quiet_or_begins {event : PageEvent} (hcall : event.call = none)
    (hstep : dashboardPageStep N elementMembers p event = some p') : Quiet p p' ∨ Begins p p' := by
  unfold dashboardPageStep at hstep
  cases event with
  | type token =>
    obtain rfl := Option.some.inj hstep
    exact .inl ⟨rfl, rfl, fun _ _ => rfl⟩
  | submitLogin =>
    dsimp only at hstep
    split_ifs at hstep
    obtain rfl := Option.some.inj hstep
    unfold Page.handleLogin
    dsimp only
    split_ifs
    · exact .inl ⟨rfl, rfl, fun _ _ => rfl⟩
    · exact .inl ⟨rfl, rfl, count_await p .login nofun⟩
  | logout =>
    obtain rfl := Option.some.inj hstep
    exact .inl ⟨rfl, rfl, count_await p .logout nofun⟩
  | tick id =>
    obtain ⟨ticker, -, rfl⟩ := Option.map_eq_some_iff.mp hstep
    exact .inr (begins_refresh p)
  | replied reply =>
    dsimp only at hstep
    split_ifs at hstep
    obtain rfl := Option.some.inj hstep
    cases reply with
    | status _ _ | clients _ _ | metrics _ _ => cases hcall
    | checkAuth reply =>
      have hsettled := quiet_settle p .checkAuth nofun
      unfold Page.resume Page.authChecked
      cases reply with
      | none => exact .inl (hsettled.trans (quiet_showLogin _))
      | some data =>
        dsimp only
        have hwarned : ∀ q : Page, Quiet q { q with tlsWarning := !data.tlsEnabled } :=
          fun q => ⟨rfl, rfl, fun _ _ => rfl⟩
        split_ifs
        · exact .inr ((hsettled.trans (hwarned _)).begins (begins_showDashboard _))
        · exact .inl ((hsettled.trans (hwarned _)).trans (quiet_showLogin _))
    | login reply =>
      have hsettled := quiet_settle p .login nofun
      unfold Page.resume Page.loggedIn
      cases reply with
      | none => exact .inl { hsettled with }
      | some data =>
        dsimp only
        split_ifs
        · have hcleared : ∀ q : Page, Quiet q { q with token := "" } :=
            fun q => ⟨rfl, rfl, fun _ _ => rfl⟩
          exact .inr { (hsettled.trans (hcleared _)).begins (begins_showDashboard _) with }
        · exact .inl { hsettled with }
        · exact .inl { hsettled with }
    | logout =>
      exact .inl ((quiet_settle p .logout nofun).trans (quiet_showLogin _))

/-! ## The history -/

/-- An event that is no reply to a refresh answers none of its requests. -/
theorem answers_eq_false {event : PageEvent} (hcall : event.call = none) (call : ℕ) (part : Part) :
    event.answers call part = false := by
  cases event with
  | replied reply =>
    cases reply with
    | checkAuth _ | login _ | logout => rfl
    | status _ _ | clients _ _ | metrics _ _ => cases hcall
  | _ => rfl

/-- No reply to a refresh is among the events after one that is none. -/
theorem mem_concat_iff {event : PageEvent} {reply : Replied} {call : ℕ} (hcall : event.call = none)
    (hreply : reply.call = some call) :
    PageEvent.replied reply ∈ events ++ [event] ↔ PageEvent.replied reply ∈ events := by
  rw [List.mem_append, List.mem_singleton]
  refine or_iff_left ?_
  rintro rfl
  rw [show (PageEvent.replied reply).call = reply.call from rfl, hreply] at hcall
  cases hcall

/-- A refresh that has not begun has no replies. -/
theorem History.not_mem {reply : Replied} {call : ℕ} (h : History events p)
    (hcall : reply.call = some call) (hnext : p.next ≤ call) :
    PageEvent.replied reply ∉ events := by
  intro hmem
  obtain ⟨part, hpart⟩ := Replied.exists_part hcall
  have honce := h.once call part
  have hpos : 0 < events.countP (PageEvent.answers call part) :=
    List.countP_pos_iff.mpr ⟨_, hmem, decide_eq_true hpart⟩
  rw [if_neg (Nat.not_lt.mpr hnext)] at honce
  omega

/-- Quiet events change nothing. -/
theorem History.quiet {event : PageEvent} (h : History events p) (hcall : event.call = none)
    (hquiet : Quiet p p') : History (events ++ [event]) p' := by
  obtain ⟨hnext, hrefreshes, hjobs⟩ := hquiet
  refine ⟨fun call part => ?_, fun call reply hreply => ?_, fun call hrejected => ?_⟩
  · rw [hjobs, hnext, List.countP_append, List.countP_singleton, answers_eq_false hcall]
    exact h.once call part
  · rw [hrefreshes, mem_concat_iff hcall hreply]
    exact h.has call reply hreply
  · rw [hrefreshes] at hrejected
    obtain ⟨reply, hreply, hno, hmem⟩ := h.rejected call hrejected
    exact ⟨reply, hreply, hno, List.mem_append_left _ hmem⟩

/-- A refresh that begins waits for its replies. -/
theorem History.begins {event : PageEvent} (h : History events p) (hcall : event.call = none)
    (hbegins : Begins p p') : History (events ++ [event]) p' := by
  obtain ⟨hnext, hrefreshes, hjobs⟩ := hbegins
  refine ⟨fun call part => ?_, fun call reply hreply => ?_, fun call hrejected => ?_⟩
  · have honce := h.once call part
    rw [hjobs, hnext, List.countP_append, List.countP_singleton, answers_eq_false hcall]
    simp only [Bool.false_eq_true, if_false, Nat.add_zero]
    by_cases hnew : call = p.next
    · subst hnew
      rw [if_neg (Nat.lt_irrefl _)] at honce
      rw [if_pos rfl, if_pos (Nat.lt_succ_self _)]
      omega
    · rw [if_neg hnew, Nat.add_zero]
      refine honce.trans ?_
      split_ifs <;> omega
  · rw [hrefreshes, mem_concat_iff hcall hreply]
    by_cases hnew : call = p.next
    · subst hnew
      have hnone := h.not_mem hreply le_rfl
      rw [Function.update_self]
      refine iff_of_false ?_ fun hmem => hnone hmem.2
      cases reply with
      | checkAuth _ | login _ | logout => cases hreply
      | status i fetched | clients i fetched | metrics i fetched =>
        cases fetched <;> simp [Refresh.new, Refresh.Has]
    · rw [Function.update_of_ne hnew]
      exact h.has call reply hreply
  · rw [hrefreshes] at hrejected
    by_cases hnew : call = p.next
    · rw [hnew, Function.update_self] at hrejected
      cases hrejected
    · rw [Function.update_of_ne hnew] at hrejected
      obtain ⟨reply, hreply, hno, hmem⟩ := h.rejected call hrejected
      exact ⟨reply, hreply, hno, List.mem_append_left _ hmem⟩

/-- A request that is waited for has not been answered. -/
theorem History.first {reply other : Replied} {call : ℕ} (h : History events p)
    (hcall : reply.call = some call) (hmem : reply.job ∈ p.loop.jobs)
    (hother : other.job = reply.job) : PageEvent.replied other ∉ events := by
  intro hbefore
  obtain ⟨part, hpart⟩ := Replied.exists_part hcall
  have honce := h.once call part
  have hwaits : 0 < p.loop.jobs.count (.fetch call part) :=
    List.count_pos_iff.mpr (hpart ▸ hmem)
  have hanswered : 0 < events.countP (PageEvent.answers call part) :=
    List.countP_pos_iff.mpr ⟨_, hbefore, decide_eq_true (hother.trans hpart)⟩
  split_ifs at honce <;> omega

/-- A reply of a request belongs to the same refresh as any other of that request. -/
theorem Replied.call_of_job {reply other : Replied} {call : ℕ} (hcall : reply.call = some call)
    (hother : other.job = reply.job) : other.call = some call := by
  cases reply with
  | checkAuth _ | login _ | logout => cases hcall
  | status i _ | clients i _ | metrics i _ =>
    obtain rfl := Option.some.inj hcall
    cases other <;> cases hother
    rfl

/-- The request that is answered is not waited for any more. -/
theorem History.once_settle {reply : Replied} (h : History events p)
    (hmem : reply.job ∈ p.loop.jobs) (call : ℕ) (part : Part) :
    (p.loop.jobs.erase reply.job).count (.fetch call part) +
      (events ++ [PageEvent.replied reply]).countP (PageEvent.answers call part) ≤
        if call < p.next then 1 else 0 := by
  have honce := h.once call part
  rw [List.countP_append, List.countP_singleton]
  by_cases hsame : reply.job = .fetch call part
  · have hwaits : 0 < p.loop.jobs.count (.fetch call part) :=
      List.count_pos_iff.mpr (hsame ▸ hmem)
    have herase : (p.loop.jobs.erase reply.job).count (.fetch call part) =
        p.loop.jobs.count (.fetch call part) - 1 := by
      rw [hsame, List.count_erase_self]
    have hanswers : (PageEvent.replied reply).answers call part = true := decide_eq_true hsame
    rw [hanswers, if_pos rfl, herase]
    omega
  · have herase : (p.loop.jobs.erase reply.job).count (.fetch call part) =
        p.loop.jobs.count (.fetch call part) := List.count_erase_of_ne (Ne.symm hsame)
    have hanswers : (PageEvent.replied reply).answers call part = false := decide_eq_false hsame
    rw [herase, hanswers]
    exact honce

/-- The replies of a refresh are its old ones and the new one. -/
theorem History.has_record {reply reply' : Replied} {call : ℕ} (h : History events p)
    (hcall : reply.call = some call) (hcall' : reply'.call = some call)
    (hmem : reply.job ∈ p.loop.jobs) :
    ((p.refreshes call).record reply).Has reply' ↔
      reply'.isOk = true ∧ .replied reply' ∈ events ++ [.replied reply] := by
  have hfirst : ∀ other, other.job = reply.job → ¬ (p.refreshes call).Has other :=
    fun other hother hhas => h.first hcall hmem hother
      ((h.has call other (Replied.call_of_job hcall hother)).mp hhas).2
  rw [Refresh.has_record hcall hcall' hfirst, h.has call reply' hcall', List.mem_append,
    List.mem_singleton]
  constructor
  · rintro (⟨hok, hbefore⟩ | ⟨hok, rfl⟩)
    · exact ⟨hok, .inl hbefore⟩
    · exact ⟨hok, .inr rfl⟩
  · rintro ⟨hok, hbefore | heq⟩
    · exact .inl ⟨hok, hbefore⟩
    · obtain rfl := PageEvent.replied.inj heq
      exact .inr ⟨hok, rfl⟩

/-- A reply with data does not reject its refresh. -/
theorem Refresh.rejected_record {r : Refresh} {reply : Replied} (hok : reply.isOk = true) :
    (r.record reply).rejected = r.rejected := by
  cases reply with
  | checkAuth _ | login _ | logout => cases hok
  | status i fetched | clients i fetched | metrics i fetched =>
    cases fetched with
    | ok data => rfl
    | unauthorized | failed message => cases hok

/-- A reply to a request of a refresh is added to the others. -/
theorem History.reply {reply : Replied} {call : ℕ} (h : History events p)
    (hcall : reply.call = some call) (hmem : reply.job ∈ p.loop.jobs)
    (hstep : dashboardPageStep N elementMembers p (.replied reply) = some p') :
    History (events ++ [.replied reply]) p' := by
  have hp' : p' = ({ p with loop := p.loop.settle reply.job } : Page).resume N elementMembers
      reply := by
    unfold dashboardPageStep at hstep
    dsimp only at hstep
    rw [if_pos hmem] at hstep
    exact (Option.some.inj hstep).symm
  obtain ⟨hjobs, hnext, hrefreshes⟩ := resume_record N elementMembers
    { p with loop := p.loop.settle reply.job } hcall
  rw [← hp'] at hjobs hnext hrefreshes
  have hrejected_old : ∀ call', (p.refreshes call').rejected = true →
      ∃ other, other.call = some call' ∧ other.isOk = false ∧
        .replied other ∈ events ++ [.replied reply] := by
    intro call' hbefore
    obtain ⟨other, hother, hno, hmem⟩ := h.rejected call' hbefore
    exact ⟨other, hother, hno, List.mem_append_left _ hmem⟩
  refine ⟨fun call' part' => ?_, fun call' reply' hreply => ?_, fun call' hrejected => ?_⟩
  · rw [hjobs, hnext]
    exact h.once_settle hmem call' part'
  · rw [hrefreshes]
    by_cases hsame : call' = call
    · subst hsame
      rw [Function.update_self]
      exact h.has_record hcall hreply hmem
    · have hother : PageEvent.replied reply' ≠ .replied reply := by
        intro heq
        obtain rfl := PageEvent.replied.inj heq
        exact hsame (Option.some.inj (hreply.symm.trans hcall))
      rw [Function.update_of_ne hsame, List.mem_append, List.mem_singleton, or_iff_left hother]
      exact h.has call' reply' hreply
  · rw [hrefreshes] at hrejected
    by_cases hsame : call' = call
    · subst hsame
      rw [Function.update_self] at hrejected
      cases hok : reply.isOk with
      | false => exact ⟨reply, hcall, hok, by simp⟩
      | true =>
        rw [Refresh.rejected_record hok] at hrejected
        exact hrejected_old call' hrejected
    · rw [Function.update_of_ne hsame] at hrejected
      exact hrejected_old call' hrejected

/-- Every event is recorded. -/
theorem History.step {event : PageEvent} (h : History events p)
    (hstep : dashboardPageStep N elementMembers p event = some p') :
    History (events ++ [event]) p' := by
  cases hcall : event.call with
  | none =>
    rcases quiet_or_begins hcall hstep with hquiet | hbegins
    · exact h.quiet hcall hquiet
    · exact h.begins hcall hbegins
  | some call =>
    cases event with
    | replied reply =>
      have hmem : reply.job ∈ p.loop.jobs := by
        unfold dashboardPageStep at hstep
        dsimp only at hstep
        split_ifs at hstep with hmem
        exact hmem
      exact h.reply hcall hmem hstep
    | _ => cases hcall

/-! ## What is shown -/

/-- A request is answered once. -/
theorem History.eq_of_mem {reply other : Replied} {call : ℕ} (h : History events p)
    (hcall : reply.call = some call) (hmem : PageEvent.replied reply ∈ events)
    (hmem' : PageEvent.replied other ∈ events) (hother : other.job = reply.job) :
    reply = other := by
  obtain ⟨part, hpart⟩ := Replied.exists_part hcall
  have honce := h.once call part
  have hle : (events.filter (PageEvent.answers call part)).length ≤ 1 := by
    rw [← List.countP_eq_length_filter]
    split_ifs at honce <;> omega
  have hanswers : (PageEvent.replied reply).answers call part = true := decide_eq_true hpart
  have hanswers' : (PageEvent.replied other).answers call part = true :=
    decide_eq_true (hother.trans hpart)
  have hin := List.mem_filter.mpr ⟨hmem, hanswers⟩
  have hin' := List.mem_filter.mpr ⟨hmem', hanswers'⟩
  obtain ⟨event, hone⟩ := List.length_eq_one_iff.mp
    (Nat.le_antisymm hle (List.length_pos_of_mem hin))
  rw [hone, List.mem_singleton] at hin hin'
  exact PageEvent.replied.inj (hin.trans hin'.symm)

/-- A refresh whose three replies have come has not been rejected. -/
theorem History.not_rejected {call : ℕ} {s : Snapshot} (h : History events p)
    (hdelivered : Delivered events call s) : (p.refreshes call).rejected = false := by
  by_contra hrejected
  obtain ⟨reply, hcall, hno, hmem⟩ := h.rejected call (Bool.not_eq_false _ ▸ hrejected)
  obtain ⟨hstatus, hclients, hmetrics⟩ := hdelivered
  cases reply with
  | checkAuth _ | login _ | logout => cases hcall
  | status i fetched =>
    obtain rfl := Option.some.inj hcall
    have hsame := h.eq_of_mem rfl hstatus hmem rfl
    rw [← hsame] at hno
    cases hno
  | clients i fetched =>
    obtain rfl := Option.some.inj hcall
    have hsame := h.eq_of_mem rfl hclients hmem rfl
    rw [← hsame] at hno
    cases hno
  | metrics i fetched =>
    obtain rfl := Option.some.inj hcall
    have hsame := h.eq_of_mem rfl hmetrics hmem rfl
    rw [← hsame] at hno
    cases hno

/-- A refresh has its three replies exactly when they have come. -/
theorem History.snapshot_iff (h : History events p) (call : ℕ) (s : Snapshot) :
    (p.refreshes call).snapshot = some s ↔ Delivered events call s := by
  have hall : Delivered events call s ↔ (p.refreshes call).status = some s.status ∧
      (p.refreshes call).clients = some s.clients ∧
        (p.refreshes call).metrics = some s.metrics := by
    have hstatus := h.has call (.status call (.ok s.status)) rfl
    have hclients := h.has call (.clients call (.ok s.clients)) rfl
    have hmetrics := h.has call (.metrics call (.ok s.metrics)) rfl
    simp only [Refresh.Has, Replied.isOk, true_and] at hstatus hclients hmetrics
    rw [hstatus, hclients, hmetrics]
    rfl
  constructor
  · intro hsnapshot
    rw [hall]
    unfold Refresh.snapshot at hsnapshot
    split_ifs at hsnapshot
    simp only [Option.bind_eq_bind, Option.bind_eq_some_iff, Option.pure_def,
      Option.some.injEq] at hsnapshot
    obtain ⟨status, hstatus, clients, hclients, metrics, hmetrics, rfl⟩ := hsnapshot
    exact ⟨hstatus, hclients, hmetrics⟩
  · intro hdelivered
    obtain ⟨hstatus, hclients, hmetrics⟩ := hall.mp hdelivered
    unfold Refresh.snapshot
    rw [h.not_rejected hdelivered, hstatus, hclients, hmetrics]
    rfl

/-- What has been delivered stays so. -/
theorem Delivered.concat {call : ℕ} {s : Snapshot} (h : Delivered events call s)
    (event : PageEvent) : Delivered (events ++ [event]) call s :=
  ⟨List.mem_append_left _ h.1, List.mem_append_left _ h.2.1, List.mem_append_left _ h.2.2⟩

/-- All of its requests have been answered then. -/
theorem Delivered.answered {call : ℕ} {s : Snapshot} (h : Delivered events call s) (part : Part) :
    0 < events.countP (PageEvent.answers call part) := by
  obtain ⟨hstatus, hclients, hmetrics⟩ := h
  rw [List.countP_pos_iff]
  cases part with
  | status => exact ⟨_, hstatus, decide_eq_true rfl⟩
  | clients => exact ⟨_, hclients, decide_eq_true rfl⟩
  | metrics => exact ⟨_, hmetrics, decide_eq_true rfl⟩

/-- A reply to a refresh comes before the refresh has all of them. -/
theorem History.not_delivered {event : PageEvent} {call : ℕ} {s : Snapshot}
    (h : History (events ++ [event]) p) (hcall : event.call = some call) :
    ¬ Delivered events call s := by
  intro hdelivered
  cases event with
  | replied reply =>
    obtain ⟨part, hpart⟩ := Replied.exists_part hcall
    have honce := h.once call part
    have hanswers : (PageEvent.replied reply).answers call part = true := decide_eq_true hpart
    have hpos := hdelivered.answered part
    rw [List.countP_append, List.countP_singleton, hanswers, if_pos rfl] at honce
    split_ifs at honce <;> omega
  | _ => cases hcall

/-- The third reply to a refresh is a reply to it. -/
theorem Delivered.call_of_concat {event : PageEvent} {call : ℕ} {s : Snapshot}
    (h : Delivered (events ++ [event]) call s) (hnot : ¬ Delivered events call s) :
    event.call = some call := by
  by_contra hcall
  refine hnot ⟨?_, ?_, ?_⟩
  · refine (List.mem_append.mp h.1).resolve_right fun hlast => hcall ?_
    rw [← List.mem_singleton.mp hlast]
    rfl
  · refine (List.mem_append.mp h.2.1).resolve_right fun hlast => hcall ?_
    rw [← List.mem_singleton.mp hlast]
    rfl
  · refine (List.mem_append.mp h.2.2).resolve_right fun hlast => hcall ?_
    rw [← List.mem_singleton.mp hlast]
    rfl

/-- Every event leaves what the badge says true. -/
theorem ShowsLatest.step {event : PageEvent} (hmoves : Moves N elementMembers p event p')
    (hhistory' : History (events ++ [event]) p')
    (htable : BodySound N elementMembers p.table)
    (hshows : p.badge = .online → ShowsLatest N events p) (honline : p'.badge = .online) :
    ShowsLatest N (events ++ [event]) p' := by
  rcases hmoves.shows with ⟨hstats, hsame, hbadge, hnone⟩ |
    ⟨call, s, hcall, hsnapshot, hstats, hrefreshed, hall⟩
  · -- No refresh has got its third reply.
    obtain ⟨before, third, after, call, s, rfl, hnot, hdelivered, hlatest, hshown, hrows⟩ :=
      hshows (hbadge honline)
    refine ⟨before, third, after ++ [event], call, s, by simp, hnot, hdelivered, ?_, ?_, ?_⟩
    · intro call' s' hnew
      by_contra hmissing
      have hbefore : ¬ Delivered (before ++ third :: after) call' s' :=
        fun hold => hmissing (hlatest call' s' hold)
      have hsnapshot := hnone call' (hnew.call_of_concat hbefore)
      rw [(hhistory'.snapshot_iff call' s').mpr hnew] at hsnapshot
      cases hsnapshot
    · rw [hstats, hshown]
    · rwa [hsame]
  · have hdelivered := (hhistory'.snapshot_iff call s).mp hsnapshot
    refine ⟨events, event, [], call, s, rfl, hhistory'.not_delivered hcall, hdelivered,
      fun _ _ hold => hold, hstats, ?_⟩
    rw [hrefreshed]
    exact shows_of_showsAll htable s.clients (hall honline)

/-- What holds of the page after these events. -/
structure Recorded (N : Numbers) (elementMembers : String → Bool) (events : List PageEvent)
    (p : Page) : Prop where
  keeps : p.Keeps N elementMembers p.loginDisabled
  history : History events p
  shows : p.badge = .online → ShowsLatest N events p

/-- It holds after every run. -/
theorem Recorded.exec {later : List PageEvent} (h : Recorded N elementMembers events p)
    (hrun : Transition.exec (dashboardPageStep N elementMembers) p later = some p') :
    Recorded N elementMembers (events ++ later) p' := by
  induction later generalizing events p with
  | nil =>
    obtain rfl : p = p' := by simpa [Transition.exec] using hrun
    rwa [List.append_nil]
  | cons event later ih =>
    obtain ⟨q, hstep, hrun⟩ := Transition.exec_cons.mp hrun
    have hhistory := h.history.step hstep
    have hnext : Recorded N elementMembers (events ++ [event]) q :=
      ⟨h.keeps.step hstep, hhistory,
        ShowsLatest.step (h.keeps.moves hstep) hhistory h.keeps.table h.shows⟩
    have hlast := ih hnext hrun
    rwa [List.append_assoc, List.singleton_append] at hlast

end ZoTunnel.DashboardPage
