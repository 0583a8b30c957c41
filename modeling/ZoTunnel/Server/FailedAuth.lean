import ZoTunnel.Lib.Gauge
import ZoTunnel.Server.Session

/-!
# The count of failed authentications

`handle_client` increments `failed_auth` for a token that `validate_token` rejects, behind the write
of the `AuthRes`, which the `?` leaves when it fails. `failed_auth` is read as a gauge
(`Lib/Gauge.lean`) whose holders are the connections that were rejected and have ended.

`rejections_counted_iff` characterizes the runs in which the count is right all along: those in
which no `AuthRes` of a rejection fails to be written, and which have fewer than `2^64` rejections.
-/

namespace ZoTunnel

open Transition

variable {config : ServerConfig} {S : Serde}

/-- The first frame of the peer is this `AuthReq`. -/
def Session.Sends (S : Serde) (session : Session) (auth : AuthReq) : Prop :=
  ∃ rest, readMessage S session.peer = .ok (.authReq auth, rest)

/-- The connection has ended after its token was rejected. -/
def Session.Rejected (config : ServerConfig) (S : Serde) (session : Session) : Prop :=
  (session.phase = .closed .authFailed ∨ session.phase = .closed .writeError) ∧
    ∃ auth, session.Sends S auth ∧ config.validateToken auth.token = false

/-- The connections that have ended after their token was rejected. -/
def ServerState.rejected (config : ServerConfig) (S : Serde) (s : ServerState) : Set ℕ :=
  {sid | (s.sessions sid).Rejected config S}

/-- Every rejected token is counted. -/
def RejectionsCounted (config : ServerConfig) (S : Serde) (s : ServerState) : Prop :=
  Gauge.Reads s.metrics.failedAuth (s.rejected config S)

/-- If the step answers a rejected token, the answer is written, and there is room in the count. -/
def CountsRejection (config : ServerConfig) (S : Serde) (s : ServerState) : ServerStep → Prop
  | .session sid (.writeAuthRes ok) =>
    ∀ auth, (s.sessions sid).phase = .rejecting auth →
      ok = true ∧ (s.rejected config S).ncard + 1 < 2^64
  | _ => True

/-! ## What a step does -/

/-- What a session knows of the token that its peer has sent. -/
def Session.Validated (config : ServerConfig) (S : Serde) (session : Session) : Prop :=
  match session.phase with
  | .validating auth => session.Sends S auth
  | .rejecting auth => session.Sends S auth ∧ config.validateToken auth.token = false
  | .accepting auth => session.Sends S auth ∧ config.validateToken auth.token = true
  | _ => True

/-- The step answers a rejected token. -/
def Session.Rejects (session : Session) (l : SessionStep) : Prop :=
  ∃ auth ok, session.phase = .rejecting auth ∧ l = .writeAuthRes ok

/-- A session that has not ended in one of these ways is not among the rejected. -/
theorem Session.not_rejected {session : Session} (hfailed : session.phase ≠ .closed .authFailed)
    (hwrite : session.phase ≠ .closed .writeError) : ¬ session.Rejected config S :=
  fun h => h.1.elim hfailed hwrite

/-- A session rejects only the token that its peer has sent. -/
theorem Session.Sends.eq {session : Session} {auth auth' : AuthReq} (h : session.Sends S auth)
    (h' : session.Sends S auth') : auth = auth' := by
  obtain ⟨rest, hread⟩ := h
  obtain ⟨rest', hread'⟩ := h'
  rw [hread] at hread'
  exact Message.authReq.inj (congrArg Prod.fst (Except.ok.inj hread'))

/-- A step between two phases in which the connection has not ended so, and which answers no
rejected token, rejects nothing. -/
theorem Session.rejected_iff_of_quiet {session session' : Session} {l : SessionStep} {phase : Phase}
    (hphase : session.phase = phase)
    (hbefore : phase ≠ .closed .authFailed ∧ phase ≠ .closed .writeError)
    (hafter : session'.phase ≠ .closed .authFailed ∧ session'.phase ≠ .closed .writeError)
    (hl : (∀ auth, phase ≠ .rejecting auth) ∨ ∀ ok, l ≠ .writeAuthRes ok) :
    session'.Rejected config S ↔ session.Rejected config S ∨ session.Rejects l := by
  have hrejects : ¬ session.Rejects l := by
    rintro ⟨auth, ok, hrejecting, rfl⟩
    rcases hl with hl | hl
    · exact hl auth (hphase.symm.trans hrejecting)
    · exact hl ok rfl
  rw [← hphase] at hbefore
  have hnot : ¬ session.Rejected config S := session.not_rejected hbefore.1 hbefore.2
  have hnot' : ¬ session'.Rejected config S := session'.not_rejected hafter.1 hafter.2
  exact iff_of_false hnot' (not_or.mpr ⟨hnot, hrejects⟩)

/-- A step of a session makes it one of the rejected exactly if it answers a rejected token. -/
theorem HandleClient.rejected_iff {sid : ℕ} {session session' : Session}
    {registry registry' : Registry} {l : SessionStep}
    (h : HandleClient config S sid session registry l session' registry')
    (hvalid : session.Validated config S) :
    session'.Validated config S ∧
      (session'.Rejected config S ↔ session.Rejected config S ∨ session.Rejects l) := by
  unfold Session.Validated at hvalid
  cases h with
  | accept peer hphase | authTimeout hphase | spawned _ _ hphase | registered _ _ _ _ hphase
  | refused _ _ _ _ hphase | unregistered _ _ hphase =>
    exact ⟨trivial, Session.rejected_iff_of_quiet hphase (by simp) (by simp) (by simp)⟩
  | readError hphase outcome houtcome =>
    refine ⟨trivial, Session.rejected_iff_of_quiet hphase (by simp) ?_ (by simp)⟩
    rcases houtcome with rfl | rfl <;> simp
  | readAuth hphase auth rest hread =>
    exact ⟨⟨rest, hread⟩, Session.rejected_iff_of_quiet hphase (by simp) (by simp) (by simp)⟩
  | valid auth hphase hcheck =>
    rw [hphase] at hvalid
    exact ⟨⟨hvalid, hcheck⟩, Session.rejected_iff_of_quiet hphase (by simp) (by simp) (by simp)⟩
  | invalid auth hphase hcheck =>
    rw [hphase] at hvalid
    exact ⟨⟨hvalid, hcheck⟩, Session.rejected_iff_of_quiet hphase (by simp) (by simp) (by simp)⟩
  | welcomed auth hphase =>
    exact ⟨trivial, Session.rejected_iff_of_quiet hphase (by simp) (by simp) (by simp)⟩
  | authFailed auth hphase =>
    rw [hphase] at hvalid
    exact ⟨trivial, iff_of_true ⟨.inl rfl, auth, hvalid⟩ (.inr ⟨auth, true, hphase, rfl⟩)⟩
  | writeError auth hphase =>
    refine ⟨trivial, ?_⟩
    rcases hphase with hphase | hphase <;> rw [hphase] at hvalid
    · exact iff_of_true ⟨.inr rfl, auth, hvalid⟩ (.inr ⟨auth, false, hphase, rfl⟩)
    · -- The token was valid, so the connection has not been rejected.
      refine iff_of_false ?_
        (not_or.mpr ⟨Session.not_rejected (by simp [hphase]) (by simp [hphase]), ?_⟩)
      · rintro ⟨-, auth', hsends, hinvalid⟩
        obtain rfl : auth = auth' := hvalid.1.eq hsends
        rw [hvalid.2] at hinvalid
        cases hinvalid
      · rintro ⟨auth', ok, hrejecting, -⟩
        rw [hphase] at hrejecting
        cases hrejecting
  | driverEnded hdriver =>
    have hrejects : ¬ session.Rejects .driverEnd := by
      rintro ⟨_, _, _, hl⟩
      cases hl
    exact ⟨hvalid, ⟨.inl, fun h => h.resolve_right hrejects⟩⟩

/-- The answer to a rejected token is counted once it is written. -/
theorem handleClient_rejecting {s s' : ServerState} {sid : ℕ} {auth : AuthReq}
    (hphase : (s.sessions sid).phase = .rejecting auth)
    (h : handleClient config S s sid (.writeAuthRes true) = some s') :
    s'.metrics.failedAuth = s.metrics.failedAuth + 1 := by
  unfold handleClient at h
  dsimp only at h
  rw [hphase] at h
  obtain rfl := Option.some.inj h
  rfl

/-- No other step of a session counts. -/
theorem handleClient_failedAuth {s s' : ServerState} {sid : ℕ} {l : SessionStep}
    (h : handleClient config S s sid l = some s')
    (hl : ¬ (s.sessions sid).Rejects l ∨ l ≠ .writeAuthRes true) :
    s'.metrics.failedAuth = s.metrics.failedAuth := by
  unfold handleClient at h
  dsimp only at h
  split at h
  all_goals first | (obtain rfl := Option.some.inj h; exact rfl) | skip
  · split at h
    all_goals
      obtain rfl := Option.some.inj h
      rfl
  · split_ifs at h
    all_goals
      obtain rfl := Option.some.inj h
      rfl
  · rename_i auth hphase
    exact absurd rfl (hl.resolve_left (not_not_intro ⟨auth, true, hphase, rfl⟩))
  · split at h
    all_goals
      obtain rfl := Option.some.inj h
      rfl
  · split_ifs at h
    obtain rfl := Option.some.inj h
    rfl
  · split_ifs at h
    obtain rfl := Option.some.inj h
    rfl
  · cases h

/-- A request counts no failed authentication. -/
theorem handleProxyRequest_failedAuth {s s' : ServerState} {rid : ℕ} {l : RequestStep}
    (h : handleProxyRequest config s rid l = some s') :
    s'.metrics.failedAuth = s.metrics.failedAuth := by
  unfold handleProxyRequest at h
  split at h
  all_goals first | (obtain rfl := Option.some.inj h; exact rfl) | skip
  · dsimp only at h
    split at h
    all_goals
      obtain rfl := Option.some.inj h
      rfl
  · split at h
    all_goals
      obtain rfl := Option.some.inj h
      rfl
  · split at h
    all_goals
      obtain rfl := Option.some.inj h
      rfl
  · cases h

/-! ## Runs -/

/-- Every session knows the token of its peer. -/
def TokensValidated (config : ServerConfig) (S : Serde) (s : ServerState) : Prop :=
  ∀ sid, (s.sessions sid).Validated config S

/-- A step of a session adds its connection to the rejected ones, or leaves them as they are. -/
theorem rejected_handleClient {s s' : ServerState} {sid : ℕ} {l : SessionStep}
    (hvalid : TokensValidated config S s) (h : handleClient config S s sid l = some s') :
    TokensValidated config S s' ∧
      ((s.sessions sid).Rejects l →
        sid ∉ s.rejected config S ∧ s'.rejected config S = insert sid (s.rejected config S)) ∧
      (¬ (s.sessions sid).Rejects l → s'.rejected config S = s.rejected config S) := by
  obtain ⟨-, -, session', hsessions, hrule⟩ := handleClient_cases h
  obtain ⟨hvalid', hiff⟩ := hrule.rejected_iff (hvalid sid)
  have hself : sid ∈ s'.rejected config S ↔
      sid ∈ s.rejected config S ∨ (s.sessions sid).Rejects l := by
    unfold ServerState.rejected
    rw [Set.mem_ofPred_eq, Set.mem_ofPred_eq, hsessions, Function.update_self]
    exact hiff
  have hother : ∀ sid', sid' ≠ sid →
        (sid' ∈ s'.rejected config S ↔ sid' ∈ s.rejected config S) := by
    intro sid' hne
    unfold ServerState.rejected
    rw [Set.mem_ofPred_eq, Set.mem_ofPred_eq, hsessions, Function.update_of_ne hne]
  refine ⟨fun sid' => ?_, fun hrejects => ⟨fun hmem => ?_, ?_⟩, fun hrejects => ?_⟩
  · rw [hsessions]
    rcases eq_or_ne sid' sid with rfl | hne
    · rwa [Function.update_self]
    · rw [Function.update_of_ne hne]
      exact hvalid sid'
  · -- A connection that has ended answers nothing any more.
    obtain ⟨auth, ok, hphase, -⟩ := hrejects
    rcases hmem.1 with hclosed | hclosed <;> rw [hphase] at hclosed <;> cases hclosed
  · ext sid'
    rcases eq_or_ne sid' sid with rfl | hne
    · exact iff_of_true (hself.mpr (.inr hrejects)) (Set.mem_insert _ _)
    · rw [hother sid' hne, Set.mem_insert_iff, or_iff_right hne]
  · ext sid'
    rcases eq_or_ne sid' sid with rfl | hne
    · rw [hself, or_iff_left hrejects]
    · exact hother sid' hne

/-- A step that meets its condition keeps the count right. -/
theorem rejectionsCounted_step {s s' : ServerState} {l : ServerStep}
    (hvalid : TokensValidated config S s) (hcount : RejectionsCounted config S s)
    (h : serverStep config S s l = some s') :
    TokensValidated config S s' ∧
      (RejectionsCounted config S s' ↔ CountsRejection config S s l) := by
  cases l with
  | request rid l =>
    -- A request changes no session and leaves the counter alone.
    have hstep := handleProxyRequest_cases h
    have hcounter := handleProxyRequest_failedAuth h
    have hset : s'.rejected config S = s.rejected config S := by
      unfold ServerState.rejected
      rw [hstep.sessions]
    have hvalid' : TokensValidated config S s' := by
      unfold TokensValidated
      rw [hstep.sessions]
      exact hvalid
    refine ⟨hvalid', iff_of_true ?_ trivial⟩
    unfold RejectionsCounted
    rw [hcounter, hset]
    exact hcount
  | session sid l =>
    obtain ⟨hvalid', hadds, hkeeps⟩ := rejected_handleClient hvalid h
    refine ⟨hvalid', ?_⟩
    by_cases hrejects : (s.sessions sid).Rejects l
    · obtain ⟨hnew, hset⟩ := hadds hrejects
      obtain ⟨auth, ok, hphase, rfl⟩ := hrejects
      have hcond : CountsRejection config S s (.session sid (.writeAuthRes ok)) ↔
          ok = true ∧ (s.rejected config S).ncard + 1 < 2^64 :=
        ⟨fun hc => hc auth hphase, fun hc _ _ => hc⟩
      unfold RejectionsCounted at hcount ⊢
      rw [hcond, hset]
      cases ok with
      | true =>
        -- The answer has been written, and the counter goes up with the set.
        rw [handleClient_rejecting hphase h]
        refine ⟨fun hreads => ⟨rfl, ?_⟩, fun hroom => hcount.acquire hnew hroom.2⟩
        by_contra hfull
        exact hcount.overflow hnew (Nat.not_lt.mp hfull) hreads
      | false =>
        -- The answer could not be written: the set grows, and the counter does not.
        rw [handleClient_failedAuth h (.inr (by simp))]
        refine iff_of_false (fun hreads => ?_) (by simp)
        have hleak := hreads.leak (Set.mem_insert sid _)
        rw [Set.insert_sdiff_of_mem _ (Set.mem_singleton sid),
          Set.sdiff_singleton_eq_self hnew] at hleak
        exact hleak hcount
    · -- A step that rejects nobody meets the condition.
      have hcond : CountsRejection config S s (.session sid l) := by
        cases l with
        | writeAuthRes ok => exact fun auth hphase => absurd ⟨auth, ok, hphase, rfl⟩ hrejects
        | _ => trivial
      refine iff_of_true ?_ hcond
      unfold RejectionsCounted
      rw [handleClient_failedAuth h (.inl hrejects), hkeeps hrejects]
      exact hcount

/-- No connection is among the rejected at the start. -/
theorem rejectionsCounted_new (maxPerSecond : UInt32) :
    TokensValidated config S (.new maxPerSecond) ∧
      RejectionsCounted config S (.new maxPerSecond) := by
  have hempty : (ServerState.new maxPerSecond).rejected config S = ∅ :=
    Set.eq_empty_of_forall_notMem fun sid => Session.not_rejected nofun nofun
  refine ⟨fun sid => trivial, ?_⟩
  unfold RejectionsCounted
  rw [hempty]
  exact .empty

/-- Every rejected token is counted in every state of a run exactly if no answer to one fails to be
written, and there is room in the count for each. -/
theorem rejections_counted_iff (config : ServerConfig) (S : Serde) (maxPerSecond : UInt32)
    (labels : List ServerStep) :
    Visits (serverStep config S) (RejectionsCounted config S) (.new maxPerSecond) labels ↔
      Meets (serverStep config S) (CountsRejection config S) (.new maxPerSecond) labels := by
  refine visits_iff_meets
    (I := fun s => TokensValidated config S s ∧ RejectionsCounted config S s) ?_
    (fun s hinv => hinv.2) ?_ (rejectionsCounted_new maxPerSecond) labels
  · rintro s l s' ⟨hvalid, hcount⟩ hcond h
    obtain ⟨hvalid', hiff⟩ := rejectionsCounted_step hvalid hcount h
    exact ⟨hvalid', hiff.mpr hcond⟩
  · rintro s l s' ⟨hvalid, hcount⟩ hcond h hcount'
    exact hcond ((rejectionsCounted_step hvalid hcount h).2.mp hcount')

/-- A peer sends a wrong token and closes the connection. The answer cannot be written, and nothing
is counted. -/
theorem rejected_token_uncounted :
    ¬ ∀ (config : ServerConfig) (S : Serde) (maxPerSecond : UInt32) (labels : List ServerStep),
      Visits (serverStep config S) (RejectionsCounted config S) (.new maxPerSecond) labels := by
  intro h
  let config : ServerConfig := ⟨6210, "tunnel.example.com", ⟨["s3cret"]⟩⟩
  let labels : List ServerStep := [.session 0 (.accept appHello), .session 0 .readAuth,
    .session 0 .validate, .session 0 (.writeAuthRes false)]
  have hafter : ((exec (serverStep config handshakeSerde) (.new 100) labels).map fun s =>
      ((s.sessions 0).phase, (s.sessions 0).peer, s.metrics.failedAuth)) =
        some (.closed .writeError, appHello, 0) := by decide
  obtain ⟨s, hrun, hafter⟩ := Option.map_eq_some_iff.mp hafter
  obtain ⟨hphase, hpeer, hfailed⟩ : (s.sessions 0).phase = .closed .writeError ∧
      (s.sessions 0).peer = appHello ∧ s.metrics.failedAuth = 0 := by simpa using hafter
  have hrejected : 0 ∈ s.rejected config handshakeSerde := by
    refine ⟨.inr hphase, ⟨"app", "t0k", some "0.1.0"⟩, ⟨[], ?_⟩, by decide⟩
    rw [hpeer]
    rfl
  have hreads := (h config handshakeSerde 100 labels).last hrun
  have hpos := hreads.pos hrejected
  rw [hfailed] at hpos
  exact absurd hpos (by decide)

end ZoTunnel
