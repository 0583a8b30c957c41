import ZoTunnel.Lib.Backoff
import ZoTunnel.Server.Ownership

/-!
# Reconnecting after a refusal

The loop of `start_tunnel_internal` (`tunnel_manager.rs`) runs one session after another, and waits
in between: the wait doubles after each session, up to 30 s, and starts again at 1 s when a session
returns `Ok`. A server that rejects the token says so in its `AuthRes`, and the session returns an
error. A server that refuses the client's id has already said that it succeeded
(`Server/Promise.lean`), and the session returns `Ok` when the connection ends.

`refused_backoff_iff` puts the task and the server together: the waits back off along exactly the
runs in which no session of the second kind directly follows a refused one.
-/

namespace ZoTunnel

open Transition Backoff

/-- `max_backoff`, in seconds. -/
def maxBackoff : ℕ := 30

/-- What `run_session_with_status` returns when its connection has ended, by the message that it
read. After an `AuthRes` with success the accept loop ends with the connection. -/
def runSession (received : Option Message) : Except Error Unit :=
  match received with
  | none => .error "read auth response"
  | some (.authRes res) =>
    if res.success then .ok () else .error ("Authentication failed: " ++ res.message)
  | some _ => .error "Expected AuthRes"

/-- Where the task of a tunnel stands. -/
inductive RetryPhase where
  /-- Connects to the server. -/
  | connecting
  /-- Runs a session, which is the server's session `sid`. -/
  | session (sid : ℕ)
  /-- Sleeps for `backoff_secs`. -/
  | sleeping
  /-- The task was cancelled. -/
  | ended
  deriving DecidableEq, Repr

/-- The task of a tunnel, and the server that it connects to. -/
structure Retry where
  server : ServerState
  phase : RetryPhase
  backoffSecs : ℕ
  /-- The sessions so far, with the newest first: whether the server refused to register the client,
  and the wait after the session. -/
  history : List Attempt

/-- The task at its start. -/
def Retry.new (maxPerSecond : UInt32) : Retry := ⟨.new maxPerSecond, .connecting, 1, []⟩

/-- A step of the task, or one of the server. -/
inductive RetryStep where
  | server (l : ServerStep)
  /-- The connection is accepted as the server's session `sid`. -/
  | connect (sid : ℕ)
  /-- The server cannot be reached, or the TLS handshake fails. -/
  | connectError
  /-- The connection ends, after the client has received what the server sent, or before. -/
  | sessionEnd (received : Bool)
  | wake
  | cancel
  deriving DecidableEq, Repr

/-- The server has refused to register the client of a session. -/
def Session.isRefused (session : Session) : Bool :=
  match session.phase with
  | .closed .authFailed | .closed .refused => true
  | _ => false

/-- The loop after a session that returned `result`, up to its sleep. -/
def Retry.finish (s : Retry) (refused : Bool) (result : Except Error Unit) : Retry :=
  let backoffSecs := match result with
    | .ok () => 1
    | .error _ => s.backoffSecs
  { s with phase := .sleeping, backoffSecs, history := ⟨refused, backoffSecs⟩ :: s.history }

/-- One step of the task and the server. `auth` is the client's `AuthReq`. -/
def retryStep (config : ServerConfig) (S : Serde) (auth : AuthReq) (s : Retry) (l : RetryStep) :
    Option Retry :=
  match l, s.phase with
  | .server l, _ => (serverStep config S s.server l).map fun server => { s with server }
  | .connect sid, .connecting =>
    let hello := (writeMessage S .unlimited (.authReq auth)).2.bytes
    (serverStep config S s.server (.session sid (.accept hello))).map fun server =>
      { s with server, phase := .session sid }
  | .connectError, .connecting => some (s.finish false (.error "connect"))
  | .sessionEnd received, .session sid =>
    let session := s.server.sessions sid
    let message := if received then session.sent.head? else none
    some (s.finish session.isRefused (runSession message))
  | .wake, .sleeping =>
    some { s with phase := .connecting, backoffSecs := min (s.backoffSecs * 2) maxBackoff }
  | .cancel, _ => some { s with phase := .ended }
  | _, _ => none

/-- A session that the server refuses after the client has received its success does not directly
follow a refused one. -/
def WelcomedFirst (s : Retry) : RetryStep → Prop
  | .sessionEnd true =>
    match s.phase with
    | .session sid => (s.server.sessions sid).phase = .closed .refused →
      ∀ a, s.history.head? = some a → a.failed = false
    | _ => True
  | _ => True

/-- The waits of the task back off after refusals. -/
def RefusalsBackOff (s : Retry) : Prop := BacksOff maxBackoff s.history

variable {config : ServerConfig} {S : Serde} {auth : AuthReq}

/-- The invariant: the server's, the waits so far, and the next one. -/
structure Paced (config : ServerConfig) (S : Serde) (s : Retry) : Prop where
  server : Inv config S s.server
  backsOff : RefusalsBackOff s
  positive : 0 < s.backoffSecs
  capped : s.backoffSecs ≤ maxBackoff
  /-- The task sleeps for the wait of its last session, and then for double that. -/
  next : ∀ a, s.history.head? = some a →
    (s.phase = .sleeping → s.backoffSecs = a.wait) ∧
      ((s.phase = .connecting ∨ ∃ sid, s.phase = .session sid) →
        s.backoffSecs = min (2 * a.wait) maxBackoff)

/-- A refused session that returns `Ok` was refused after its success. -/
theorem refused_of_runSession_ok {s : ServerState} (hinv : Inv config S s) {sid : ℕ}
    {received : Bool} (hrefused : (s.sessions sid).isRefused = true)
    (hok : runSession (if received then (s.sessions sid).sent.head? else none) = .ok ()) :
    received = true ∧ (s.sessions sid).phase = .closed .refused := by
  cases received with
  | false => cases hok
  | true =>
    refine ⟨rfl, ?_⟩
    unfold Session.isRefused at hrefused
    split at hrefused
    · -- A client whose token was rejected was told so.
      rename_i hphase
      rw [hinv.authFailed hphase] at hok
      cases hok
    · assumption
    · cases hrefused

/-- The loop keeps the invariant through a session whose wait fits the ones before. -/
theorem Paced.finish {s : Retry} (hinv : Paced config S s)
    (hphase : s.phase = .connecting ∨ ∃ sid, s.phase = .session sid) {refused : Bool}
    {result : Except Error Unit} (hfirst : refused = true → result = .ok () →
      ∀ a, s.history.head? = some a → a.failed = false) :
    Paced config S (s.finish refused result) := by
  have hone : 1 ≤ maxBackoff := by decide
  -- A refusal that `runSession` reports as an error doubles the wait.
  have hbacksOff : RefusalsBackOff (s.finish refused result) := by
    unfold RefusalsBackOff Retry.finish
    cases refused with
    | false =>
      cases result with
      | ok => exact hinv.backsOff.cons_success rfl hone
      | error e => exact hinv.backsOff.cons_success rfl hinv.capped
    | true =>
      cases result with
      | ok => exact hinv.backsOff.cons_first Nat.one_pos hone (hfirst rfl rfl)
      | error e =>
        have hold := hinv.backsOff
        have hnext := hinv.next
        unfold RefusalsBackOff at hold
        cases hhistory : s.history with
        | nil =>
          rw [hhistory] at hold
          exact hold.cons_first hinv.positive hinv.capped nofun
        | cons b history =>
          rw [hhistory] at hold
          exact hold.cons_double hinv.positive ((hnext b (by rw [hhistory]; rfl)).2 hphase)
  have hpositive : 0 < (s.finish refused result).backoffSecs := by
    unfold Retry.finish
    cases result with
    | ok => exact Nat.one_pos
    | error e => exact hinv.positive
  have hcapped : (s.finish refused result).backoffSecs ≤ maxBackoff := by
    unfold Retry.finish
    cases result with
    | ok => exact hone
    | error e => exact hinv.capped
  refine ⟨hinv.server, hbacksOff, hpositive, hcapped, fun a ha => ⟨fun _ => ?_, fun h => ?_⟩⟩
  · obtain rfl := Option.some.inj ha
    rfl
  · rcases h with h | ⟨sid, h⟩ <;> cases h

/-- A step that meets the condition keeps the invariant. -/
theorem Paced.step {s s' : Retry} {l : RetryStep} (hinv : Paced config S s)
    (hwelcomed : WelcomedFirst s l) (h : retryStep config S auth s l = some s') :
    Paced config S s' := by
  unfold retryStep at h
  split at h
  · obtain ⟨server, hserver, rfl⟩ := Option.map_eq_some_iff.mp h
    exact ⟨hinv.server.step hserver, hinv.backsOff, hinv.positive, hinv.capped, hinv.next⟩
  · rename_i sid hphase
    obtain ⟨server, hserver, rfl⟩ := Option.map_eq_some_iff.mp h
    refine ⟨hinv.server.step hserver, hinv.backsOff, hinv.positive, hinv.capped,
      fun a ha => ⟨nofun, fun _ => ?_⟩⟩
    exact (hinv.next a ha).2 (.inl hphase)
  · rename_i hphase
    obtain rfl := Option.some.inj h
    exact hinv.finish (.inl hphase) nofun
  · rename_i received sid hphase
    obtain rfl := Option.some.inj h
    refine hinv.finish (.inr ⟨sid, hphase⟩) fun hrefused hok => ?_
    obtain ⟨rfl, hclosed⟩ := refused_of_runSession_ok hinv.server hrefused hok
    unfold WelcomedFirst at hwelcomed
    dsimp only at hwelcomed
    rw [hphase] at hwelcomed
    exact hwelcomed hclosed
  · rename_i hphase
    obtain rfl := Option.some.inj h
    have hpositive := hinv.positive
    have hcap : 0 < maxBackoff := by decide
    refine ⟨hinv.server, hinv.backsOff, ?_, Nat.min_le_right _ _,
      fun a ha => ⟨nofun, fun _ => ?_⟩⟩
    · dsimp only
      omega
    · -- The wait is over, and the next one is twice as long.
      have hsleep := (hinv.next a ha).1 hphase
      dsimp only
      rw [hsleep, Nat.mul_comm]
  · obtain rfl := Option.some.inj h
    refine ⟨hinv.server, hinv.backsOff, hinv.positive, hinv.capped, fun a _ => ⟨nofun, ?_⟩⟩
    rintro (h | ⟨sid, h⟩) <;> cases h
  · cases h

end ZoTunnel
