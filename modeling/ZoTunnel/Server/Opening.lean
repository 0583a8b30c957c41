import Mathlib.Data.List.Nodup
import ZoTunnel.Server.YamuxDriver

/-!
# The calls of `open_stream`

`YamuxHandle::open_stream` (`server.rs`): a call sends a command with the sender of a oneshot
channel, and waits for the stream that the driver replies with. Any number of calls share the
driver. The caller may be dropped while it waits, and the driver may end, or be aborted, with
commands in its channel.

A reply to a caller that is gone is dropped, with the stream in it. `streams_owned` says that a call
gets at most its own stream, that commands are answered in their order, that no stream is left
without an owner, and that no call hangs when the driver is over.
-/

namespace ZoTunnel

open Mux

/-- How far a call of `open_stream` is. -/
inductive OpenCall where
  | idle
  /-- It waits for room in the channel. -/
  | sending
  /-- It waits for the reply. -/
  | waiting
  /-- The reply is there, and has not been taken. -/
  | answered (reply : Except Error ℕ)
  | returned (result : Except Error ℕ)
  /-- The caller has dropped the stream. -/
  | finished
  /-- The call was dropped while it waited. -/
  | dropped
  deriving DecidableEq

/-- The stream that a call has, in its reply or as its result. -/
def OpenCall.stream : OpenCall → Option ℕ
  | .answered (.ok id) | .returned (.ok id) => some id
  | _ => none

/-- Whether the command of a call may be in the channel. -/
def OpenCall.entered : OpenCall → Bool
  | .idle | .sending => false
  | _ => true

/-- Whether a call is under way. -/
def OpenCall.pending : OpenCall → Bool
  | .sending | .waiting | .answered _ => true
  | _ => false

/-- A driver with the calls of its handle. -/
structure Opening where
  driver : YamuxDriver
  /-- Whether the task of the driver was aborted. -/
  aborted : Bool
  calls : ℕ → OpenCall
  /-- The commands that have been sent, and those that have been carried out. -/
  sent : List ℕ
  done : List ℕ

/-- A driver that has no commands yet. -/
def Opening.new (supportsHeartbeat : Bool) : Opening :=
  ⟨.new supportsHeartbeat, false, fun _ => .idle, [], []⟩

/-- Whether a phase is the end. -/
def DriverPhase.isEnded : DriverPhase → Bool
  | .ended _ => true
  | _ => false

/-- Whether the driver is over, and has dropped the channel with the commands in it. -/
def Opening.over (o : Opening) : Bool := o.aborted || o.driver.phase.isEnded

/-- Drop a stream that a request holds. -/
def YamuxDriver.dropStream (d : YamuxDriver) (id : ℕ) : YamuxDriver :=
  { d with conn := d.conn.push (.dropped id), held := d.held.erase id }

/-- Move a call on. -/
def Opening.setCall (o : Opening) (rid : ℕ) (call : OpenCall) : Opening :=
  { o with calls := Function.update o.calls rid call }

/-- `reply.send`: a result for a caller that is gone is dropped. -/
def Opening.answer (o : Opening) (rid : ℕ) (result : Except Error ℕ) : Opening :=
  let o := { o with done := o.done ++ [rid] }
  if o.calls rid = .waiting then o.setCall rid (.answered result)
  else
    match result with
    | .ok id => { o with driver := o.driver.dropStream id }
    | .error _ => o

/-- A step of a call, of the driver, or of a request that has a stream. -/
inductive OpeningStep where
  | call (rid : ℕ)
  /-- The command is sent, or the channel is closed. -/
  | send (rid : ℕ)
  /-- The call goes on after the wait for the reply. -/
  | receive (rid : ℕ)
  | drop (rid : ℕ)
  /-- A step of the driver, with the error of `poll_new_outbound`. -/
  | driver (l : DriverStep) (e : Error)
  /-- The connection is polled. -/
  | pollSend
  | pollReceive (frame : Frame)
  /-- `driver_task.abort()`. -/
  | abort
  /-- The request uses its stream. -/
  | write (rid : ℕ) (bytes : List UInt8)
  | read (rid : ℕ)
  | close (rid : ℕ)
  | finish (rid : ℕ)
  deriving DecidableEq, Repr

/-- One step. -/
def openingStep (K : ℕ) (o : Opening) (l : OpeningStep) : Option Opening :=
  match l with
  | .call rid => if o.calls rid = .idle then some (o.setCall rid .sending) else none
  | .send rid =>
    match o.calls rid with
    | .sending =>
      if o.over then some (o.setCall rid (.returned (.error "yamux driver gone")))
      else
        (proxyStep o.driver (.sendCommand rid)).map fun driver =>
          { o.setCall rid .waiting with driver, sent := o.sent ++ [rid] }
    | _ => none
  | .receive rid =>
    match o.calls rid with
    | .answered reply => some (o.setCall rid (.returned reply))
    | .waiting =>
      if o.over then some (o.setCall rid (.returned (.error "yamux driver dropped"))) else none
    | _ => none
  | .drop rid =>
    match o.calls rid with
    | .sending | .waiting | .answered (.error _) => some (o.setCall rid .dropped)
    | .answered (.ok id) =>
      some { o.setCall rid .dropped with driver := o.driver.dropStream id }
    | _ => none
  | .driver l e =>
    if o.aborted then none
    else
      (driverStep K o.driver l).map fun driver =>
        match l, o.driver.phase with
        | .opened true, .openStream rid =>
          { o with driver }.answer rid (.ok o.driver.conn.nextId)
        | .opened false, .openStream rid =>
          { o with driver }.answer rid (.error ("yamux open: " ++ e))
        | _, _ => { o with driver }
  | .pollSend =>
    if o.aborted then none else o.driver.send.map fun (_, driver) => { o with driver }
  | .pollReceive frame =>
    if o.aborted then none else (o.driver.receive frame).map fun driver => { o with driver }
  | .abort => some { o with aborted := true }
  | .write rid bytes =>
    match o.calls rid with
    | .returned (.ok id) =>
      (proxyStep o.driver (.write id bytes)).map fun driver => { o with driver }
    | _ => none
  | .read rid =>
    match o.calls rid with
    | .returned (.ok id) => (proxyStep o.driver (.read id)).map fun driver => { o with driver }
    | _ => none
  | .close rid =>
    match o.calls rid with
    | .returned (.ok id) => (proxyStep o.driver (.close id)).map fun driver => { o with driver }
    | _ => none
  | .finish rid =>
    match o.calls rid with
    | .returned (.ok id) =>
      some { o.setCall rid .finished with driver := o.driver.dropStream id }
    | _ => none

/-! ## The invariant -/

/-- The command that the driver carries out. -/
def YamuxDriver.serving (d : YamuxDriver) : List ℕ :=
  match d.phase with
  | .openStream rid => [rid]
  | _ => []

/-- What holds of the calls and the streams. -/
structure Opening.Sound (o : Opening) : Prop where
  /-- The commands are carried out in their order. -/
  fifo : o.sent = o.done ++ (o.driver.serving ++ o.driver.cmdRx)
  distinct : o.sent.Nodup
  entered : ∀ rid ∈ o.sent, (o.calls rid).entered = true
  waiting : ∀ rid, o.calls rid = .waiting → rid ∈ o.driver.serving ++ o.driver.cmdRx
  /-- The streams that requests hold are those that the calls have. -/
  held : ∀ id, id ∈ o.driver.held ↔ ∃ rid, (o.calls rid).stream = some id
  owner : ∀ rid rid' id, (o.calls rid).stream = some id → (o.calls rid').stream = some id →
    rid = rid'
  nodup : o.driver.held.Nodup
  opened : ∀ id ∈ o.driver.held, id < o.driver.conn.nextId
  /-- The stream of the heartbeat is none of them. -/
  heartbeat : ∀ id, o.driver.phase.heartbeatStream = some id →
    id < o.driver.conn.nextId ∧ id ∉ o.driver.held

/-- The invariant holds at the start. -/
theorem Opening.sound_new (supportsHeartbeat : Bool) : (Opening.new supportsHeartbeat).Sound where
  fifo := rfl
  distinct := .nil
  entered := nofun
  waiting := nofun
  held _ := ⟨nofun, nofun⟩
  owner := nofun
  nodup := .nil
  opened := nofun
  heartbeat := nofun

variable {o o' : Opening} {rid : ℕ} {call : OpenCall}

/-- A call other than the one that is moved on. -/
theorem Opening.setCall_of_ne {rid' : ℕ} (hne : rid' ≠ rid) :
    (o.setCall rid call).calls rid' = o.calls rid' := by
  unfold setCall
  exact Function.update_of_ne hne ..

/-- The call that is moved on. -/
theorem Opening.setCall_self : (o.setCall rid call).calls rid = call := by
  unfold setCall
  exact Function.update_self ..

/-- A call that keeps the stream that it has, or has none, may be moved on. -/
theorem Opening.Sound.setCall (h : o.Sound) (hstream : call.stream = (o.calls rid).stream)
    (hentered : call.entered = true ∨ (o.calls rid).entered = false) (hcall : call ≠ .waiting) :
    (o.setCall rid call).Sound := by
  have hstreams : ∀ rid', ((o.setCall rid call).calls rid').stream = (o.calls rid').stream := by
    intro rid'
    rcases eq_or_ne rid' rid with rfl | hne
    · rw [setCall_self, hstream]
    · rw [setCall_of_ne hne]
  refine { h with entered := fun rid' hmem => ?_, waiting := fun rid' hwait => ?_,
                  held := fun id => ?_, owner := fun rid' rid'' id hid hid' => ?_ }
  · have hold := h.entered rid' hmem
    rcases eq_or_ne rid' rid with rfl | hne
    · rw [setCall_self]
      rcases hentered with hentered | hentered
      · exact hentered
      · rw [hentered] at hold
        cases hold
    · rwa [setCall_of_ne hne]
  · rcases eq_or_ne rid' rid with rfl | hne
    · rw [setCall_self] at hwait
      exact absurd hwait hcall
    · rw [setCall_of_ne hne] at hwait
      exact h.waiting rid' hwait
  · simp only [hstreams]
    exact h.held id
  · rw [hstreams] at hid hid'
    exact h.owner rid' rid'' id hid hid'

/-- A call that loses its stream, which is dropped, may be moved on. -/
theorem Opening.Sound.release (h : o.Sound) {id : ℕ} (hrid : (o.calls rid).stream = some id)
    (hstream : call.stream = none) (hentered : call.entered = true) (hcall : call ≠ .waiting) :
    ({ o.setCall rid call with driver := o.driver.dropStream id } : Opening).Sound := by
  have hmem : ∀ id', id' ∈ o.driver.held.erase id ↔ id' ≠ id ∧ id' ∈ o.driver.held := fun id' =>
    h.nodup.mem_erase_iff
  have hstreams : ∀ rid' id', ((o.setCall rid call).calls rid').stream = some id' ↔
      rid' ≠ rid ∧ (o.calls rid').stream = some id' := by
    intro rid' id'
    rcases eq_or_ne rid' rid with rfl | hne
    · rw [setCall_self, hstream]
      simp
    · rw [setCall_of_ne hne]
      simp [hne]
  refine { fifo := h.fifo, distinct := h.distinct, entered := fun rid' hsent => ?_,
           waiting := fun rid' hwait => ?_, held := fun id' => ?_,
           owner := fun rid' rid'' id' hid hid' => ?_, nodup := h.nodup.erase id,
           opened := fun id' hid => h.opened id' ((hmem id').mp hid).2,
           heartbeat := fun id' hid => ?_ }
  · rcases eq_or_ne rid' rid with rfl | hne
    · show ((o.setCall rid' call).calls rid').entered = true
      rw [setCall_self, hentered]
    · show ((o.setCall rid call).calls rid').entered = true
      rw [setCall_of_ne hne]
      exact h.entered rid' hsent
  · change (o.setCall rid call).calls rid' = .waiting at hwait
    rcases eq_or_ne rid' rid with rfl | hne
    · rw [setCall_self] at hwait
      exact absurd hwait hcall
    · rw [setCall_of_ne hne] at hwait
      exact h.waiting rid' hwait
  · show id' ∈ o.driver.held.erase id ↔ ∃ rid', ((o.setCall rid call).calls rid').stream = some id'
    simp only [hstreams]
    rw [hmem, h.held]
    constructor
    · rintro ⟨hne, rid', hrid'⟩
      refine ⟨rid', ?_, hrid'⟩
      rintro rfl
      exact hne (Option.some.inj (hrid'.symm.trans hrid))
    · rintro ⟨rid', hne, hrid'⟩
      refine ⟨?_, rid', hrid'⟩
      rintro rfl
      exact hne (h.owner rid' rid id' hrid' hrid)
  · exact h.owner rid' rid'' id' ((hstreams rid' id').mp hid).2 ((hstreams rid'' id').mp hid').2
  · obtain ⟨hlt, hnot⟩ := h.heartbeat id' hid
    exact ⟨hlt, fun hheld => hnot ((hmem id').mp hheld).2⟩

/-- A step that leaves the commands and the streams of the requests may change the rest of the
driver. -/
theorem Opening.Sound.setDriver (h : o.Sound) {driver : YamuxDriver}
    (hcommands : driver.serving ++ driver.cmdRx = o.driver.serving ++ o.driver.cmdRx)
    (hheld : driver.held = o.driver.held) (hnext : o.driver.conn.nextId ≤ driver.conn.nextId)
    (hheartbeat : ∀ id, driver.phase.heartbeatStream = some id →
      o.driver.phase.heartbeatStream = some id ∨
        id = o.driver.conn.nextId ∧ id < driver.conn.nextId) :
    ({ o with driver } : Opening).Sound := by
  refine { h with fifo := ?_, waiting := ?_, held := ?_, nodup := ?_, opened := fun id hid => ?_,
                  heartbeat := fun id hid => ?_ }
  · dsimp only
    rw [hcommands]
    exact h.fifo
  · dsimp only
    rw [hcommands]
    exact h.waiting
  · dsimp only
    rw [hheld]
    exact h.held
  · dsimp only
    rw [hheld]
    exact h.nodup
  · dsimp only at hid ⊢
    rw [hheld] at hid
    exact (h.opened id hid).trans_le hnext
  · dsimp only
    rw [hheld]
    rcases hheartbeat id hid with hold | ⟨rfl, hlt⟩
    · exact ⟨(h.heartbeat id hold).1.trans_le hnext, (h.heartbeat id hold).2⟩
    · refine ⟨hlt, fun hmem => ?_⟩
      have := h.opened _ hmem
      omega

/-- The command that is carried out leaves the driver, when its call does not wait for it. -/
theorem Opening.Sound.carryOut (h : o.Sound) (hphase : o.driver.phase = .openStream rid)
    (hcall : o.calls rid ≠ .waiting) {conn : Conn} (hnext : o.driver.conn.nextId ≤ conn.nextId) :
    ({ o with
        driver := { o.driver with conn, phase := .selecting }
        done := o.done ++ [rid] } : Opening).Sound := by
  have hserving : o.driver.serving = [rid] := by
    unfold YamuxDriver.serving
    rw [hphase]
  refine { h with fifo := ?_, waiting := fun rid' hwait => ?_,
                  opened := fun id hid => (h.opened id hid).trans_le hnext,
                  heartbeat := nofun }
  · have hfifo := h.fifo
    rw [hserving] at hfifo
    rw [hfifo, List.append_assoc]
    rfl
  · have hmem := h.waiting rid' hwait
    rw [hserving] at hmem
    rcases List.mem_append.mp hmem with hmem | hmem
    · rw [List.mem_singleton.mp hmem] at hwait
      exact absurd hwait hcall
    · exact List.mem_append_right _ hmem

/-- A call that waits gets the stream that is opened for it. -/
theorem Opening.Sound.give (h : o.Sound) (hphase : o.driver.phase = .openStream rid)
    (hcall : o.calls rid = .waiting) :
    ({ o.setCall rid (.answered (.ok o.driver.conn.nextId)) with
        driver := { o.driver with
          conn := o.driver.conn.openStream, phase := .selecting
          held := o.driver.conn.nextId :: o.driver.held }
        done := o.done ++ [rid] } : Opening).Sound := by
  -- First without the stream: the call is answered, and its command is carried out.
  have hanswered : (o.setCall rid (.answered (.error ""))).Sound :=
    h.setCall (by rw [hcall]; rfl) (.inl rfl) nofun
  have hnext : o.driver.conn.nextId ≤ o.driver.conn.openStream.nextId := Nat.le_succ _
  have hcarried := hanswered.carryOut hphase (by rw [setCall_self]; nofun) hnext
  have hstreams : ∀ rid' id,
      ((o.setCall rid (.answered (.ok o.driver.conn.nextId))).calls rid').stream = some id ↔
        rid' = rid ∧ id = o.driver.conn.nextId ∨ (o.calls rid').stream = some id := by
    intro rid' id
    rcases eq_or_ne rid' rid with rfl | hne
    · rw [setCall_self, hcall]
      simp [OpenCall.stream, eq_comm]
    · rw [setCall_of_ne hne]
      simp [hne]
  have hnew : ∀ rid', (o.calls rid').stream ≠ some o.driver.conn.nextId := by
    intro rid' hrid'
    have := h.opened _ ((h.held _).mpr ⟨rid', hrid'⟩)
    omega
  refine { fifo := hcarried.fifo, distinct := h.distinct, entered := fun rid' hsent => ?_,
           waiting := fun rid' hwait => ?_, held := fun id => ?_,
           owner := fun rid' rid'' id hid hid' => ?_, nodup := ?_, opened := fun id hid => ?_,
           heartbeat := nofun }
  · show ((o.setCall rid (.answered (.ok o.driver.conn.nextId))).calls rid').entered = true
    rcases eq_or_ne rid' rid with rfl | hne
    · rw [setCall_self]
      rfl
    · rw [setCall_of_ne hne]
      exact h.entered rid' hsent
  · change (o.setCall rid _).calls rid' = .waiting at hwait
    rcases eq_or_ne rid' rid with rfl | hne
    · rw [setCall_self] at hwait
      cases hwait
    · refine hcarried.waiting rid' ?_
      rw [setCall_of_ne hne] at hwait
      show (o.setCall rid _).calls rid' = .waiting
      rw [setCall_of_ne hne, hwait]
  · show id ∈ o.driver.conn.nextId :: o.driver.held ↔
      ∃ rid', ((o.setCall rid (.answered (.ok o.driver.conn.nextId))).calls rid').stream = some id
    simp only [hstreams]
    rw [List.mem_cons, h.held]
    constructor
    · rintro (rfl | ⟨rid', hrid'⟩)
      · exact ⟨rid, .inl ⟨rfl, rfl⟩⟩
      · exact ⟨rid', .inr hrid'⟩
    · rintro ⟨rid', ⟨-, rfl⟩ | hrid'⟩
      · exact .inl rfl
      · exact .inr ⟨rid', hrid'⟩
  · rcases (hstreams rid' id).mp hid with ⟨rfl, rfl⟩ | hold
    · rcases (hstreams rid'' _).mp hid' with ⟨rfl, -⟩ | hold'
      · rfl
      · exact absurd hold' (hnew rid'')
    · rcases (hstreams rid'' id).mp hid' with ⟨rfl, rfl⟩ | hold'
      · exact absurd hold (hnew rid')
      · exact h.owner rid' rid'' id hold hold'
  · refine List.nodup_cons.mpr ⟨fun hmem => ?_, h.nodup⟩
    have := h.opened _ hmem
    omega
  · show id < o.driver.conn.nextId + 1
    rcases List.mem_cons.mp hid with rfl | hmem
    · omega
    · have := h.opened id hmem
      omega

/-- A call sends its command, and waits. -/
theorem Opening.Sound.send (h : o.Sound) (hcall : o.calls rid = .sending) {driver : YamuxDriver}
    (hsend : proxyStep o.driver (.sendCommand rid) = some driver) :
    ({ o.setCall rid .waiting with driver, sent := o.sent ++ [rid] } : Opening).Sound := by
  unfold proxyStep at hsend
  dsimp only at hsend
  split_ifs at hsend
  obtain rfl := Option.some.inj hsend
  have hnot : rid ∉ o.sent := by
    intro hmem
    have hentered := h.entered rid hmem
    rw [hcall] at hentered
    cases hentered
  have hstreams : ∀ rid', ((o.setCall rid .waiting).calls rid').stream = (o.calls rid').stream := by
    intro rid'
    rcases eq_or_ne rid' rid with rfl | hne
    · rw [setCall_self, hcall]
      rfl
    · rw [setCall_of_ne hne]
  refine { nodup := h.nodup, opened := h.opened, heartbeat := h.heartbeat, fifo := ?_,
           distinct := ?_, entered := fun rid' hmem => ?_, waiting := fun rid' hwait => ?_,
           held := fun id => ?_, owner := fun rid' rid'' id hid hid' => ?_ }
  · dsimp only
    rw [h.fifo]
    simp only [List.append_assoc]
    rfl
  · refine List.nodup_append.mpr ⟨h.distinct, List.nodup_singleton rid, ?_⟩
    rintro rid' hmem _ hnew rfl
    exact hnot (List.mem_singleton.mp hnew ▸ hmem)
  · show ((o.setCall rid .waiting).calls rid').entered = true
    rcases eq_or_ne rid' rid with rfl | hne
    · rw [setCall_self]
      rfl
    · rw [setCall_of_ne hne]
      rcases List.mem_append.mp hmem with hmem | hmem
      · exact h.entered rid' hmem
      · exact absurd (List.mem_singleton.mp hmem) hne
  · change (o.setCall rid .waiting).calls rid' = .waiting at hwait
    show rid' ∈ o.driver.serving ++ (o.driver.cmdRx ++ [rid])
    rw [← List.append_assoc]
    rcases eq_or_ne rid' rid with rfl | hne
    · exact List.mem_append_right _ (List.mem_singleton_self _)
    · rw [setCall_of_ne hne] at hwait
      exact List.mem_append_left _ (h.waiting rid' hwait)
  · show id ∈ o.driver.held ↔ ∃ rid', ((o.setCall rid .waiting).calls rid').stream = some id
    simp only [hstreams]
    exact h.held id
  · change ((o.setCall rid .waiting).calls rid').stream = some id at hid
    change ((o.setCall rid .waiting).calls rid'').stream = some id at hid'
    rw [hstreams] at hid hid'
    exact h.owner rid' rid'' id hid hid'

/-- The answer to an opened stream. -/
theorem Opening.Sound.answer_ok (h : o.Sound) (hphase : o.driver.phase = .openStream rid) :
    (({ o with
        driver := { o.driver with
          conn := o.driver.conn.openStream, phase := .selecting
          held := o.driver.conn.nextId :: o.driver.held } } : Opening).answer rid
      (.ok o.driver.conn.nextId)).Sound := by
  unfold answer
  dsimp only
  by_cases hcall : o.calls rid = .waiting
  · rw [if_pos hcall]
    exact h.give hphase hcall
  · -- The caller is gone, and the stream is dropped at once.
    rw [if_neg hcall]
    unfold YamuxDriver.dropStream
    dsimp only
    rw [List.erase_cons_head]
    exact h.carryOut hphase hcall (Nat.le_succ _)

/-- The answer to a stream that could not be opened. -/
theorem Opening.Sound.answer_error (h : o.Sound) (hphase : o.driver.phase = .openStream rid)
    (e : Error) :
    (({ o with driver := { o.driver with phase := .selecting } } : Opening).answer rid
      (.error e)).Sound := by
  unfold answer
  dsimp only
  by_cases hcall : o.calls rid = .waiting
  · rw [if_pos hcall]
    have hanswered : (o.setCall rid (.answered (.error e))).Sound :=
      h.setCall (by rw [hcall]; rfl) (.inl rfl) nofun
    exact hanswered.carryOut hphase (by rw [setCall_self]; nofun) le_rfl
  · rw [if_neg hcall]
    exact h.carryOut hphase hcall le_rfl

/-- The uses of a stream go to the connection, and open none. -/
theorem proxyStep_conn {d d' : YamuxDriver} {l : ProxyStep}
    (hl : (∃ id bytes, l = .write id bytes) ∨ (∃ id, l = .read id) ∨ ∃ id, l = .close id)
    (h : proxyStep d l = some d') :
    ∃ conn, d' = { d with conn } ∧ conn.nextId = d.conn.nextId := by
  unfold proxyStep at h
  rcases hl with ⟨id, bytes, rfl⟩ | ⟨id, rfl⟩ | ⟨id, rfl⟩
  · dsimp only at h
    split_ifs at h
    obtain rfl := Option.some.inj h
    exact ⟨_, rfl, rfl⟩
  · dsimp only at h
    split_ifs at h
    obtain ⟨⟨byte, conn⟩, hread, rfl⟩ := Option.map_eq_some_iff.mp h
    obtain ⟨stream, buffer, -, -, rfl⟩ := Conn.read_eq_some hread
    exact ⟨_, rfl, rfl⟩
  · dsimp only at h
    split_ifs at h
    obtain rfl := Option.some.inj h
    exact ⟨_, rfl, rfl⟩

/-- Polling the connection opens no stream of the driver. -/
theorem YamuxDriver.conn_send {d d' : YamuxDriver} {frame : Frame}
    (h : d.send = some (frame, d')) :
    ∃ conn, d' = { d with conn } ∧ conn.nextId = d.conn.nextId := by
  unfold send at h
  split_ifs at h
  obtain ⟨⟨frame', conn⟩, hsend, heq⟩ := Option.map_eq_some_iff.mp h
  obtain ⟨-, rfl⟩ := Prod.mk.inj heq
  exact ⟨conn, rfl, Conn.nextId_sendNext hsend⟩

/-- Polling the connection opens no stream of the driver. -/
theorem YamuxDriver.conn_receive {d d' : YamuxDriver} {frame : Frame}
    (h : d.receive frame = some d') :
    ∃ conn, d' = { d with conn } ∧ conn.nextId = d.conn.nextId := by
  have hnext := d.conn.nextId_receive frame
  unfold receive at h
  split_ifs at h
  split at h
  · rename_i conn id hreceive
    obtain rfl := Option.some.inj h
    rw [hreceive] at hnext
    exact ⟨_, rfl, hnext⟩
  · rename_i conn hreceive
    obtain rfl := Option.some.inj h
    rw [hreceive] at hnext
    exact ⟨_, rfl, hnext⟩

/-- A change of the connection that opens no stream keeps the invariant. -/
theorem Opening.Sound.setConn (h : o.Sound) {conn : Conn}
    (hnext : conn.nextId = o.driver.conn.nextId) :
    ({ o with driver := { o.driver with conn } } : Opening).Sound :=
  h.setDriver rfl rfl hnext.ge fun _ hid => .inl hid

/-- Dropping the stream of the heartbeat opens none. -/
theorem YamuxDriver.dropHeartbeat_eq (d : YamuxDriver) :
    ∃ conn, d.dropHeartbeat = { d with conn } ∧ conn.nextId = d.conn.nextId := by
  unfold dropHeartbeat
  split
  · exact ⟨_, rfl, rfl⟩
  · exact ⟨_, rfl, rfl⟩

/-- Every step of the driver keeps the invariant. -/
theorem Opening.Sound.driverStep {K : ℕ} (h : o.Sound) {l : DriverStep} {e : Error}
    (hstep : openingStep K o (.driver l e) = some o') : o'.Sound := by
  unfold openingStep at hstep
  dsimp only at hstep
  split_ifs at hstep
  obtain ⟨driver, hdriver, rfl⟩ := Option.map_eq_some_iff.mp hstep
  cases driverStep_cases hdriver with
  | opened rid hphase =>
    rw [hphase]
    exact h.answer_ok hphase
  | openFailed rid hphase =>
    rw [hphase]
    exact h.answer_error hphase _
  | recvCommand rid cmdRx hphase hcmd =>
    refine h.setDriver ?_ rfl le_rfl nofun
    unfold YamuxDriver.serving
    rw [hphase, hcmd]
    rfl
  | inboundError hphase | inboundClosed hphase | recvNone hphase | tick hphase =>
    refine h.setDriver ?_ rfl le_rfl nofun
    unfold YamuxDriver.serving
    rw [hphase]
  | heartbeatOpened hphase =>
    refine h.setDriver ?_ rfl (Nat.le_succ _) fun id hid => .inr ?_
    · unfold YamuxDriver.serving
      rw [hphase]
    · obtain rfl := Option.some.inj hid
      exact ⟨rfl, Nat.lt_succ_self _⟩
  | heartbeatWritten id hphase =>
    refine h.setDriver ?_ rfl le_rfl fun id' hid => .inl ?_
    · unfold YamuxDriver.serving
      rw [hphase]
    · rw [hphase]
      exact hid
  | heartbeatPong id byte conn hphase hread =>
    obtain ⟨stream, buffer, -, -, rfl⟩ := Conn.read_eq_some hread
    refine h.setDriver ?_ rfl le_rfl fun id' hid => .inl ?_
    · unfold YamuxDriver.serving
      rw [hphase]
    · rw [hphase]
      exact hid
  | heartbeatClosed id hphase =>
    obtain ⟨conn, hconn, hnext⟩ := YamuxDriver.dropHeartbeat_eq
      { o.driver with conn := o.driver.conn.push (.send (.fin id)) }
    unfold YamuxDriver.heartbeatOk
    rw [hconn]
    refine h.setDriver ?_ rfl hnext.ge nofun
    unfold YamuxDriver.serving
    rw [hphase]
  | heartbeatMissed hfails hphase =>
    obtain ⟨conn, hconn, hnext⟩ := o.driver.dropHeartbeat_eq
    have hserving : o.driver.serving = [] := by
      unfold YamuxDriver.serving
      rcases hphase with hphase | hphase
      · rw [hphase]
      · cases hopen : o.driver.phase with
        | openStream rid =>
          rw [hopen] at hphase
          exact absurd rfl hphase
        | _ => rfl
    have hmissed : ({ o with driver := o.driver.heartbeatMissed } : Opening).Sound := by
      unfold YamuxDriver.heartbeatMissed
      rw [hconn]
      refine h.setDriver ?_ rfl hnext.ge ?_
      · rw [hserving]
        unfold YamuxDriver.serving
        dsimp only
        split_ifs <;> rfl
      · dsimp only
        split_ifs <;> exact nofun
    split
    · cases hfails
    · cases hfails
    · exact hmissed

/-- Every step keeps the invariant. -/
theorem Opening.Sound.step {K : ℕ} (h : o.Sound) {l : OpeningStep}
    (hstep : openingStep K o l = some o') : o'.Sound := by
  cases l with
  | call rid =>
    unfold openingStep at hstep
    dsimp only at hstep
    split_ifs at hstep with hcall
    obtain rfl := Option.some.inj hstep
    exact h.setCall (by rw [hcall]; rfl) (.inr (by rw [hcall]; rfl)) nofun
  | send rid =>
    unfold openingStep at hstep
    dsimp only at hstep
    split at hstep
    · rename_i hcall
      split_ifs at hstep with hover
      · obtain rfl := Option.some.inj hstep
        exact h.setCall (by rw [hcall]; rfl) (.inl rfl) nofun
      · obtain ⟨driver, hdriver, rfl⟩ := Option.map_eq_some_iff.mp hstep
        exact h.send hcall hdriver
    · cases hstep
  | receive rid =>
    unfold openingStep at hstep
    dsimp only at hstep
    split at hstep
    · rename_i reply hcall
      obtain rfl := Option.some.inj hstep
      refine h.setCall ?_ (.inl rfl) nofun
      rw [hcall]
      cases reply <;> rfl
    · rename_i hcall
      split_ifs at hstep with hover
      obtain rfl := Option.some.inj hstep
      exact h.setCall (by rw [hcall]; rfl) (.inl rfl) nofun
    · cases hstep
  | drop rid =>
    unfold openingStep at hstep
    dsimp only at hstep
    split at hstep
    · rename_i hcall
      obtain rfl := Option.some.inj hstep
      exact h.setCall (by rw [hcall]; rfl) (.inl rfl) nofun
    · rename_i hcall
      obtain rfl := Option.some.inj hstep
      exact h.setCall (by rw [hcall]; rfl) (.inl rfl) nofun
    · rename_i e hcall
      obtain rfl := Option.some.inj hstep
      exact h.setCall (by rw [hcall]; rfl) (.inl rfl) nofun
    · rename_i id hcall
      obtain rfl := Option.some.inj hstep
      exact h.release (by rw [hcall]; rfl) rfl rfl nofun
    · cases hstep
  | driver l e => exact h.driverStep hstep
  | pollSend =>
    unfold openingStep at hstep
    dsimp only at hstep
    split_ifs at hstep
    obtain ⟨⟨frame, driver⟩, hsend, rfl⟩ := Option.map_eq_some_iff.mp hstep
    obtain ⟨conn, rfl, hnext⟩ := YamuxDriver.conn_send hsend
    exact h.setConn hnext
  | pollReceive frame =>
    unfold openingStep at hstep
    dsimp only at hstep
    split_ifs at hstep
    obtain ⟨driver, hreceive, rfl⟩ := Option.map_eq_some_iff.mp hstep
    obtain ⟨conn, rfl, hnext⟩ := YamuxDriver.conn_receive hreceive
    exact h.setConn hnext
  | abort =>
    obtain rfl := Option.some.inj hstep
    exact { h with }
  | write rid bytes =>
    unfold openingStep at hstep
    dsimp only at hstep
    split at hstep
    · obtain ⟨driver, hproxy, rfl⟩ := Option.map_eq_some_iff.mp hstep
      obtain ⟨conn, rfl, hnext⟩ := proxyStep_conn (.inl ⟨_, _, rfl⟩) hproxy
      exact h.setConn hnext
    · cases hstep
  | read rid =>
    unfold openingStep at hstep
    dsimp only at hstep
    split at hstep
    · obtain ⟨driver, hproxy, rfl⟩ := Option.map_eq_some_iff.mp hstep
      obtain ⟨conn, rfl, hnext⟩ := proxyStep_conn (.inr (.inl ⟨_, rfl⟩)) hproxy
      exact h.setConn hnext
    · cases hstep
  | close rid =>
    unfold openingStep at hstep
    dsimp only at hstep
    split at hstep
    · obtain ⟨driver, hproxy, rfl⟩ := Option.map_eq_some_iff.mp hstep
      obtain ⟨conn, rfl, hnext⟩ := proxyStep_conn (.inr (.inr ⟨_, rfl⟩)) hproxy
      exact h.setConn hnext
    · cases hstep
  | finish rid =>
    unfold openingStep at hstep
    dsimp only at hstep
    split at hstep
    · rename_i id hcall
      obtain rfl := Option.some.inj hstep
      exact h.release (by rw [hcall]; rfl) rfl rfl nofun
    · cases hstep

/-! ## The streams of the connection -/

namespace YamuxDriver

/-- The stream is held by a request or by the heartbeat, or the connection is to hear that it was
dropped. -/
def Owns (d : YamuxDriver) (id : ℕ) : Prop :=
  id ∈ d.held ∨ d.phase.heartbeatStream = some id ∨ .dropped id ∈ d.conn.commands

/-- No stream of the connection is without an owner. -/
def Owned (d : YamuxDriver) : Prop := ∀ id, (d.conn.streams id).isSome = true → d.Owns id

variable {d d' : YamuxDriver}

/-- A step that has an owner for each new stream, and for each that was owned, keeps it so. -/
theorem Owned.mono (h : d.Owned)
    (hstreams : ∀ id, (d'.conn.streams id).isSome = true →
      (d.conn.streams id).isSome = true ∨ d'.Owns id)
    (howns : ∀ id, d.Owns id → d'.Owns id) : d'.Owned := by
  intro id hid
  rcases hstreams id hid with hold | hnew
  · exact howns id (h id hold)
  · exact hnew

/-- A command to the connection takes no stream away from its owner. -/
theorem Owned.push (h : d.Owned) (command : Command) :
    ({ d with conn := d.conn.push command } : YamuxDriver).Owned :=
  h.mono (fun _ hid => .inl hid) fun _ howns =>
    howns.imp_right fun hrest => hrest.imp_right (List.mem_append_left _)

/-- A stream that is read keeps its owner. -/
theorem Owned.read (h : d.Owned) {id : ℕ} {byte : UInt8} {conn : Conn}
    (hread : d.conn.read id = some (byte, conn)) : ({ d with conn } : YamuxDriver).Owned := by
  obtain ⟨hsome, hcommands⟩ := Conn.isSome_read hread
  refine h.mono (fun id' hid => .inl ?_) fun id' howns => ?_
  · rwa [← hsome]
  · unfold Owns
    dsimp only
    rwa [hcommands]

/-- The connection is told of a stream that a request drops. -/
theorem Owned.dropStream (h : d.Owned) (id : ℕ) : (d.dropStream id).Owned := by
  refine h.mono (fun _ hid => .inl hid) fun id' howns => ?_
  unfold YamuxDriver.dropStream Owns
  rcases howns with hheld | hheartbeat | hdropped
  · rcases eq_or_ne id' id with rfl | hne
    · exact .inr (.inr (List.mem_append_right _ (List.mem_singleton_self _)))
    · exact .inl ((List.mem_erase_of_ne hne).mpr hheld)
  · exact .inr (.inl hheartbeat)
  · exact .inr (.inr (List.mem_append_left _ hdropped))

/-- The connection is told of the heartbeat's stream before the driver goes on. -/
theorem Owned.dropHeartbeat (h : d.Owned) (missedHeartbeats : ℕ) (phase : DriverPhase) :
    ({ d.dropHeartbeat with missedHeartbeats, phase } : YamuxDriver).Owned := by
  unfold YamuxDriver.dropHeartbeat
  cases hphase : d.phase.heartbeatStream with
  | none =>
    refine h.mono (fun _ hid => .inl hid) fun id howns => ?_
    unfold Owns at howns
    rw [hphase] at howns
    rcases howns with hheld | hheartbeat | hdropped
    · exact .inl hheld
    · cases hheartbeat
    · exact .inr (.inr hdropped)
  | some id =>
    refine h.mono (fun _ hid => .inl hid) fun id' howns => ?_
    unfold Owns at howns
    rw [hphase] at howns
    rcases howns with hheld | hheartbeat | hdropped
    · exact .inl hheld
    · obtain rfl := Option.some.inj hheartbeat
      exact .inr (.inr (List.mem_append_right _ (List.mem_singleton_self _)))
    · exact .inr (.inr (List.mem_append_left _ hdropped))

/-- A driver that waits for no heartbeat may change its phase and its commands. -/
theorem Owned.setPhase (h : d.Owned) (hphase : d.phase.heartbeatStream = none)
    (phase : DriverPhase) (cmdRx : List ℕ) : ({ d with phase, cmdRx } : YamuxDriver).Owned := by
  refine h.mono (fun _ hid => .inl hid) fun id howns => ?_
  rcases howns with hheld | hheartbeat | hdropped
  · exact .inl hheld
  · rw [hphase] at hheartbeat
    cases hheartbeat
  · exact .inr (.inr hdropped)

/-- A stream that is opened has an owner when the request or the heartbeat holds it. -/
theorem Owned.openStream (h : d.Owned) (hphase : d.phase.heartbeatStream = none)
    (hconn : d'.conn = d.conn.openStream) (hheld : ∀ id ∈ d.held, id ∈ d'.held)
    (hnew : d'.Owns d.conn.nextId) : d'.Owned := by
  refine h.mono (fun id hid => ?_) fun id howns => ?_
  · rw [hconn] at hid
    rcases eq_or_ne id d.conn.nextId with rfl | hne
    · exact .inr hnew
    · refine .inl ?_
      change (Function.update d.conn.streams d.conn.nextId _ id).isSome = true at hid
      rwa [Function.update_of_ne hne] at hid
  · rcases howns with hold | hheartbeat | hdropped
    · exact .inl (hheld id hold)
    · rw [hphase] at hheartbeat
      cases hheartbeat
    · refine .inr (.inr ?_)
      rw [hconn]
      exact List.mem_append_left _ hdropped

/-- Every step of the driver leaves each stream with an owner. -/
theorem Owned.driverStep {K : ℕ} {l : DriverStep} (h : d.Owned)
    (hstep : driverStep K d l = some d') : d'.Owned := by
  cases driverStep_cases hstep with
  | inboundError hphase | inboundClosed hphase | recvNone hphase | tick hphase
  | openFailed _ hphase | recvCommand _ _ hphase =>
    exact h.setPhase (by rw [hphase]; rfl) _ _
  | opened reply hphase =>
    refine h.openStream (by rw [hphase]; rfl) rfl (fun _ => List.mem_cons_of_mem _) ?_
    exact .inl List.mem_cons_self
  | heartbeatOpened hphase =>
    exact h.openStream (by rw [hphase]; rfl) rfl (fun _ hid => hid) (.inr (.inl rfl))
  | heartbeatWritten id hphase =>
    refine (h.push (.send (.data id [streamTypeHeartbeat]))).mono (fun _ hid => .inl hid)
      fun id' howns => ?_
    unfold Owns at howns ⊢
    rwa [hphase] at howns
  | heartbeatPong id byte conn hphase hread =>
    refine (h.read hread).mono (fun _ hid => .inl hid) fun id' howns => ?_
    unfold Owns at howns ⊢
    rwa [hphase] at howns
  | heartbeatClosed id hphase => exact (h.push (.send (.fin id))).dropHeartbeat 0 _
  | heartbeatMissed hfails hphase => exact h.dropHeartbeat _ _

/-- So does every use of a stream. -/
theorem Owned.proxyStep {l : ProxyStep} (h : d.Owned) (hstep : proxyStep d l = some d') :
    d'.Owned := by
  unfold ZoTunnel.proxyStep at hstep
  cases l with
  | sendCommand reply =>
    dsimp only at hstep
    split_ifs at hstep
    obtain rfl := Option.some.inj hstep
    exact h
  | write id bytes | close id =>
    dsimp only at hstep
    split_ifs at hstep
    obtain rfl := Option.some.inj hstep
    exact h.push _
  | read id =>
    dsimp only at hstep
    split_ifs at hstep
    obtain ⟨⟨byte, conn⟩, hread, rfl⟩ := Option.map_eq_some_iff.mp hstep
    exact h.read hread
  | drop id =>
    dsimp only at hstep
    split_ifs at hstep
    obtain rfl := Option.some.inj hstep
    exact h.dropStream id

/-- A stream leaves the connection when this has heard of the drop. -/
theorem Owned.send (h : d.Owned) {frame : Frame} (hsend : d.send = some (frame, d')) :
    d'.Owned := by
  unfold YamuxDriver.send at hsend
  split_ifs at hsend
  obtain ⟨⟨frame', conn⟩, hnext, heq⟩ := Option.map_eq_some_iff.mp hsend
  obtain ⟨-, rfl⟩ := Prod.mk.inj heq
  intro id hid
  obtain ⟨hold, hdropped⟩ := Conn.isSome_sendNext hnext hid
  exact (h id hold).imp_right fun hrest => hrest.imp_right hdropped

/-- A stream that the client opens is dropped at once. -/
theorem Owned.receive (h : d.Owned) {frame : Frame} (hreceive : d.receive frame = some d') :
    d'.Owned := by
  have hcommands := d.conn.commands_receive frame
  have hsome := @Conn.isSome_receive d.conn frame
  unfold YamuxDriver.receive at hreceive
  split_ifs at hreceive
  split at hreceive
  · rename_i conn id hconn
    obtain rfl := Option.some.inj hreceive
    rw [hconn] at hcommands hsome
    refine h.mono (fun id' hid => (hsome hid).imp_right fun heq => ?_) fun id' howns => ?_
    · obtain rfl := Option.some.inj heq
      exact .inr (.inr (List.mem_append_right _ (List.mem_singleton_self _)))
    · refine howns.imp_right fun hrest => hrest.imp_right fun hdropped => ?_
      rw [← hcommands] at hdropped
      exact List.mem_append_left _ hdropped
  · rename_i conn hconn
    obtain rfl := Option.some.inj hreceive
    rw [hconn] at hcommands hsome
    refine h.mono (fun id' hid => .inl ((hsome hid).resolve_right nofun)) fun id' howns => ?_
    refine howns.imp_right fun hrest => hrest.imp_right fun hdropped => ?_
    rw [← hcommands] at hdropped
    exact hdropped

end YamuxDriver

/-- A reply leaves each stream with an owner. -/
theorem Opening.owned_answer (h : o.driver.Owned) (rid : ℕ) (result : Except Error ℕ) :
    (o.answer rid result).driver.Owned := by
  unfold answer
  dsimp only
  split_ifs
  · exact h
  · cases result with
    | ok id => exact h.dropStream id
    | error e => exact h

/-- Every step leaves each stream with an owner. -/
theorem Opening.owned_step {K : ℕ} {l : OpeningStep} (h : o.driver.Owned)
    (hstep : openingStep K o l = some o') : o'.driver.Owned := by
  unfold openingStep at hstep
  cases l with
  | call rid =>
    dsimp only at hstep
    split_ifs at hstep
    obtain rfl := Option.some.inj hstep
    exact h
  | send rid =>
    dsimp only at hstep
    split at hstep
    · split_ifs at hstep
      · obtain rfl := Option.some.inj hstep
        exact h
      · obtain ⟨driver, hdriver, rfl⟩ := Option.map_eq_some_iff.mp hstep
        exact h.proxyStep hdriver
    · cases hstep
  | receive rid =>
    dsimp only at hstep
    split at hstep
    · obtain rfl := Option.some.inj hstep
      exact h
    · split_ifs at hstep
      obtain rfl := Option.some.inj hstep
      exact h
    · cases hstep
  | drop rid =>
    dsimp only at hstep
    split at hstep
    · obtain rfl := Option.some.inj hstep
      exact h
    · obtain rfl := Option.some.inj hstep
      exact h
    · obtain rfl := Option.some.inj hstep
      exact h
    · obtain rfl := Option.some.inj hstep
      exact h.dropStream _
    · cases hstep
  | driver l e =>
    dsimp only at hstep
    split_ifs at hstep
    obtain ⟨driver, hdriver, rfl⟩ := Option.map_eq_some_iff.mp hstep
    have howned := h.driverStep hdriver
    split
    · exact owned_answer howned _ _
    · exact owned_answer howned _ _
    · exact howned
  | pollSend =>
    dsimp only at hstep
    split_ifs at hstep
    obtain ⟨⟨frame, driver⟩, hsend, rfl⟩ := Option.map_eq_some_iff.mp hstep
    exact h.send hsend
  | pollReceive frame =>
    dsimp only at hstep
    split_ifs at hstep
    obtain ⟨driver, hreceive, rfl⟩ := Option.map_eq_some_iff.mp hstep
    exact h.receive hreceive
  | abort =>
    obtain rfl := Option.some.inj hstep
    exact h
  | write rid | read rid | close rid =>
    dsimp only at hstep
    split at hstep
    · obtain ⟨driver, hproxy, rfl⟩ := Option.map_eq_some_iff.mp hstep
      exact h.proxyStep hproxy
    · cases hstep
  | finish rid =>
    dsimp only at hstep
    split at hstep
    · obtain rfl := Option.some.inj hstep
      exact h.dropStream _
    · cases hstep

/-! ## Whole runs -/

/-- What the callers of `open_stream` can rely on. -/
structure Opening.Orderly (K : ℕ) (o : Opening) : Prop where
  /-- Commands are carried out in the order in which they were sent, each once. -/
  fifo : o.done <+: o.sent ∧ o.sent.Nodup
  /-- A stream that is held has one owner, and a call that has a stream holds it. -/
  owned : ∀ id, id ∈ o.driver.held → ∃! rid, (o.calls rid).stream = some id
  holds : ∀ rid id, (o.calls rid).stream = some id → id ∈ o.driver.held
  /-- The heartbeat uses a stream of its own. -/
  heartbeat : ∀ id, o.driver.phase.heartbeatStream = some id → id ∉ o.driver.held
  /-- Every stream of the connection is held by a call or the heartbeat, or on its way to be
  closed. -/
  streams : ∀ id, (o.driver.conn.streams id).isSome = true →
    (∃ rid, (o.calls rid).stream = some id) ∨ o.driver.phase.heartbeatStream = some id ∨
      .dropped id ∈ o.driver.conn.commands
  /-- The command of a call that waits is on its way, or carried out at the moment. -/
  waits : ∀ rid, o.calls rid = .waiting → rid ∈ o.driver.serving ++ o.driver.cmdRx
  /-- When the driver is over, every call that is under way can return. -/
  returns : o.over = true → ∀ rid, (o.calls rid).pending = true →
    ∃ l o' result, openingStep K o l = some o' ∧ o'.calls rid = .returned result

/-- The callers can rely on the invariant. -/
theorem Opening.Sound.orderly (h : o.Sound) (howned : o.driver.Owned) (K : ℕ) : o.Orderly K := by
  refine ⟨⟨⟨_, h.fifo.symm⟩, h.distinct⟩, fun id hid => ?_, fun rid id hrid => ?_, fun id hid => ?_,
    fun id hid => (howned id hid).imp_left (h.held id).mp, h.waiting,
    fun hover rid hpending => ?_⟩
  · obtain ⟨rid, hrid⟩ := (h.held id).mp hid
    exact ⟨rid, hrid, fun rid' hrid' => h.owner rid' rid id hrid' hrid⟩
  · exact (h.held id).mpr ⟨rid, hrid⟩
  · exact (h.heartbeat id hid).2
  · cases hcall : o.calls rid with
    | sending =>
      refine ⟨.send rid, o.setCall rid (.returned (.error "yamux driver gone")), _, ?_,
        setCall_self⟩
      unfold openingStep
      dsimp only
      rw [hcall]
      exact if_pos hover
    | waiting =>
      refine ⟨.receive rid, o.setCall rid (.returned (.error "yamux driver dropped")), _, ?_,
        setCall_self⟩
      unfold openingStep
      dsimp only
      rw [hcall]
      exact if_pos hover
    | answered reply =>
      refine ⟨.receive rid, o.setCall rid (.returned reply), reply, ?_, setCall_self⟩
      unfold openingStep
      dsimp only
      rw [hcall]
    | _ =>
      rw [hcall] at hpending
      cases hpending

/-- Along every interleaving of the calls, the driver, the connection and the requests, and wherever
a caller or the driver goes away, each stream has one owner, and no call hangs for good. -/
theorem streams_owned (K : ℕ) (supportsHeartbeat : Bool) (labels : List OpeningStep) :
    Transition.Visits (openingStep K) (Opening.Orderly K) (.new supportsHeartbeat) labels := by
  have hsound : Transition.Visits (openingStep K) (fun o => o.Sound ∧ o.driver.Owned)
      (.new supportsHeartbeat) labels :=
    Transition.visits_of_invariant
      (fun _ _ _ h hstep => ⟨h.1.step hstep, Opening.owned_step h.2 hstep⟩)
      ⟨Opening.sound_new supportsHeartbeat, nofun⟩ labels
  exact hsound.mono fun o h => h.1.orderly h.2 K

end ZoTunnel
