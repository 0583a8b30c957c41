import ZoTunnel.Client.Status
import ZoTunnel.Lib.Preamble
import ZoTunnel.Protocol.Chunks
import ZoTunnel.Server.Session

/-!
# The handshake of a session

Both sides of a control connection: `run_session_with_status` in `client.rs` and `handle_client` in
`server.rs`. The client writes an `AuthReq` and reads the `AuthRes`, and both go over to yamux on
the same connection. Writes and reads take the bytes that they get to, so that every message and
everything that follows it comes in chunks of any sizes, and either side may lose the connection at
any point.

Yamux is only what it writes and reads here. `handshake_agrees` says that the sides agree on the
session, and that each yamux reads exactly what the other has written: the handshake takes none of
its bytes, and leaves none of its own.
-/

namespace ZoTunnel

open Preamble

/-- The response of the server to a request. -/
def response (config : ServerConfig) (req : AuthReq) : AuthRes :=
  if config.validateToken req.token then welcome config req.clientId else rejection

/-- Where the client stands. -/
inductive ClientSide where
  /-- It writes the rest of the frame of the `AuthReq`. -/
  | writing (left : List UInt8)
  /-- It has read these bytes of the `AuthRes`. -/
  | reading (got : List UInt8)
  /-- It runs yamux on the connection, and shows this route. -/
  | muxing (route : String)
  /-- It has returned an error of its own. -/
  | failed (message : Error)
  /-- The connection has ended or failed, or the task was cancelled. -/
  | lost
  deriving DecidableEq, Repr

/-- Where the server stands. -/
inductive ServerSide where
  /-- It has read these bytes of the `AuthReq`. -/
  | reading (got : List UInt8)
  | validating (auth : AuthReq)
  /-- It writes the rest of the frame of the `AuthRes`. -/
  | writing (valid : Bool) (auth : AuthReq) (left : List UInt8)
  /-- It runs yamux on the connection. -/
  | muxing (clientId : String) (supportsHeartbeat : Bool)
  /-- It has ended the session by itself. -/
  | closed (outcome : Outcome)
  /-- The connection has ended or failed, or the session is over. -/
  | lost
  deriving DecidableEq, Repr

/-- A control connection. -/
structure Handshake where
  client : ClientSide
  server : ServerSide
  /-- From the client to the server. -/
  up : Channel
  /-- From the server to the client. -/
  down : Channel
  deriving DecidableEq, Repr

variable (S : Serde) (config : ServerConfig) (debug : Message → String) (req : AuthReq)

/-- The client has a connection, and is about to write the `AuthReq`. -/
def Handshake.new : Handshake :=
  ⟨match frameBytes S (.authReq req) with
    | .ok buf => .writing buf
    | .error e => .failed e, .reading [], .new, .new⟩

/-- What the client does when it has read these bytes. -/
def ClientSide.afterRead (got : List UInt8) : ClientSide :=
  match progress S got with
  | .wants _ _ => .reading got
  | .done (.ok (.authRes res)) =>
    if res.success then .muxing res.route else .failed ("Authentication failed: " ++ res.message)
  | .done (.ok other) => .failed ("Expected AuthRes, got " ++ debug other)
  | .done (.error _) => .failed "read auth response"

/-- What the server does when it has read these bytes. -/
def ServerSide.afterRead (got : List UInt8) : ServerSide :=
  match progress S got with
  | .wants _ _ => .reading got
  | .done (.ok (.authReq auth)) => .validating auth
  | .done (.ok _) => .closed .notAuthReq
  | .done (.error _) => .closed .readError

/-- What the client does when this is left to write. -/
def ClientSide.afterWrite (left : List UInt8) : ClientSide :=
  if left = [] then .reading [] else .writing left

/-- What the server does when this is left to write. -/
def ServerSide.afterWrite (valid : Bool) (auth : AuthReq) (left : List UInt8) : ServerSide :=
  if left = [] then
    if valid then .muxing auth.clientId auth.supportsHeartbeat else .closed .authFailed
  else .writing valid auth left

/-- How many bytes a side asks for in one read. -/
def wanted (got : List UInt8) : ℕ :=
  match progress S got with
  | .wants n _ => n
  | .done _ => 0

/-- A step of one of the sides. A number is that of the bytes that a write or a read gets to. -/
inductive HandshakeStep where
  | clientWrite (k : ℕ)
  | clientRead (k : ℕ)
  /-- Yamux writes, or reads. -/
  | clientMux (bytes : List UInt8)
  | clientDemux (k : ℕ)
  | clientLost
  | serverRead (k : ℕ)
  | serverTimeout
  | serverValidate
  | serverWrite (k : ℕ)
  | serverMux (bytes : List UInt8)
  | serverDemux (k : ℕ)
  | serverLost
  deriving DecidableEq, Repr

/-- One step of the handshake. -/
def handshakeStep (h : Handshake) (l : HandshakeStep) : Option Handshake :=
  match l with
  | .clientWrite k =>
    match h.client with
    | .writing left =>
      if 0 < k ∧ k ≤ left.length then
        some { h with client := .afterWrite (left.drop k), up := h.up.write (left.take k) }
      else none
    | _ => none
  | .clientRead k =>
    match h.client with
    | .reading got =>
      if 0 < k ∧ k ≤ wanted S got ∧ k ≤ h.down.queue.length then
        some { h with
          client := .afterRead S debug (got ++ h.down.queue.take k), down := h.down.read k }
      else none
    | _ => none
  | .clientMux bytes =>
    match h.client with
    | .muxing _ => some { h with up := h.up.stream bytes }
    | _ => none
  | .clientDemux k =>
    match h.client with
    | .muxing _ => some { h with down := h.down.receive k }
    | _ => none
  | .clientLost => some { h with client := .lost }
  | .serverRead k =>
    match h.server with
    | .reading got =>
      if 0 < k ∧ k ≤ wanted S got ∧ k ≤ h.up.queue.length then
        some { h with server := .afterRead S (got ++ h.up.queue.take k), up := h.up.read k }
      else none
    | _ => none
  | .serverTimeout =>
    match h.server with
    | .reading _ => some { h with server := .closed .authTimeout }
    | _ => none
  | .serverValidate =>
    match h.server with
    | .validating auth =>
      match frameBytes S (.authRes (response config auth)) with
      | .ok buf => some { h with server := .writing (config.validateToken auth.token) auth buf }
      | .error _ => some { h with server := .closed .writeError }
    | _ => none
  | .serverWrite k =>
    match h.server with
    | .writing valid auth left =>
      if 0 < k ∧ k ≤ left.length then
        some { h with
          server := .afterWrite valid auth (left.drop k), down := h.down.write (left.take k) }
      else none
    | _ => none
  | .serverMux bytes =>
    match h.server with
    | .muxing _ _ => some { h with down := h.down.stream bytes }
    | _ => none
  | .serverDemux k =>
    match h.server with
    | .muxing _ _ => some { h with up := h.up.receive k }
    | _ => none
  | .serverLost => some { h with server := .lost }

/-! ## Agreement -/

/-- What holds of a control connection, at any point of the handshake and behind it. -/
structure Handshake.Agrees (h : Handshake) : Prop where
  /-- The client shows the route of its own id, and only if its token is valid. -/
  connected : ∀ route, h.client = .muxing route → config.validateToken req.token = true ∧
    route = "http://" ++ (req.clientId ++ "." ++ config.domain)
  /-- The server has the id that the client sent. -/
  accepted : ∀ clientId supportsHeartbeat, h.server = .muxing clientId supportsHeartbeat →
    config.validateToken req.token = true ∧ clientId = req.clientId ∧
      supportsHeartbeat = req.supportsHeartbeat
  /-- The client fails by itself only when its token is not valid. -/
  failed : ∀ message, h.client = .failed message → config.validateToken req.token = false ∧
    message = "Authentication failed: Invalid token"
  /-- The server ends the session by itself only when the client is slow or its token is not
  valid. -/
  closed : ∀ outcome, h.server = .closed outcome → outcome = .authTimeout ∨
    config.validateToken req.token = false ∧ outcome = .authFailed
  /-- What the client's yamux has read and what is on its way is what the server's has written. -/
  down : ∀ route, h.client = .muxing route → h.down.received ++ h.down.queue = h.down.streamed
  up : ∀ clientId supportsHeartbeat, h.server = .muxing clientId supportsHeartbeat →
    h.up.received ++ h.up.queue = h.up.streamed

/-- What holds of the client's side, when the frames of the messages are these. -/
def ClientSide.Holds (reqFrame resFrame : List UInt8) (up down : Channel) : ClientSide → Prop
  | .writing left => up.Writing reqFrame left ∧ down.Reading []
  | .reading got => up.Written reqFrame ∧ up.streamed = [] ∧ down.Reading got ∧ NotPast got
  | .muxing route => up.Written reqFrame ∧ down.Read resFrame ∧
    config.validateToken req.token = true ∧
      route = "http://" ++ (req.clientId ++ "." ++ config.domain)
  | .failed message => up.Writes reqFrame ∧ config.validateToken req.token = false ∧
    message = "Authentication failed: Invalid token"
  | .lost => up.Writes reqFrame

/-- What holds of the server's side. -/
def ServerSide.Holds (reqFrame resFrame : List UInt8) (up down : Channel) : ServerSide → Prop
  | .reading got => down.Writing resFrame resFrame ∧ up.Reading got ∧ NotPast got
  | .validating auth => down.Writing resFrame resFrame ∧ up.Read reqFrame ∧ auth = req
  | .writing valid auth left => down.Writing resFrame left ∧ up.Read reqFrame ∧ auth = req ∧
    valid = config.validateToken req.token
  | .muxing clientId supportsHeartbeat => down.Written resFrame ∧ up.Read reqFrame ∧
    config.validateToken req.token = true ∧ clientId = req.clientId ∧
      supportsHeartbeat = req.supportsHeartbeat
  | .closed outcome => down.Writes resFrame ∧ (outcome = .authTimeout ∨
    config.validateToken req.token = false ∧ outcome = .authFailed)
  | .lost => down.Writes resFrame

/-- The invariant of the handshake. -/
structure Handshake.Inv (reqFrame resFrame : List UInt8) (h : Handshake) : Prop where
  upFifo : h.up.Fifo
  downFifo : h.down.Fifo
  client : h.client.Holds config req reqFrame resFrame h.up h.down
  server : h.server.Holds config req reqFrame resFrame h.up h.down

variable {S config debug req}

/-- Reading no more than is wanted stays within what is asked for. -/
theorem NotPast.append_of_wanted {got more : List UInt8} (h : NotPast got)
    (hmore : more.length ≤ wanted S got) : NotPast (got ++ more) := by
  unfold wanted at hmore
  cases hreading : progress S got with
  | wants n atEnd =>
    rw [hreading] at hmore
    exact NotPast.append hreading hmore
  | done result =>
    rw [hreading] at hmore
    rw [List.length_eq_zero_iff.mp (Nat.le_zero.mp hmore), List.append_nil]
    exact h

/-- A side that has read a message has read the frame that was sent, and nothing else. -/
theorem read_frame (hS : S.Lawful) {msg : Message} {payload : List UInt8}
    (hpayload : msg.encodePayload S = .ok payload) (hlen : payload.length ≤ maxPayloadSize.toNat)
    {c : Channel} (hfifo : c.Fifo) (hwrites : c.Writes (frame msg.msgType payload))
    (hgot : NotPast c.got) {result : Except Error Message}
    (hdone : progress S c.got = .done result) :
    result = .ok msg ∧ c.got = frame msg.msgType payload := by
  obtain ⟨left, streamed, happend⟩ := hwrites.exists_append hfifo
  -- The stream reads as the message by its frame, and as the result by what has been read.
  have hread := readMessage_of_done hgot hdone (c.queue ++ left)
  rw [happend, readMessage_frame hS hpayload hlen] at hread
  cases result with
  | error e => cases hread
  | ok m =>
    obtain ⟨rfl, hrest⟩ := Prod.mk.inj (Except.ok.inj hread)
    rw [← hrest] at happend
    exact ⟨rfl, List.append_cancel_right happend⟩

/-- A message that fits has a frame. -/
theorem frameBytes_of_le {msg : Message} {payload : List UInt8}
    (hpayload : msg.encodePayload S = .ok payload)
    (hlen : payload.length ≤ maxPayloadSize.toNat) :
    frameBytes S msg = .ok (frame msg.msgType payload) := by
  refine frameBytes_of_narrowed_le hpayload ?_
  rw [mod_payloadLen hlen]
  exact hlen

/-- The route that the client shows for the welcome of the server. -/
theorem welcome_route (config : ServerConfig) (clientId : String) :
    (welcome config clientId).route = "http://" ++ (clientId ++ "." ++ config.domain) := by
  have hstrip := Text.stripPrefix_append "OK — " (clientId ++ "." ++ config.domain)
  have hmessage : "OK — " ++ clientId ++ "." ++ config.domain =
      "OK — " ++ (clientId ++ "." ++ config.domain) := by
    simp only [String.append_assoc]
  unfold AuthRes.route welcome
  dsimp only
  rw [hmessage, hstrip]
  rfl

section

variable {reqFrame resFrame : List UInt8} {up down : Channel}

/-- Wherever the client stands, it has sent its message up to some point or beyond. -/
theorem ClientSide.Holds.writes {client : ClientSide}
    (h : client.Holds config req reqFrame resFrame up down) : up.Writes reqFrame := by
  cases client with
  | writing left => exact .inl ⟨left, h.1⟩
  | reading got => exact .inr h.1
  | muxing route => exact .inr h.1
  | failed message => exact h.1
  | lost => exact h

/-- Wherever the server stands, it has sent its message up to some point or beyond. -/
theorem ServerSide.Holds.writes {server : ServerSide}
    (h : server.Holds config req reqFrame resFrame up down) : down.Writes resFrame := by
  cases server with
  | reading got => exact .inl ⟨resFrame, h.1⟩
  | validating auth => exact .inl ⟨resFrame, h.1⟩
  | writing valid auth left => exact .inl ⟨left, h.1⟩
  | muxing clientId supportsHeartbeat => exact .inr h.1
  | closed outcome => exact h.1
  | lost => exact h

variable {up' down' : Channel}

/-- What holds of the client depends on what it has written, and not on what has been read. -/
theorem ClientSide.Holds.up_got {client : ClientSide}
    (h : client.Holds config req reqFrame resFrame up down) (hsent : up'.sent = up.sent)
    (hstreamed : up'.streamed = up.streamed) :
    client.Holds config req reqFrame resFrame up' down := by
  unfold Holds Channel.Written Channel.Writes Channel.Writing Channel.Written at *
  rw [hsent, hstreamed]
  exact h

/-- It depends on what it has read, and not on what has been written. -/
theorem ClientSide.Holds.down_sent {client : ClientSide}
    (h : client.Holds config req reqFrame resFrame up down) (hgot : down'.got = down.got)
    (hreceived : down'.received = down.received) :
    client.Holds config req reqFrame resFrame up down' := by
  unfold Holds Channel.Reading Channel.Read at *
  rw [hgot, hreceived]
  exact h

/-- What holds of the server depends on what it has read, and not on what has been written. -/
theorem ServerSide.Holds.up_sent {server : ServerSide}
    (h : server.Holds config req reqFrame resFrame up down) (hgot : up'.got = up.got)
    (hreceived : up'.received = up.received) :
    server.Holds config req reqFrame resFrame up' down := by
  unfold Holds Channel.Reading Channel.Read at *
  rw [hgot, hreceived]
  exact h

/-- It depends on what it has written, and not on what has been read. -/
theorem ServerSide.Holds.down_got {server : ServerSide}
    (h : server.Holds config req reqFrame resFrame up down) (hsent : down'.sent = down.sent)
    (hstreamed : down'.streamed = down.streamed) :
    server.Holds config req reqFrame resFrame up down' := by
  unfold Holds Channel.Writes Channel.Writing Channel.Written at *
  rw [hsent, hstreamed]
  exact h

end

section

variable (hS : S.Lawful) {reqPayload resPayload : List UInt8}
  (hreq : (Message.authReq req).encodePayload S = .ok reqPayload)
  (hreqLen : reqPayload.length ≤ maxPayloadSize.toNat)
  (hres : (Message.authRes (response config req)).encodePayload S = .ok resPayload)
  (hresLen : resPayload.length ≤ maxPayloadSize.toNat)

include hS hres hresLen in
/-- What holds of the client after a read. -/
theorem ClientSide.holds_afterRead {reqFrame : List UInt8} {up down : Channel}
    (hwritten : up.Written reqFrame) (hstreamed : up.streamed = []) (hfifo : down.Fifo)
    (hwrites : down.Writes (frame .authRes resPayload)) {got : List UInt8}
    (hreading : down.Reading got) (hgot : NotPast got) :
    (ClientSide.afterRead S debug got).Holds config req reqFrame (frame .authRes resPayload) up
      down := by
  unfold ClientSide.afterRead
  cases hdone : progress S got with
  | wants n atEnd => exact ⟨hwritten, hstreamed, hreading, hgot⟩
  | done result =>
    obtain ⟨rfl, hreceived⟩ := hreading
    obtain ⟨rfl, hframe⟩ := read_frame hS hres hresLen hfifo hwrites hgot hdone
    have hread : down.Read (frame .authRes resPayload) :=
      Channel.Reading.finish ⟨hframe, hreceived⟩
    dsimp only
    unfold response
    by_cases hvalid : config.validateToken req.token
    · rw [if_pos hvalid, if_pos (show (welcome config req.clientId).success = true from rfl),
        welcome_route]
      exact ⟨hwritten, hread, hvalid, rfl⟩
    · rw [if_neg hvalid, if_neg (by decide)]
      exact ⟨.inr hwritten, by simpa using hvalid, rfl⟩

include hS hreq hreqLen in
/-- What holds of the server after a read. -/
theorem ServerSide.holds_afterRead {resFrame : List UInt8} {up down : Channel}
    (hwriting : down.Writing resFrame resFrame) (hfifo : up.Fifo)
    (hwrites : up.Writes (frame .authReq reqPayload)) {got : List UInt8}
    (hreading : up.Reading got) (hgot : NotPast got) :
    (ServerSide.afterRead S got).Holds config req (frame .authReq reqPayload) resFrame up
      down := by
  unfold ServerSide.afterRead
  cases hdone : progress S got with
  | wants n atEnd => exact ⟨hwriting, hreading, hgot⟩
  | done result =>
    obtain ⟨rfl, hreceived⟩ := hreading
    obtain ⟨rfl, hframe⟩ := read_frame hS hreq hreqLen hfifo hwrites hgot hdone
    exact ⟨hwriting, Channel.Reading.finish ⟨hframe, hreceived⟩, rfl⟩

include hS hreq hreqLen hres hresLen in
/-- Every step keeps the invariant. -/
theorem Handshake.Inv.step {h h' : Handshake} {l : HandshakeStep}
    (hinv : h.Inv config req (frame .authReq reqPayload) (frame .authRes resPayload))
    (hstep : handshakeStep S config debug h l = some h') :
    h'.Inv config req (frame .authReq reqPayload) (frame .authRes resPayload) := by
  obtain ⟨client, server, up, down⟩ := h
  obtain ⟨hup, hdown, hclient, hserver⟩ := hinv
  dsimp only at hup hdown hclient hserver
  cases l with
  | clientWrite k =>
    cases client with
    | writing left =>
      unfold handshakeStep at hstep
      dsimp only at hstep
      split_ifs at hstep with hk
      obtain rfl := Option.some.inj hstep
      obtain ⟨hwriting, hreading⟩ := hclient
      have hwrite := hwriting.write k
      refine ⟨hup.write _, hdown, ?_, hserver.up_sent rfl rfl⟩
      dsimp only
      unfold ClientSide.afterWrite
      split_ifs with hleft
      · rw [hleft] at hwrite
        exact ⟨hwrite.written, hwrite.2, hreading, notPast_nil⟩
      · exact ⟨hwrite, hreading⟩
    | _ => cases hstep
  | clientRead k =>
    cases client with
    | reading got =>
      unfold handshakeStep at hstep
      dsimp only at hstep
      split_ifs at hstep with hk
      obtain rfl := Option.some.inj hstep
      obtain ⟨hwritten, hstreamed, hreading, hgot⟩ := hclient
      have hmore : (down.queue.take k).length ≤ wanted S got := by
        rw [List.length_take]
        omega
      exact ⟨hup, hdown.read k, ClientSide.holds_afterRead hS hres hresLen hwritten hstreamed
        (hdown.read k) hserver.writes (hreading.read k) (hgot.append_of_wanted hmore),
        hserver.down_got rfl rfl⟩
    | _ => cases hstep
  | clientMux bytes =>
    cases client with
    | muxing route =>
      obtain rfl := Option.some.inj hstep
      obtain ⟨hwritten, hclient⟩ := hclient
      exact ⟨hup.stream bytes, hdown, ⟨hwritten.stream bytes, hclient⟩, hserver.up_sent rfl rfl⟩
    | _ => cases hstep
  | clientDemux k =>
    cases client with
    | muxing route =>
      obtain rfl := Option.some.inj hstep
      obtain ⟨hwritten, hread, hclient⟩ := hclient
      exact ⟨hup, hdown.receive k, ⟨hwritten, hread.receive k, hclient⟩, hserver.down_got rfl rfl⟩
    | _ => cases hstep
  | clientLost =>
    obtain rfl := Option.some.inj hstep
    exact ⟨hup, hdown, hclient.writes, hserver⟩
  | serverRead k =>
    cases server with
    | reading got =>
      unfold handshakeStep at hstep
      dsimp only at hstep
      split_ifs at hstep with hk
      obtain rfl := Option.some.inj hstep
      obtain ⟨hwriting, hreading, hgot⟩ := hserver
      have hmore : (up.queue.take k).length ≤ wanted S got := by
        rw [List.length_take]
        omega
      exact ⟨hup.read k, hdown, hclient.up_got rfl rfl, ServerSide.holds_afterRead hS hreq hreqLen
        hwriting (hup.read k) hclient.writes (hreading.read k) (hgot.append_of_wanted hmore)⟩
    | _ => cases hstep
  | serverTimeout =>
    cases server with
    | reading got =>
      obtain rfl := Option.some.inj hstep
      exact ⟨hup, hdown, hclient, hserver.writes, .inl rfl⟩
    | _ => cases hstep
  | serverValidate =>
    cases server with
    | validating auth =>
      obtain ⟨hwriting, hread, rfl⟩ := hserver
      unfold handshakeStep at hstep
      dsimp only at hstep
      rw [frameBytes_of_le hres hresLen] at hstep
      obtain rfl := Option.some.inj hstep
      exact ⟨hup, hdown, hclient, hwriting, hread, rfl, rfl⟩
    | _ => cases hstep
  | serverWrite k =>
    cases server with
    | writing valid auth left =>
      unfold handshakeStep at hstep
      dsimp only at hstep
      split_ifs at hstep with hk
      obtain rfl := Option.some.inj hstep
      obtain ⟨hwriting, hread, rfl, rfl⟩ := hserver
      have hwrite := hwriting.write k
      refine ⟨hup, hdown.write _, hclient.down_sent rfl rfl, ?_⟩
      dsimp only
      unfold ServerSide.afterWrite
      split_ifs with hleft hvalid
      · rw [hleft] at hwrite
        exact ⟨hwrite.written, hread, hvalid, rfl, rfl⟩
      · rw [hleft] at hwrite
        exact ⟨.inr hwrite.written, .inr ⟨by simpa using hvalid, rfl⟩⟩
      · exact ⟨hwrite, hread, rfl, rfl⟩
    | _ => cases hstep
  | serverMux bytes =>
    cases server with
    | muxing clientId supportsHeartbeat =>
      obtain rfl := Option.some.inj hstep
      obtain ⟨hwritten, hserver⟩ := hserver
      exact ⟨hup, hdown.stream bytes, hclient.down_sent rfl rfl, hwritten.stream bytes, hserver⟩
    | _ => cases hstep
  | serverDemux k =>
    cases server with
    | muxing clientId supportsHeartbeat =>
      obtain rfl := Option.some.inj hstep
      obtain ⟨hwritten, hread, hserver⟩ := hserver
      exact ⟨hup.receive k, hdown, hclient.up_got rfl rfl, hwritten, hread.receive k, hserver⟩
    | _ => cases hstep
  | serverLost =>
    obtain rfl := Option.some.inj hstep
    exact ⟨hup, hdown, hclient, hserver.writes⟩

include hreq hreqLen in
/-- The invariant holds at the start. -/
theorem Handshake.inv_new (config : ServerConfig) (resFrame : List UInt8) :
    (Handshake.new S req).Inv config req (frame .authReq reqPayload) resFrame := by
  unfold Handshake.new
  rw [frameBytes_of_le hreq hreqLen]
  exact ⟨Channel.fifo_new, Channel.fifo_new, ⟨⟨rfl, rfl⟩, rfl, rfl⟩, ⟨rfl, rfl⟩, ⟨rfl, rfl⟩,
    notPast_nil⟩

end

/-- The sides agree when the invariant holds. -/
theorem Handshake.Inv.agrees {reqFrame resFrame : List UInt8} {h : Handshake}
    (hinv : h.Inv config req reqFrame resFrame) : h.Agrees config req := by
  obtain ⟨client, server, up, down⟩ := h
  obtain ⟨hup, hdown, hclient, hserver⟩ := hinv
  dsimp only at hup hdown hclient hserver
  refine ⟨?_, ?_, ?_, ?_, ?_, ?_⟩
  · rintro route rfl
    exact hclient.2.2
  · rintro clientId supportsHeartbeat rfl
    exact hserver.2.2
  · rintro message rfl
    exact hclient.2
  · rintro outcome rfl
    exact hserver.2
  · rintro route rfl
    exact Channel.delivered hdown hserver.writes hclient.2.1
  · rintro clientId supportsHeartbeat rfl
    exact Channel.delivered hup hclient.writes hserver.2.1

/-- However the messages and what follows them are cut into chunks, and wherever a side loses the
connection, the client and the server agree on the session, and what one yamux writes is what the
other reads. The messages have to fit in their frames. -/
theorem handshake_agrees {S : Serde} (hS : S.Lawful) (config : ServerConfig)
    (debug : Message → String) (req : AuthReq) (hreq : (Message.authReq req).Fits S)
    (hres : (Message.authRes (response config req)).Fits S) (labels : List HandshakeStep) :
    Transition.Visits (handshakeStep S config debug) (Handshake.Agrees config req)
      (.new S req) labels := by
  obtain ⟨reqPayload, hreq, hreqLen⟩ := hreq
  obtain ⟨resPayload, hres, hresLen⟩ := hres
  have hinv : Transition.Visits (handshakeStep S config debug)
      (Handshake.Inv config req (frame .authReq reqPayload) (frame .authRes resPayload))
      (.new S req) labels :=
    Transition.visits_of_invariant
      (fun _ _ _ hinv hstep => hinv.step hS hreq hreqLen hres hresLen hstep)
      (Handshake.inv_new hreq hreqLen config (frame .authRes resPayload)) labels
  exact hinv.mono fun h hinv => hinv.agrees

/-- `serde_json` at one request and the response to it, with the JSON that it writes. -/
def welcomeSerde : Serde :=
  { handshakeSerde with
    authRes := .single ⟨true, "OK — app.tunnel.example.com", some 6210, some "app"⟩
      ("\x7b\"success\":true,\"message\":\"OK — app.tunnel.example.com\"," ++
        "\"public_port\":6210,\"assigned_route\":\"app\"\x7d") }

/-- That codec is lawful. -/
theorem welcomeSerde_lawful : welcomeSerde.Lawful :=
  { handshakeSerde_lawful with authRes := JsonCodec.single_lawful _ _ }

/-- A client with a valid token, whose messages and those of the server come in two chunks or three,
and whose yamux is the first to write. -/
theorem handshake_agrees_app :
    Transition.Visits
        (handshakeStep welcomeSerde ⟨6210, "tunnel.example.com", ⟨["t0k"]⟩⟩ fun _ => "")
        (Handshake.Agrees ⟨6210, "tunnel.example.com", ⟨["t0k"]⟩⟩ ⟨"app", "t0k", some "0.1.0"⟩)
        (.new welcomeSerde ⟨"app", "t0k", some "0.1.0"⟩)
        [.clientWrite 57, .serverRead 4, .serverRead 2, .serverRead 51, .serverValidate,
          .serverWrite 60, .clientRead 6, .serverWrite 46, .serverMux [0, 2], .clientRead 100,
          .clientDemux 2] ∧
      ((Transition.exec
        (handshakeStep welcomeSerde ⟨6210, "tunnel.example.com", ⟨["t0k"]⟩⟩ fun _ => "")
        (.new welcomeSerde ⟨"app", "t0k", some "0.1.0"⟩)
        [.clientWrite 57, .serverRead 4, .serverRead 2, .serverRead 51, .serverValidate,
          .serverWrite 60, .clientRead 6, .serverWrite 46, .serverMux [0, 2], .clientRead 100,
          .clientDemux 2]).map fun h => (h.client, h.down.received)) =
        some (.muxing "http://app.tunnel.example.com", [0, 2]) := by
  refine ⟨?_, by decide⟩
  exact handshake_agrees welcomeSerde_lawful _ _ _ ⟨_, rfl, by decide⟩ ⟨_, rfl, by decide⟩ _

end ZoTunnel
