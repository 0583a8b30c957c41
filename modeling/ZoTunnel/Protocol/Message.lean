import ZoTunnel.Lib.Bytes

/-!
# Protocol messages

The control protocol of `zo-tunnel-protocol/src/lib.rs`: the message types, their payloads, and how
a payload is encoded and decoded.

Four payloads are JSON, by `serde_json`. The model takes its functions at those types as a
parameter (`Serde`), and `Serde.Lawful` is what the protocol relies on, that `from_slice` undoes
`to_vec`. An error is the text that `anyhow` displays for it, the outermost context.
-/

namespace ZoTunnel

/-- The displayed text of an `anyhow::Error`. -/
abbrev Error := String

/-- Protocol version -/
def protocolVersion : UInt8 := 1

/-- Maximum payload size (16 MB) -/
def maxPayloadSize : UInt32 := 16 * 1024 * 1024

/-- The marker that starts a proxy stream. -/
def streamTypeProxy : UInt8 := 0x00

/-- The marker that starts a heartbeat stream, and the pong that answers it. -/
def streamTypeHeartbeat : UInt8 := 0x01

/-! ## Message types -/

/-- The type byte of a frame, as an enumeration. -/
inductive MessageType where
  | authReq
  | authRes
  | newConn
  | data
  | ping
  | pong
  | close
  | error
  | acceptConn
  deriving DecidableEq, Repr

/-- `msg_type as u8`. -/
def MessageType.toByte : MessageType → UInt8
  | .authReq => 0x01
  | .authRes => 0x02
  | .newConn => 0x03
  | .data => 0x04
  | .ping => 0x05
  | .pong => 0x06
  | .close => 0x07
  | .error => 0x08
  | .acceptConn => 0x09

/-- The two hexadecimal digits of a byte. -/
def hexByte (b : UInt8) : String :=
  String.ofList [Nat.digitChar (b.toNat / 16), Nat.digitChar (b.toNat % 16)]

/-- `MessageType::try_from`. -/
def MessageType.tryFrom (value : UInt8) : Except Error MessageType :=
  if value = 0x01 then .ok .authReq
  else if value = 0x02 then .ok .authRes
  else if value = 0x03 then .ok .newConn
  else if value = 0x04 then .ok .data
  else if value = 0x05 then .ok .ping
  else if value = 0x06 then .ok .pong
  else if value = 0x07 then .ok .close
  else if value = 0x08 then .ok .error
  else if value = 0x09 then .ok .acceptConn
  else .error ("Unknown message type: 0x" ++ hexByte value)

/-- A type byte reads back as its type. -/
@[simp]
theorem MessageType.tryFrom_toByte (t : MessageType) : tryFrom t.toByte = .ok t := by
  cases t <;> rfl

/-- A byte that is read as a type is that type's byte. -/
theorem MessageType.toByte_of_tryFrom {value : UInt8} {t : MessageType}
    (h : tryFrom value = .ok t) : t.toByte = value := by
  unfold tryFrom at h
  split_ifs at h with h1 h2 h3 h4 h5 h6 h7 h8 h9 <;> obtain rfl := Except.ok.inj h <;>
    first | exact h1.symm | exact h2.symm | exact h3.symm | exact h4.symm | exact h5.symm |
      exact h6.symm | exact h7.symm | exact h8.symm | exact h9.symm

/-! ## Payloads -/

/-- A UUID, which the protocol only carries. -/
abbrev Uuid := BitVec 128

/-- Authentication request from client -/
structure AuthReq where
  clientId : String
  token : String
  version : Option String
  deriving DecidableEq, Repr

/-- Whether the client version supports heartbeat and stream type markers. Legacy clients do not
send a version field. -/
def AuthReq.supportsHeartbeat (auth : AuthReq) : Bool := auth.version.isSome

/-- Authentication response from server -/
structure AuthRes where
  success : Bool
  message : String
  publicPort : Option UInt16
  assignedRoute : Option String
  deriving DecidableEq, Repr

/-- Server notifying client of a new incoming connection -/
structure NewConn where
  connId : Uuid
  deriving DecidableEq, Repr

/-- Client accepting a connection (sent on a new TCP stream) -/
structure AcceptConn where
  connId : Uuid
  clientId : String
  deriving DecidableEq, Repr

/-- The unified message. -/
inductive Message where
  | authReq (p : AuthReq)
  | authRes (p : AuthRes)
  | newConn (p : NewConn)
  | acceptConn (p : AcceptConn)
  | ping
  | pong
  | close
  | error (msg : String)
  deriving DecidableEq, Repr

/-! ## `serde_json` at the payloads -/

/-- `serde_json::to_vec` and `serde_json::from_slice` at one type. -/
structure JsonCodec (α : Type) where
  toVec : α → Except Error (List UInt8)
  fromSlice : List UInt8 → Except Error α

/-- `from_slice` undoes `to_vec`. -/
def JsonCodec.Lawful {α : Type} (c : JsonCodec α) : Prop :=
  ∀ x bytes, c.toVec x = .ok bytes → c.fromSlice bytes = .ok x

/-- A codec that knows one value and its JSON text, and fails on every other. -/
def JsonCodec.single {α : Type} [DecidableEq α] (x : α) (text : String) : JsonCodec α where
  toVec y := if y = x then .ok (Bytes.asBytes text) else .error "unsupported"
  fromSlice bytes := if bytes = Bytes.asBytes text then .ok x else .error "unsupported"

/-- A codec of one value is lawful. -/
theorem JsonCodec.single_lawful {α : Type} [DecidableEq α] (x : α) (text : String) :
    (JsonCodec.single x text).Lawful := by
  intro y bytes h
  simp only [JsonCodec.single] at h ⊢
  split_ifs at h with hy
  rw [hy, if_pos (Except.ok.inj h).symm]

/-- `serde_json` at the four payload types. -/
structure Serde where
  authReq : JsonCodec AuthReq
  authRes : JsonCodec AuthRes
  newConn : JsonCodec NewConn
  acceptConn : JsonCodec AcceptConn

/-- `from_slice` undoes `to_vec` at the four payload types. -/
structure Serde.Lawful (S : Serde) : Prop where
  /-- At `AuthReq`. -/
  authReq : S.authReq.Lawful
  /-- At `AuthRes`. -/
  authRes : S.authRes.Lawful
  /-- At `NewConn`. -/
  newConn : S.newConn.Lawful
  /-- At `AcceptConn`. -/
  acceptConn : S.acceptConn.Lawful

/-! ## Encoding and decoding -/

/-- `anyhow`'s `context`: the text replaces the error's. -/
def context {α : Type} (text : String) (r : Except Error α) : Except Error α :=
  r.mapError fun _ => text

/-- A result with context is `ok` when the result is. -/
@[simp]
theorem context_eq_ok {α : Type} {text : String} {r : Except Error α} {x : α} :
    context text r = .ok x ↔ r = .ok x := by
  cases r <;> simp [context, Except.mapError]

/-- A sequence of steps that succeeds gets to the rest of it. -/
theorem exists_of_bind_eq_ok {α β : Type} {x : Except Error α} {f : α → Except Error β} {b : β}
    (h : x >>= f = .ok b) : ∃ a, x = .ok a ∧ f a = .ok b := by
  cases x with
  | error e => nomatch h
  | ok a => exact ⟨a, rfl, h⟩

namespace Message

/-- The message type byte. -/
def msgType : Message → MessageType
  | .authReq _ => .authReq
  | .authRes _ => .authRes
  | .newConn _ => .newConn
  | .acceptConn _ => .acceptConn
  | .ping => .ping
  | .pong => .pong
  | .close => .close
  | .error _ => .error

/-- The payload of a message. -/
def encodePayload (S : Serde) : Message → Except Error (List UInt8)
  | .authReq p => context "encode AuthReq" (S.authReq.toVec p)
  | .authRes p => context "encode AuthRes" (S.authRes.toVec p)
  | .newConn p => context "encode NewConn" (S.newConn.toVec p)
  | .acceptConn p => context "encode AcceptConn" (S.acceptConn.toVec p)
  | .error msg => .ok (Bytes.asBytes msg)
  | .ping | .pong | .close => .ok []

/-- The message of a type and a payload. -/
def decode (S : Serde) (msgType : MessageType) (payload : List UInt8) : Except Error Message :=
  match msgType with
  | .authReq => (context "decode AuthReq" (S.authReq.fromSlice payload)).map .authReq
  | .authRes => (context "decode AuthRes" (S.authRes.fromSlice payload)).map .authRes
  | .newConn => (context "decode NewConn" (S.newConn.fromSlice payload)).map .newConn
  | .acceptConn => (context "decode AcceptConn" (S.acceptConn.fromSlice payload)).map .acceptConn
  | .error => .ok (.error (Bytes.fromUtf8Lossy payload))
  | .ping => .ok .ping
  | .pong => .ok .pong
  | .close => .ok .close
  | .data => .error "DATA messages should not go through Message::decode"

/-- A payload that a lawful codec has written is read with any context. -/
theorem read_of_toVec {α : Type} {c : JsonCodec α} (hc : c.Lawful) {x : α} {payload : List UInt8}
    {text text' : String} (h : context text (c.toVec x) = .ok payload) (f : α → Message) :
    (context text' (c.fromSlice payload)).map f = .ok (f x) := by
  rw [hc x payload (context_eq_ok.mp h)]
  rfl

/-- The payload of a message decodes to the message, under its type. -/
theorem decode_encodePayload {S : Serde} (hS : S.Lawful) {m : Message} {payload : List UInt8}
    (h : m.encodePayload S = .ok payload) : decode S m.msgType payload = .ok m := by
  cases m with
  | authReq p => exact read_of_toVec hS.authReq h .authReq
  | authRes p => exact read_of_toVec hS.authRes h .authRes
  | newConn p => exact read_of_toVec hS.newConn h .newConn
  | acceptConn p => exact read_of_toVec hS.acceptConn h .acceptConn
  | error msg =>
    obtain rfl : Bytes.asBytes msg = payload := Except.ok.inj h
    show Except.ok (Message.error _) = _
    rw [Bytes.fromUtf8Lossy_asBytes]
  | ping => rfl
  | pong => rfl
  | close => rfl

end Message

end ZoTunnel
