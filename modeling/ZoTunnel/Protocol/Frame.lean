import ZoTunnel.Protocol.Message

/-!
# Framing

`write_message` and `read_message` of `zo-tunnel-protocol/src/lib.rs`. A frame is a header of six
bytes, the version, the type, and the big-endian length of the payload, and then the payload.

A writer is the bytes that it has accepted, and whether it goes on accepting them (`Writer`). A
reader is the bytes that are still to come, after which it is at its end. The round trip is proved
frame by frame: the frame that `write_message` builds for a payload within the limit
(`frameBytes_of_le`) is read back, whatever follows it (`readMessage_frame`), and none of its proper
prefixes is (`readMessage_prefix`). A list of messages then follows by induction.

The limit is compared with the length after its narrowing to 32 bits. `one_frame_iff` says what a
payload of any length comes to: one frame or nothing, unless its length wraps to one within the
limit.
-/

namespace ZoTunnel

/-! ## Writing -/

/-- An `AsyncWrite`: the bytes accepted so far, how many more it accepts before a write fails
(`none` when it accepts all), and whether a flush succeeds. -/
structure Writer where
  bytes : List UInt8
  capacity : Option ℕ
  flushes : Bool

/-- A writer that accepts all bytes, and has accepted none yet. -/
def Writer.unlimited : Writer := ⟨[], none, true⟩

/-- `AsyncWriteExt::write_all`. A write that fails has accepted the bytes up to the capacity. -/
def Writer.writeAll (w : Writer) (buf : List UInt8) : Except Error Unit × Writer :=
  match w.capacity with
  | none => (.ok (), { w with bytes := w.bytes ++ buf })
  | some n =>
    if buf.length ≤ n then
      (.ok (), { w with bytes := w.bytes ++ buf, capacity := some (n - buf.length) })
    else
      (.error "write zero", { w with bytes := w.bytes ++ buf.take n, capacity := some 0 })

/-- `AsyncWriteExt::flush`. -/
def Writer.flush (w : Writer) : Except Error Unit × Writer :=
  (if w.flushes then .ok () else .error "flush", w)

/-- The frame that `write_message` builds before it writes: the payload's length is narrowed to 32
bits, and compared with the limit after that. -/
def frameBytes (S : Serde) (msg : Message) : Except Error (List UInt8) := do
  let payload ← msg.encodePayload S
  let payloadLen := UInt32.ofNat payload.length
  if payloadLen > maxPayloadSize then
    .error s!"Payload too large: {payloadLen} bytes (max {maxPayloadSize})"
  else
    .ok (protocolVersion :: msg.msgType.toByte :: Bytes.putU32 payloadLen ++ payload)

/-- Write a protocol message to a writer. -/
def writeMessage (S : Serde) (writer : Writer) (msg : Message) : Except Error Unit × Writer :=
  match frameBytes S msg with
  | .error e => (.error e, writer)
  | .ok buf =>
    match writer.writeAll buf with
    | (.error _, writer) => (.error "write message", writer)
    | (.ok (), writer) =>
      match writer.flush with
      | (.error _, writer) => (.error "flush message", writer)
      | (.ok (), writer) => (.ok (), writer)

/-- Write messages in order, up to the first that fails. -/
def writeMessages (S : Serde) (writer : Writer) : List Message → Except Error Unit × Writer
  | [] => (.ok (), writer)
  | msg :: msgs =>
    match writeMessage S writer msg with
    | (.error e, writer) => (.error e, writer)
    | (.ok (), writer) => writeMessages S writer msgs

/-! ## Reading -/

/-- Read a protocol message from a reader: the message and the bytes that are still to come. -/
def readMessage (S : Serde) (reader : List UInt8) : Except Error (Message × List UInt8) :=
  match reader with
  | version :: msgTypeByte :: l0 :: l1 :: l2 :: l3 :: reader => do
    let payloadLen := Bytes.getU32 l0 l1 l2 l3
    if version ≠ protocolVersion then
      .error s!"Protocol version mismatch: got {version}, expected {protocolVersion}"
    else
      let msgType ← MessageType.tryFrom msgTypeByte
      if payloadLen > maxPayloadSize then
        .error s!"Payload too large: {payloadLen} bytes (max {maxPayloadSize})"
      else
        -- A length of zero reads nothing, and reads `payloadLen` bytes all the same.
        match Bytes.readExact payloadLen.toNat reader with
        | none => .error "read message payload"
        | some (payload, reader) => (Message.decode S msgType payload).map (·, reader)
  | _ => .error "read message header"

/-- Read `n` messages in order. -/
def readMessages (S : Serde) : ℕ → List UInt8 → Except Error (List Message × List UInt8)
  | 0, reader => .ok ([], reader)
  | n + 1, reader => do
    let (msg, reader) ← readMessage S reader
    let (msgs, reader) ← readMessages S n reader
    .ok (msg :: msgs, reader)

/-! ## The round trip -/

/-- A message whose payload fits in a frame. -/
def Message.Fits (S : Serde) (msg : Message) : Prop :=
  ∃ payload, msg.encodePayload S = .ok payload ∧ payload.length ≤ maxPayloadSize.toNat

/-- The frame of a type and a payload. -/
def frame (msgType : MessageType) (payload : List UInt8) : List UInt8 :=
  protocolVersion :: msgType.toByte :: Bytes.putU32 (.ofNat payload.length) ++ payload

/-- The bytes of a frame, whether or not its payload is as long as it says. -/
theorem length_frame (msgType : MessageType) (payload : List UInt8) :
    (frame msgType payload).length = payload.length + 6 := by
  simp [frame]
  omega

/-- The narrowed length of a payload. -/
theorem toNat_narrowed (length : ℕ) : (UInt32.ofNat length).toNat = length % UInt32.size :=
  UInt32.toNat_ofNat'

/-- The limit is compared with the narrowed length. -/
theorem narrowed_gt_iff {length : ℕ} :
    UInt32.ofNat length > maxPayloadSize ↔ maxPayloadSize.toNat < length % UInt32.size := by
  rw [gt_iff_lt, UInt32.lt_iff_toNat_lt, toNat_narrowed]

/-- The length of a payload within the limit is not changed by the narrowing to 32 bits. -/
theorem mod_payloadLen {payload : List UInt8} (h : payload.length ≤ maxPayloadSize.toNat) :
    payload.length % UInt32.size = payload.length := by
  have hmax : maxPayloadSize.toNat < UInt32.size := maxPayloadSize.toNat_lt_size
  exact Nat.mod_eq_of_lt (by omega)

/-- It is the length that the header says. -/
theorem toNat_payloadLen {payload : List UInt8} (h : payload.length ≤ maxPayloadSize.toNat) :
    (UInt32.ofNat payload.length).toNat = payload.length := by
  rw [toNat_narrowed, mod_payloadLen h]

/-- The limit admits a payload within it. -/
theorem payloadLen_le {payload : List UInt8} (h : payload.length ≤ maxPayloadSize.toNat) :
    ¬ UInt32.ofNat payload.length > maxPayloadSize := by
  rw [narrowed_gt_iff, mod_payloadLen h]
  omega

/-- A payload whose narrowed length is within the limit gets its frame. -/
theorem frameBytes_of_narrowed_le {S : Serde} {msg : Message} {payload : List UInt8}
    (h : msg.encodePayload S = .ok payload)
    (hlen : payload.length % UInt32.size ≤ maxPayloadSize.toNat) :
    frameBytes S msg = .ok (frame msg.msgType payload) := by
  have hle : ¬ UInt32.ofNat payload.length > maxPayloadSize := by
    rw [narrowed_gt_iff]
    omega
  simp only [frameBytes, h, bind, Except.bind, frame]
  rw [if_neg hle]

/-- A writer that accepts all bytes gets exactly the frame. -/
theorem writeMessage_of_le {S : Serde} {msg : Message} {payload : List UInt8}
    (h : msg.encodePayload S = .ok payload) (hlen : payload.length ≤ maxPayloadSize.toNat)
    (bytes : List UInt8) :
    writeMessage S ⟨bytes, none, true⟩ msg =
      (.ok (), ⟨bytes ++ frame msg.msgType payload, none, true⟩) := by
  have hnarrowed : payload.length % UInt32.size ≤ maxPayloadSize.toNat := by
    rwa [mod_payloadLen hlen]
  unfold writeMessage
  rw [frameBytes_of_narrowed_le h hnarrowed]
  rfl

/-- What `readMessage` does after a header whose length is within the limit: it reads as many bytes
as the header says, and decodes them. -/
theorem readMessage_cons (S : Serde) (msgType : MessageType) {l0 l1 l2 l3 : UInt8} {n : UInt32}
    (hget : Bytes.getU32 l0 l1 l2 l3 = n) (hn : ¬ n > maxPayloadSize) (reader : List UInt8) :
    readMessage S (protocolVersion :: msgType.toByte :: l0 :: l1 :: l2 :: l3 :: reader) =
      match Bytes.readExact n.toNat reader with
      | none => .error "read message payload"
      | some (payload, reader) => (Message.decode S msgType payload).map (·, reader) := by
  simp only [readMessage, hget]
  rw [if_neg (by simp), MessageType.tryFrom_toByte]
  simp only [bind, Except.bind]
  rw [if_neg hn]

/-- The same for a header that `write_message` wrote. -/
theorem readMessage_header (S : Serde) (msgType : MessageType) {n : UInt32}
    (hn : ¬ n > maxPayloadSize) (reader : List UInt8) :
    readMessage S (protocolVersion :: msgType.toByte :: Bytes.putU32 n ++ reader) =
      match Bytes.readExact n.toNat reader with
      | none => .error "read message payload"
      | some (payload, reader) => (Message.decode S msgType payload).map (·, reader) :=
  readMessage_cons S msgType (Bytes.getU32_putU32 n) hn reader

/-- A frame reads back as its message, and whatever follows it stays unread. -/
theorem readMessage_frame {S : Serde} (hS : S.Lawful) {msg : Message} {payload : List UInt8}
    (h : msg.encodePayload S = .ok payload) (hlen : payload.length ≤ maxPayloadSize.toNat)
    (rest : List UInt8) : readMessage S (frame msg.msgType payload ++ rest) = .ok (msg, rest) := by
  have hread := readMessage_header S msg.msgType (payloadLen_le hlen) (payload ++ rest)
  rw [toNat_payloadLen hlen, Bytes.readExact_append rfl] at hread
  unfold frame
  rw [List.append_assoc, hread]
  simp [Message.decode_encodePayload hS h, Except.map]

/-- No proper prefix of a frame reads as a message: it ends in the header, or in the payload. -/
theorem readMessage_prefix (S : Serde) {msgType : MessageType} {payload : List UInt8}
    (hlen : payload.length ≤ maxPayloadSize.toNat) {pre : List UInt8}
    (hpre : pre <+: frame msgType payload) (hne : pre ≠ frame msgType payload) :
    ∃ e, readMessage S pre = .error e := by
  obtain ⟨suf, hsuf⟩ := hpre
  have hlt : pre.length < (frame msgType payload).length := by
    rw [← hsuf, List.length_append]
    have : suf ≠ [] := fun h => hne (by rw [← hsuf, h, List.append_nil])
    have := List.length_pos_iff.mpr this
    omega
  have hframe := length_frame msgType payload
  rcases Nat.lt_or_ge pre.length 6 with hshort | hlong
  · -- The header is cut.
    refine ⟨"read message header", ?_⟩
    unfold readMessage
    split
    · simp at hshort
      omega
    · rfl
  · -- The payload is cut: what is left of it is shorter than the header says.
    refine ⟨"read message payload", ?_⟩
    have hsplit : pre = protocolVersion :: msgType.toByte ::
        Bytes.putU32 (.ofNat payload.length) ++ pre.drop 6 := by
      have htake : pre.take 6 = (frame msgType payload).take 6 := by
        rw [← hsuf, List.take_append_of_le_length hlong]
      rw [← List.take_append_drop 6 pre, htake]
      simp [frame, Bytes.putU32]
    have hdrop : (pre.drop 6).length < payload.length := by
      rw [List.length_drop]
      omega
    rw [hsplit, readMessage_header S msgType (payloadLen_le hlen), toNat_payloadLen hlen,
      Bytes.readExact_of_lt hdrop]

/-- Messages that fit are all written, and what is written reads back as them, in order, up to
what follows. -/
theorem readMessages_writeMessages {S : Serde} (hS : S.Lawful) {msgs : List Message}
    (hfit : ∀ msg ∈ msgs, msg.Fits S) (bytes : List UInt8) :
    ∃ out, writeMessages S ⟨bytes, none, true⟩ msgs = (.ok (), ⟨bytes ++ out, none, true⟩) ∧
      ∀ rest, readMessages S msgs.length (out ++ rest) = .ok (msgs, rest) := by
  induction msgs generalizing bytes with
  | nil => exact ⟨[], by simp [writeMessages], fun rest => rfl⟩
  | cons msg msgs ih =>
    obtain ⟨payload, hpayload, hlen⟩ := hfit msg List.mem_cons_self
    obtain ⟨out, hwrite, hread⟩ := ih (fun m hm => hfit m (List.mem_cons_of_mem _ hm))
      (bytes ++ frame msg.msgType payload)
    refine ⟨frame msg.msgType payload ++ out, ?_, fun rest => ?_⟩
    · unfold writeMessages
      rw [writeMessage_of_le hpayload hlen bytes]
      simp only [hwrite, List.append_assoc]
    -- The first frame is read, and leaves the frames of the others.
    · rw [List.append_assoc, List.length_cons, readMessages,
        readMessage_frame hS hpayload hlen (out ++ rest)]
      simp only [bind, Except.bind, hread rest]

/-- Framing round trip: messages that fit are written in order, and as many reads on the bytes
written, whatever follows them, return the same messages and leave exactly what follows; and a read
on a proper prefix of one message's frame fails. -/
theorem framing_roundtrip (S : Serde) (hS : S.Lawful) (msgs : List Message)
    (hfit : ∀ msg ∈ msgs, msg.Fits S) :
    (∃ out, writeMessages S .unlimited msgs = (.ok (), ⟨out, none, true⟩) ∧
      ∀ rest, readMessages S msgs.length (out ++ rest) = .ok (msgs, rest)) ∧
    ∀ msg ∈ msgs, ∀ w, writeMessage S .unlimited msg = (.ok (), w) →
      ∀ pre, pre <+: w.bytes → pre ≠ w.bytes → ∃ e, readMessage S pre = .error e := by
  constructor
  · exact readMessages_writeMessages hS hfit []
  · intro msg hmsg w hw pre hpre hne
    obtain ⟨payload, hpayload, hlen⟩ := hfit msg hmsg
    have hwrite := writeMessage_of_le hpayload hlen []
    obtain rfl : ⟨[] ++ frame msg.msgType payload, none, true⟩ = w :=
      (Prod.mk.inj (hwrite.symm.trans hw)).2
    exact readMessage_prefix S hlen hpre hne

/-- `serde_json` at one authentication request and one response, with the JSON that it writes. -/
def handshakeSerde : Serde where
  authReq := .single ⟨"app", "t0k", some "0.1.0"⟩
    "\x7b\"client_id\":\"app\",\"token\":\"t0k\",\"version\":\"0.1.0\"\x7d"
  authRes := .single ⟨true, "OK", some 6210, none⟩
    "\x7b\"success\":true,\"message\":\"OK\",\"public_port\":6210,\"assigned_route\":null\x7d"
  newConn := .single ⟨0⟩ "\x7b\"conn_id\":\"00000000-0000-0000-0000-000000000000\"\x7d"
  acceptConn := .single ⟨0, "app"⟩
    "\x7b\"conn_id\":\"00000000-0000-0000-0000-000000000000\",\"client_id\":\"app\"\x7d"

/-- That codec is lawful. -/
theorem handshakeSerde_lawful : handshakeSerde.Lawful where
  authReq := JsonCodec.single_lawful _ _
  authRes := JsonCodec.single_lawful _ _
  newConn := JsonCodec.single_lawful _ _
  acceptConn := JsonCodec.single_lawful _ _

/-- The round trip of a handshake: an authentication request, its response, a ping, and an error
text that is not ASCII. -/
theorem framing_roundtrip_handshake :
    (∀ msg ∈ [Message.authReq ⟨"app", "t0k", some "0.1.0"⟩, .authRes ⟨true, "OK", some 6210, none⟩,
        .ping, .error "né"], msg.Fits handshakeSerde) ∧
      ∃ out, writeMessages handshakeSerde .unlimited
          [.authReq ⟨"app", "t0k", some "0.1.0"⟩, .authRes ⟨true, "OK", some 6210, none⟩, .ping,
            .error "né"] = (.ok (), ⟨out, none, true⟩) ∧
        ∀ rest, readMessages handshakeSerde 4 (out ++ rest) =
          .ok ([.authReq ⟨"app", "t0k", some "0.1.0"⟩, .authRes ⟨true, "OK", some 6210, none⟩,
            .ping, .error "né"], rest) := by
  have hfit : ∀ msg ∈ [Message.authReq ⟨"app", "t0k", some "0.1.0"⟩,
      .authRes ⟨true, "OK", some 6210, none⟩, .ping, .error "né"], msg.Fits handshakeSerde := by
    intro msg hmsg
    simp only [List.mem_cons, List.not_mem_nil, or_false] at hmsg
    rcases hmsg with rfl | rfl | rfl | rfl <;> exact ⟨_, rfl, by decide⟩
  exact ⟨hfit, (framing_roundtrip handshakeSerde handshakeSerde_lawful _ hfit).1⟩

/-! ## Payloads of any length -/

/-- `write_message` fails and writes nothing, or writes one frame: the version, the type, a length
within the limit, and as many bytes. -/
def OneFrameOrNothing (S : Serde) (writer : Writer) (msg : Message) : Prop :=
  (∃ e, (writeMessage S writer msg).1 = .error e) ∧
      (writeMessage S writer msg).2.bytes = writer.bytes ∨
    ∃ (payloadLen : UInt32) (payload : List UInt8), payloadLen ≤ maxPayloadSize ∧
      payload.length = payloadLen.toNat ∧
      (writeMessage S writer msg).2.bytes = writer.bytes ++
        (1 :: msg.msgType.toByte :: Bytes.putU32 payloadLen ++ payload)

/-- A length from `2^32` on that is narrowed to one within the limit. -/
def Wraps (length : ℕ) : Prop :=
  UInt32.size ≤ length ∧ length % UInt32.size ≤ maxPayloadSize.toNat

/-- What a writer that accepts all bytes gets when the narrowed length is within the limit. -/
theorem writeMessage_of_narrowed_le {S : Serde} {msg : Message} {payload : List UInt8}
    (h : msg.encodePayload S = .ok payload)
    (hlen : payload.length % UInt32.size ≤ maxPayloadSize.toNat) (bytes : List UInt8)
    (flushes : Bool) :
    (writeMessage S ⟨bytes, none, flushes⟩ msg).2.bytes = bytes ++ frame msg.msgType payload := by
  unfold writeMessage
  rw [frameBytes_of_narrowed_le h hlen]
  cases flushes <;> rfl

/-- Nothing is written when the narrowed length is above the limit. -/
theorem writeMessage_of_narrowed_gt {S : Serde} {msg : Message} {payload : List UInt8}
    (h : msg.encodePayload S = .ok payload)
    (hlen : maxPayloadSize.toNat < payload.length % UInt32.size) (writer : Writer) :
    ∃ e, writeMessage S writer msg = (.error e, writer) := by
  unfold writeMessage
  simp only [frameBytes, h, bind, Except.bind]
  rw [if_pos (narrowed_gt_iff.mpr hlen)]
  exact ⟨_, rfl⟩

/-- A length that wraps is no frame's: the bytes written are more than any frame has. -/
theorem Wraps.not_oneFrame {S : Serde} {msg : Message} {payload : List UInt8}
    (hwraps : Wraps payload.length) (h : msg.encodePayload S = .ok payload) (bytes : List UInt8)
    (flushes : Bool) : ¬ OneFrameOrNothing S ⟨bytes, none, flushes⟩ msg := by
  have hbytes := writeMessage_of_narrowed_le h hwraps.2 bytes flushes
  have hlong := length_frame msg.msgType payload
  rintro (⟨-, hnothing⟩ | ⟨payloadLen, other, -, hother, hframe⟩)
  · rw [hbytes] at hnothing
    dsimp only at hnothing
    have hlength := congrArg List.length hnothing
    rw [List.length_append, hlong] at hlength
    omega
  · rw [hbytes] at hframe
    have hlength := congrArg List.length (List.append_cancel_left hframe)
    have hsize : payloadLen.toNat < UInt32.size := payloadLen.toNat_lt_size
    have hwrap := hwraps.1
    rw [hlong] at hlength
    simp only [List.length_append, List.length_cons, Bytes.length_putU32, hother] at hlength
    omega

/-- A writer that accepts all bytes gets one frame or nothing, exactly if the length of the payload
does not wrap to one within the limit. -/
theorem one_frame_iff (S : Serde) (bytes : List UInt8) (flushes : Bool) (msg : Message) :
    OneFrameOrNothing S ⟨bytes, none, flushes⟩ msg ↔
      ∀ payload, msg.encodePayload S = .ok payload → ¬ Wraps payload.length := by
  constructor
  · intro hframe payload h hwraps
    exact hwraps.not_oneFrame h bytes flushes hframe
  · intro hwraps
    cases h : msg.encodePayload S with
    | error e =>
      left
      unfold writeMessage
      simp [frameBytes, h, bind, Except.bind]
    | ok payload =>
      rcases Nat.lt_or_ge maxPayloadSize.toNat (payload.length % UInt32.size) with hgt | hle
      · obtain ⟨e, he⟩ := writeMessage_of_narrowed_gt h hgt ⟨bytes, none, flushes⟩
        rw [OneFrameOrNothing, he]
        exact .inl ⟨⟨e, rfl⟩, rfl⟩
      · -- The length did not wrap, and is the one that the header says.
        have hlt : payload.length < UInt32.size := by
          rw [← Nat.not_le]
          exact fun hsize => hwraps payload h ⟨hsize, hle⟩
        have hnarrow : (UInt32.ofNat payload.length).toNat = payload.length := by
          rw [toNat_narrowed, Nat.mod_eq_of_lt hlt]
        refine .inr ⟨.ofNat payload.length, payload, ?_, hnarrow.symm, ?_⟩
        · rw [UInt32.le_iff_toNat_le, toNat_narrowed]
          exact hle
        · exact writeMessage_of_narrowed_le h hle bytes flushes

/-- Every letter of a text in ASCII is one byte of its payload. -/
theorem length_replicate (n : ℕ) :
    (Bytes.asBytes (String.ofList (List.replicate n 'a'))).length = n := by
  unfold Bytes.asBytes
  rw [String.toList_ofList]
  induction n with
  | zero => rfl
  | succ n ih =>
    have hletter : (String.utf8EncodeChar 'a').length = 1 := by decide
    rw [List.replicate_succ, List.flatMap_cons, List.length_append, ih, hletter, Nat.add_comm]

/-- An error text of `2^32` letters is written with a length of zero before it. -/
theorem long_error_not_framed :
    ¬ OneFrameOrNothing handshakeSerde .unlimited
      (.error (String.ofList (List.replicate UInt32.size 'a'))) := by
  have hwraps : Wraps UInt32.size := ⟨Nat.le_refl _, by rw [Nat.mod_self]; exact Nat.zero_le _⟩
  rw [← length_replicate UInt32.size] at hwraps
  exact hwraps.not_oneFrame rfl [] true

end ZoTunnel
