import ZoTunnel.Protocol.Frame

/-!
# Writing what was read

A message that `read_message` returns is not always one that `write_message` accepts. The decoder is
the more liberal of the two: it reads an error text that is not UTF-8 with replacement characters,
each of which takes three bytes, and `serde_json` reads payloads that it would not write, such as
those that leave out an optional field. So the payload of the message may be longer than the one
that was read, and too long for a frame.

`read_message_written` says what happens then: a message whose payload fits is written and reads
back, every other is refused whole, and only error texts that are not UTF-8 and JSON can grow.
-/

namespace ZoTunnel

/-! ## The frame that was read -/

/-- Bytes that read as a message begin with the frame of some payload, which decodes to it. -/
theorem frame_of_readMessage {S : Serde} {input rest : List UInt8} {m : Message}
    (h : readMessage S input = .ok (m, rest)) :
    ∃ msgType sent, input = frame msgType sent ++ rest ∧ sent.length ≤ maxPayloadSize.toNat ∧
      Message.decode S msgType sent = .ok m := by
  unfold readMessage at h
  split at h
  · rename_i version msgTypeByte l0 l1 l2 l3 reader
    dsimp only at h
    split_ifs at h with hversion hlarge
    all_goals obtain ⟨msgType, htype, h⟩ := exists_of_bind_eq_ok h
    · cases h
    rw [gt_iff_lt, UInt32.lt_iff_toNat_lt, Nat.not_lt] at hlarge
    cases hread : Bytes.readExact (Bytes.getU32 l0 l1 l2 l3).toNat reader with
    | none =>
      rw [hread] at h
      cases h
    | some taken =>
      obtain ⟨hreader, hsize⟩ := Bytes.readExact_eq_some hread
      rw [hread] at h
      dsimp only at h
      cases hdecode : Message.decode S msgType taken.1 with
      | error e =>
        rw [hdecode] at h
        cases h
      | ok decoded =>
        rw [hdecode] at h
        obtain ⟨rfl, rfl⟩ := Prod.mk.inj (Except.ok.inj h)
        refine ⟨msgType, taken.1, ?_, by rwa [hsize], hdecode⟩
        -- The header is that of the payload, since each of its fields has been checked.
        unfold frame
        rw [hsize, UInt32.ofNat_toNat, Bytes.putU32_getU32, MessageType.toByte_of_tryFrom htype,
          not_ne_iff.mp hversion, hreader]
        rfl
  · cases h

/-- A payload that decodes with `serde_json` is a message of the payload's kind. -/
theorem exists_of_context_map {α : Type} {text : String} {r : Except Error α} {f : α → Message}
    {m : Message} (h : (context text r).map f = .ok m) : ∃ x, f x = m := by
  cases r with
  | error e => cases h
  | ok x => exact ⟨x, Except.ok.inj h⟩

/-- A message has the type that it was decoded under. -/
theorem msgType_of_decode {S : Serde} {msgType : MessageType} {sent : List UInt8} {m : Message}
    (h : Message.decode S msgType sent = .ok m) : m.msgType = msgType := by
  cases msgType with
  | authReq => obtain ⟨p, rfl⟩ := exists_of_context_map h; rfl
  | authRes => obtain ⟨p, rfl⟩ := exists_of_context_map h; rfl
  | newConn => obtain ⟨p, rfl⟩ := exists_of_context_map h; rfl
  | acceptConn => obtain ⟨p, rfl⟩ := exists_of_context_map h; rfl
  | data => cases h
  | error => obtain rfl := Except.ok.inj h; rfl
  | ping => obtain rfl := Except.ok.inj h; rfl
  | pong => obtain rfl := Except.ok.inj h; rfl
  | close => obtain rfl := Except.ok.inj h; rfl

/-- An error text that was read is the lossy reading of the payload. -/
theorem eq_fromUtf8Lossy_of_decode {S : Serde} {msgType : MessageType} {sent : List UInt8}
    {text : String} (h : Message.decode S msgType sent = .ok (.error text)) :
    msgType = .error ∧ text = Bytes.fromUtf8Lossy sent := by
  have hkind : msgType = .error := (msgType_of_decode h).symm
  subst hkind
  exact ⟨rfl, (Message.error.inj (Except.ok.inj h)).symm⟩

/-! ## The frame that is written -/

/-- The message can be written, and what is written reads back as it. -/
def WritesAgain (S : Serde) (m : Message) : Prop :=
  ∃ out, writeMessage S .unlimited m = (.ok (), ⟨out, none, true⟩) ∧
    ∀ rest, readMessage S (out ++ rest) = .ok (m, rest)

/-- A message is refused whole, with the length of its payload. -/
def RefusedWhole (S : Serde) (m : Message) (length : ℕ) : Prop :=
  ∀ writer, writeMessage S writer m =
    (.error s!"Payload too large: {length} bytes (max {maxPayloadSize})", writer)

/-- A message whose payload fits is written, and reads back. -/
theorem writesAgain_of_le {S : Serde} (hS : S.Lawful) {m : Message} {payload : List UInt8}
    (hencode : m.encodePayload S = .ok payload) (hlen : payload.length ≤ maxPayloadSize.toNat) :
    WritesAgain S m := by
  refine ⟨frame m.msgType payload, ?_, readMessage_frame hS hencode hlen⟩
  rw [Writer.unlimited, writeMessage_of_le hencode hlen, List.nil_append]

/-- A message whose payload does not fit is refused, as long as the length is not narrowed to
another one. -/
theorem refusedWhole_of_lt {S : Serde} {m : Message} {payload : List UInt8}
    (hencode : m.encodePayload S = .ok payload) (hlen : maxPayloadSize.toNat < payload.length)
    (hnarrow : payload.length < UInt32.size) : RefusedWhole S m payload.length := by
  intro writer
  have hsame : payload.length % UInt32.size = payload.length := Nat.mod_eq_of_lt hnarrow
  have hlarge : UInt32.ofNat payload.length > maxPayloadSize := by
    rw [narrowed_gt_iff, hsame]
    exact hlen
  have htext : toString (UInt32.ofNat payload.length) = toString payload.length := by
    have hnat : (UInt32.ofNat payload.length).toNat = payload.length := by
      rw [toNat_narrowed, hsame]
    exact congrArg toString hnat
  unfold writeMessage
  simp only [frameBytes, hencode, bind, Except.bind]
  rw [if_pos hlarge, htext]

/-- A message that was read, with the payload `payload` that `encode_payload` makes of it, can be
written and read again if that payload fits in a frame, and is refused whole otherwise, unless its
length is `2^32` or more. A ping, a pong and a close always fit, and an error text does when it was
sent in UTF-8 or with a third of the limit at most; its payload never has `2^32` bytes. -/
theorem read_message_written {S : Serde} (hS : S.Lawful) {input rest payload : List UInt8}
    {m : Message} (hread : readMessage S input = .ok (m, rest))
    (hencode : m.encodePayload S = .ok payload) :
    (payload.length ≤ maxPayloadSize.toNat → WritesAgain S m) ∧
      (maxPayloadSize.toNat < payload.length → payload.length < UInt32.size →
        RefusedWhole S m payload.length) ∧
      (m = .ping ∨ m = .pong ∨ m = .close → payload = []) ∧
      ∀ text, m = .error text → ∃ sent, input = frame .error sent ++ rest ∧
        sent.length ≤ maxPayloadSize.toNat ∧ (∀ s, sent = Bytes.asBytes s → payload = sent) ∧
        payload.length ≤ 3 * sent.length ∧ payload.length < UInt32.size := by
  refine ⟨writesAgain_of_le hS hencode, refusedWhole_of_lt hencode, ?_, ?_⟩
  · rintro (rfl | rfl | rfl) <;> exact (Except.ok.inj hencode).symm
  · rintro text rfl
    obtain ⟨msgType, sent, hinput, hlen, hdecode⟩ := frame_of_readMessage hread
    obtain ⟨rfl, rfl⟩ := eq_fromUtf8Lossy_of_decode hdecode
    obtain rfl := Except.ok.inj hencode
    have hgrowth := Bytes.length_fromUtf8Lossy_le sent
    have hmax : 3 * maxPayloadSize.toNat < UInt32.size := by decide
    refine ⟨sent, hinput, hlen, ?_, hgrowth, by omega⟩
    rintro s rfl
    rw [Bytes.fromUtf8Lossy_asBytes]

/-- An error text of one letter and one byte that is not UTF-8 grows from two bytes to four. -/
theorem read_message_written_short :
    (4 ≤ maxPayloadSize.toNat → WritesAgain handshakeSerde (.error "n\uFFFD")) ∧
      (maxPayloadSize.toNat < 4 → 4 < UInt32.size →
        RefusedWhole handshakeSerde (.error "n\uFFFD") 4) ∧
      ∃ sent, frame .error [0x6E, 0xFF] = frame .error sent ∧ 4 ≤ 3 * sent.length := by
  have hread :
      readMessage handshakeSerde (frame .error [0x6E, 0xFF]) = .ok (.error "n\uFFFD", []) := by
    decide
  have hencode : Message.encodePayload handshakeSerde (.error "n\uFFFD") =
      .ok [0x6E, 0xEF, 0xBF, 0xBD] := rfl
  obtain ⟨hfits, hlarge, -, herror⟩ := read_message_written handshakeSerde_lawful hread hencode
  obtain ⟨sent, hsent, -, -, hgrowth, -⟩ := herror _ rfl
  rw [List.append_nil] at hsent
  exact ⟨hfits, hlarge, sent, hsent, hgrowth⟩

/-- The lossy reading of bytes 0xFF takes three times as many bytes. -/
theorem length_fromUtf8Lossy_ff (n : ℕ) :
    (Bytes.asBytes (Bytes.fromUtf8Lossy (List.replicate n 0xFF))).length = 3 * n := by
  have hthree : ('\uFFFD').utf8Size = 3 := by decide
  unfold Bytes.fromUtf8Lossy
  rw [Bytes.length_asBytes, String.toList_ofList, List.length_replicate, Bytes.lossyChars_ff]
  induction n with
  | zero => rfl
  | succ n ih => rw [List.replicate_succ, Bytes.utf8Len_cons, ih, hthree]; omega

/-- A frame of an error text with more than a third of the limit in bytes 0xFF is read, and what is
read cannot be written. -/
theorem long_garbage_not_written :
    ¬ ∀ (S : Serde) (input rest : List UInt8) (m : Message), S.Lawful →
      readMessage S input = .ok (m, rest) → WritesAgain S m := by
  intro h
  have hlen : (List.replicate 5592406 (0xFF : UInt8)).length = 5592406 := List.length_replicate
  have hmax : maxPayloadSize.toNat = 16777216 := rfl
  generalize hsent : List.replicate 5592406 (0xFF : UInt8) = sent at hlen
  have hfits : sent.length ≤ maxPayloadSize.toNat := by omega
  have hread := readMessage_header handshakeSerde .error (payloadLen_le hfits) (sent ++ [])
  rw [toNat_payloadLen hfits, Bytes.readExact_append rfl] at hread
  obtain ⟨out, hwrite, -⟩ := h handshakeSerde _ _ _ handshakeSerde_lawful hread
  have hlong : (Bytes.asBytes (Bytes.fromUtf8Lossy sent)).length = 16777218 := by
    rw [← hsent, length_fromUtf8Lossy_ff]
  have hencode : Message.encodePayload handshakeSerde (.error (Bytes.fromUtf8Lossy sent)) =
      .ok (Bytes.asBytes (Bytes.fromUtf8Lossy sent)) := rfl
  have hrefused := refusedWhole_of_lt hencode (by omega) (by rw [hlong]; decide) .unlimited
  rw [hwrite] at hrefused
  cases hrefused

end ZoTunnel
