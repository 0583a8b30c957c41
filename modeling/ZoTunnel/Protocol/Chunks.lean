import ZoTunnel.Lib.Run
import ZoTunnel.Protocol.Frame

/-!
# Reading in chunks

`read_message` on a connection, which delivers the bytes of the stream in chunks of any sizes. A
call of `read_exact` asks for as many bytes as it is short of, and takes what has arrived of them.

`progress` is what `read_message` does after it has read some bytes. `chunks_read` says that it
comes to what `readMessage` returns on the whole stream, however the stream is cut, and that it
takes no byte beyond the frame.
-/

namespace ZoTunnel

/-- The checks of a header: the type and the length of the payload. -/
def checkHeader (version msgTypeByte l0 l1 l2 l3 : UInt8) : Except Error (MessageType × ℕ) := do
  let payloadLen := Bytes.getU32 l0 l1 l2 l3
  if version ≠ protocolVersion then
    .error s!"Protocol version mismatch: got {version}, expected {protocolVersion}"
  else
    let msgType ← MessageType.tryFrom msgTypeByte
    if payloadLen > maxPayloadSize then
      .error s!"Payload too large: {payloadLen} bytes (max {maxPayloadSize})"
    else .ok (msgType, payloadLen.toNat)

/-- How far `read_message` is. -/
inductive Reading where
  /-- It waits for this many bytes, and fails with this error when the stream ends before. -/
  | wants (n : ℕ) (atEnd : Error)
  | done (result : Except Error Message)

/-- What `read_message` does after it has read some bytes. -/
def progress (S : Serde) (got : List UInt8) : Reading :=
  match got with
  | version :: msgTypeByte :: l0 :: l1 :: l2 :: l3 :: payload =>
    match checkHeader version msgTypeByte l0 l1 l2 l3 with
    | .error e => .done (.error e)
    | .ok (msgType, payloadLen) =>
      if payload.length < payloadLen then
        .wants (payloadLen - payload.length) "read message payload"
      else .done (Message.decode S msgType payload)
  | got => .wants (6 - got.length) "read message header"

/-- Nothing has been read that was not asked for. -/
def NotPast (got : List UInt8) : Prop :=
  ∀ version msgTypeByte l0 l1 l2 l3 payload,
    got = version :: msgTypeByte :: l0 :: l1 :: l2 :: l3 :: payload →
      payload.length ≤ ((checkHeader version msgTypeByte l0 l1 l2 l3).map (·.2)).toOption.getD 0

/-- A stream is shorter than a header, or begins with one. -/
theorem short_or_header (got : List UInt8) : got.length < 6 ∨
    ∃ version msgTypeByte l0 l1 l2 l3 payload,
      got = version :: msgTypeByte :: l0 :: l1 :: l2 :: l3 :: payload := by
  match got with
  | [] | [_] | [_, _] | [_, _, _] | [_, _, _, _] | [_, _, _, _, _] => exact .inl (by simp)
  | _ :: _ :: _ :: _ :: _ :: _ :: _ => exact .inr ⟨_, _, _, _, _, _, _, rfl⟩

/-- Before the end of the header the rest of it is asked for. -/
theorem progress_of_short (S : Serde) {got : List UInt8} (h : got.length < 6) :
    progress S got = .wants (6 - got.length) "read message header" := by
  unfold progress
  split
  · simp at h
    omega
  · rfl

/-- A stream that ends in the header is not read. -/
theorem readMessage_of_short (S : Serde) {got : List UInt8} (h : got.length < 6) :
    readMessage S got = .error "read message header" := by
  unfold readMessage
  split
  · simp only [List.length_cons] at h
    omega
  · rfl

/-- After a step that succeeds comes the rest. -/
theorem ok_bind {α β : Type} (a : α) (f : α → Except Error β) : (Except.ok a >>= f) = f a := rfl

section

variable (S : Serde) {version msgTypeByte l0 l1 l2 l3 : UInt8}

/-- A header that fails its checks makes `readMessage` fail. -/
theorem readMessage_of_check_error {e : Error}
    (h : checkHeader version msgTypeByte l0 l1 l2 l3 = .error e) (reader : List UInt8) :
    readMessage S (version :: msgTypeByte :: l0 :: l1 :: l2 :: l3 :: reader) = .error e := by
  unfold checkHeader at h
  unfold readMessage
  dsimp only at h ⊢
  generalize Bytes.getU32 l0 l1 l2 l3 = payloadLen at h ⊢
  by_cases hversion : version ≠ protocolVersion
  · rw [if_pos hversion] at h ⊢
    exact congrArg Except.error (Except.error.inj h)
  · rw [if_neg hversion] at h ⊢
    cases htype : MessageType.tryFrom msgTypeByte with
    | error e' =>
      rw [htype] at h
      exact congrArg Except.error (Except.error.inj h)
    | ok msgType =>
      rw [htype, ok_bind] at h
      rw [ok_bind]
      by_cases hlen : payloadLen > maxPayloadSize
      · rw [if_pos hlen] at h ⊢
        exact congrArg Except.error (Except.error.inj h)
      · rw [if_neg hlen] at h
        cases h

/-- After a header that passes its checks `readMessage` takes the payload off the stream. -/
theorem readMessage_of_check_ok {msgType : MessageType} {payloadLen : ℕ}
    (h : checkHeader version msgTypeByte l0 l1 l2 l3 = .ok (msgType, payloadLen))
    (reader : List UInt8) :
    readMessage S (version :: msgTypeByte :: l0 :: l1 :: l2 :: l3 :: reader) =
      match Bytes.readExact payloadLen reader with
      | none => .error "read message payload"
      | some (payload, reader) => (Message.decode S msgType payload).map (·, reader) := by
  unfold checkHeader at h
  dsimp only at h
  generalize hget : Bytes.getU32 l0 l1 l2 l3 = n at h
  by_cases hversion : version ≠ protocolVersion
  · rw [if_pos hversion] at h
    cases h
  · rw [if_neg hversion] at h
    obtain ⟨msgType', htype, h⟩ := exists_of_bind_eq_ok h
    by_cases hlen : n > maxPayloadSize
    · rw [if_pos hlen] at h
      cases h
    · rw [if_neg hlen] at h
      obtain ⟨rfl, rfl⟩ := Prod.mk.inj (Except.ok.inj h)
      rw [not_ne_iff.mp hversion, ← MessageType.toByte_of_tryFrom htype]
      exact readMessage_cons S msgType' hget hlen reader

end

/-- When it is done, `read_message` has what `readMessage` returns, whatever else is to come. -/
theorem readMessage_of_done {S : Serde} {got : List UInt8} {result : Except Error Message}
    (hgot : NotPast got) (h : progress S got = .done result) (rest : List UInt8) :
    readMessage S (got ++ rest) = result.map (·, rest) := by
  rcases short_or_header got with hshort | ⟨version, msgTypeByte, l0, l1, l2, l3, payload, rfl⟩
  · rw [progress_of_short S hshort] at h
    cases h
  · have hlen := hgot _ _ _ _ _ _ _ rfl
    unfold progress at h
    dsimp only at h
    simp only [List.cons_append]
    cases hcheck : checkHeader version msgTypeByte l0 l1 l2 l3 with
    | error e =>
      rw [hcheck] at h
      obtain rfl := Reading.done.inj h
      exact readMessage_of_check_error S hcheck _
    | ok header =>
      obtain ⟨msgType, payloadLen⟩ := header
      rw [hcheck] at h hlen
      dsimp only [Except.map, Except.toOption, Option.getD] at h hlen
      split_ifs at h with hlt
      obtain rfl := Reading.done.inj h
      rw [readMessage_of_check_ok S hcheck, Bytes.readExact_append (by omega)]

/-- While it waits, the stream read so far is not a message. -/
theorem readMessage_of_wants {S : Serde} {got : List UInt8} {n : ℕ} {atEnd : Error}
    (h : progress S got = .wants n atEnd) : 0 < n ∧ readMessage S got = .error atEnd := by
  rcases short_or_header got with hshort | ⟨version, msgTypeByte, l0, l1, l2, l3, payload, rfl⟩
  · rw [progress_of_short S hshort] at h
    obtain ⟨rfl, rfl⟩ := Reading.wants.inj h
    exact ⟨by omega, readMessage_of_short S hshort⟩
  · unfold progress at h
    dsimp only at h
    cases hcheck : checkHeader version msgTypeByte l0 l1 l2 l3 with
    | error e =>
      rw [hcheck] at h
      cases h
    | ok header =>
      obtain ⟨msgType, payloadLen⟩ := header
      rw [hcheck] at h
      dsimp only at h
      split_ifs at h with hlt
      obtain ⟨rfl, rfl⟩ := Reading.wants.inj h
      rw [readMessage_of_check_ok S hcheck, Bytes.readExact_of_lt hlt]
      exact ⟨by omega, rfl⟩

/-- At the start nothing has been read. -/
theorem notPast_nil : NotPast [] := by
  intro version msgTypeByte l0 l1 l2 l3 payload h
  cases h

/-- Bytes that were asked for may be read. -/
theorem NotPast.append {S : Serde} {got more : List UInt8} {n : ℕ} {atEnd : Error}
    (h : progress S got = .wants n atEnd) (hmore : more.length ≤ n) : NotPast (got ++ more) := by
  intro version msgTypeByte l0 l1 l2 l3 payload heq
  rcases short_or_header got with hshort | ⟨v, t, b0, b1, b2, b3, payload', rfl⟩
  · rw [progress_of_short S hshort] at h
    obtain ⟨rfl, -⟩ := Reading.wants.inj h
    have hlength := congrArg List.length heq
    simp only [List.length_append, List.length_cons] at hlength
    omega
  · simp only [List.cons_append, List.cons.injEq] at heq
    obtain ⟨rfl, rfl, rfl, rfl, rfl, rfl, rfl⟩ := heq
    unfold progress at h
    dsimp only at h
    cases hcheck : checkHeader v t b0 b1 b2 b3 with
    | error e =>
      rw [hcheck] at h
      cases h
    | ok header =>
      obtain ⟨msgType, payloadLen⟩ := header
      rw [hcheck] at h
      dsimp only at h
      split_ifs at h with hlt
      obtain ⟨rfl, -⟩ := Reading.wants.inj h
      simp only [Except.map, Except.toOption, Option.getD, List.length_append]
      omega

/-! ## The reads of one message -/

/-- A call of `read_message`: the bytes that it has read, and those that are still to come. -/
structure ChunkedRead where
  got : List UInt8
  stream : List UInt8
  deriving DecidableEq, Repr

/-- One read, which takes the next `k` bytes, of those that it asks for. -/
def readStep (S : Serde) (r : ChunkedRead) (k : ℕ) : Option ChunkedRead :=
  match progress S r.got with
  | .wants n _ =>
    if 0 < k ∧ k ≤ n ∧ k ≤ r.stream.length then
      some ⟨r.got ++ r.stream.take k, r.stream.drop k⟩
    else none
  | .done _ => none

/-- What the call returns, with the bytes that it leaves, when it does not wait for more. -/
def ChunkedRead.result (S : Serde) (r : ChunkedRead) :
    Option (Except Error (Message × List UInt8)) :=
  match progress S r.got with
  | .done result => some (result.map (·, r.stream))
  | .wants _ atEnd => if r.stream = [] then some (.error atEnd) else none

/-- A call of `read_message` is on its way to what `readMessage` returns on the whole stream. -/
structure ChunkedRead.Agrees (S : Serde) (stream : List UInt8) (r : ChunkedRead) : Prop where
  all : r.got ++ r.stream = stream
  notPast : NotPast r.got
  /-- It returns what `readMessage` returns, and leaves the same bytes. -/
  result : ∀ result, r.result S = some result → readMessage S stream = result
  /-- Otherwise it goes on, with any of the bytes that it asks for. -/
  goesOn : r.result S = none → ∃ n, 0 < n ∧ n ≤ r.stream.length ∧
    ∀ k, 0 < k → k ≤ n → ∃ r', readStep S r k = some r'

variable {S : Serde}

/-- What has been read and what is to come make up the stream. -/
theorem ChunkedRead.Agrees.of_notPast {stream : List UInt8} {r : ChunkedRead}
    (hall : r.got ++ r.stream = stream) (hgot : NotPast r.got) : r.Agrees S stream := by
  refine ⟨hall, hgot, fun result hresult => ?_, fun hresult => ?_⟩
  · unfold ChunkedRead.result at hresult
    rw [← hall]
    split at hresult
    · rename_i result' hdone
      obtain rfl := Option.some.inj hresult
      exact readMessage_of_done hgot hdone r.stream
    · rename_i n atEnd hwants
      split_ifs at hresult with hstream
      obtain rfl := Option.some.inj hresult
      rw [hstream, List.append_nil]
      exact (readMessage_of_wants hwants).2
  · unfold ChunkedRead.result at hresult
    split at hresult
    · cases hresult
    · rename_i n atEnd hwants
      split_ifs at hresult with hstream
      have hpos := (readMessage_of_wants hwants).1
      have hlength := List.length_pos_iff.mpr hstream
      refine ⟨min n r.stream.length, by omega, by omega, fun k hk hkn => ?_⟩
      unfold readStep
      rw [hwants]
      exact ⟨_, if_pos (by omega)⟩

/-- A read takes bytes that were asked for off the stream. -/
theorem readStep_spec {r r' : ChunkedRead} {k : ℕ} (h : readStep S r k = some r') :
    r'.got ++ r'.stream = r.got ++ r.stream ∧ NotPast r'.got ∧
      r'.stream.length < r.stream.length := by
  unfold readStep at h
  split at h
  · rename_i n atEnd hwants
    split_ifs at h with hk
    obtain rfl := Option.some.inj h
    dsimp only
    refine ⟨?_, NotPast.append hwants ?_, ?_⟩
    · rw [List.append_assoc, List.take_append_drop]
    · rw [List.length_take]
      omega
    · rw [List.length_drop]
      omega
  · cases h

/-- However the stream is cut, `read_message` is after each read on its way to what `readMessage`
returns on the whole stream, and it gets there after at most as many reads as there are bytes. -/
theorem chunks_read (S : Serde) (stream : List UInt8) (chunks : List ℕ) :
    Transition.Visits (readStep S) (ChunkedRead.Agrees S stream) ⟨[], stream⟩ chunks ∧
      ∀ r, Transition.exec (readStep S) ⟨[], stream⟩ chunks = some r →
        chunks.length + r.stream.length ≤ stream.length := by
  constructor
  · have hstart : ChunkedRead.Agrees S stream ⟨[], stream⟩ := .of_notPast rfl notPast_nil
    refine Transition.visits_of_invariant (fun r k r' hr hstep => ?_) hstart chunks
    obtain ⟨hall, hgot, -⟩ := readStep_spec hstep
    exact ChunkedRead.Agrees.of_notPast (hall.trans hr.all) hgot
  · intro r hrun
    exact Transition.length_le_of_decreasing (f := fun r => r.stream.length)
      (fun _ _ _ hstep => (readStep_spec hstep).2.2) hrun

end ZoTunnel
