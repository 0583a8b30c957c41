import ZoTunnel.Client.Connect
import ZoTunnel.Lib.Bytes

/-!
# The masked token

`SavedCredentials::masked_token` (`config.rs`) is what the status command shows of the saved token:
its first four bytes and `****`, or `****` alone when it has no more bytes than that. A slice that
does not end where a character does panics. `masked_token_iff` says for which tokens the result
shows no more than the first four characters, and nothing of a token that has only those.
-/

namespace ZoTunnel

/-- How a call ends that can panic. -/
inductive Called (α : Type) where
  | returned (value : α)
  | panicked
  deriving DecidableEq, Repr

/-- Return a masked version of the token for display. -/
def SavedCredentials.maskedToken (creds : SavedCredentials) : Called String :=
  if (Bytes.asBytes creds.token).length ≤ 4 then .returned "****"
  else
    match Bytes.sliceTo? 4 creds.token.toList with
    | some visible => .returned (String.ofList visible ++ "****")
    | none => .panicked

/-- The call returns some of the first four characters with `****` behind them, and none when the
token has no more. -/
def MaskedWell (token : String) (masked : Called String) : Prop :=
  ∃ visible, visible <+: token.toList.take 4 ∧
    masked = .returned (String.ofList visible ++ "****") ∧ (token.length ≤ 4 → visible = [])

/-- Whether a character begins or ends at byte `n` of the text. -/
def IsCharBoundary (s : String) (n : ℕ) : Prop :=
  ∃ front, front <+: s.toList ∧ Bytes.utf8Len front = n

/-- Four bytes are four characters at most. -/
theorem prefix_take_of_utf8Len {front cs : List Char} (h : front <+: cs)
    (hlen : Bytes.utf8Len front = 4) : front <+: cs.take 4 := by
  have hle := Bytes.length_le_utf8Len front
  rw [List.prefix_iff_eq_take.mp h]
  exact List.take_prefix_take_left (by omega)

/-- The slice is there exactly if byte 4 is a character boundary. -/
theorem sliceTo?_isSome_iff (s : String) (n : ℕ) :
    (Bytes.sliceTo? n s.toList).isSome ↔ IsCharBoundary s n := by
  rw [Option.isSome_iff_exists]
  exact exists_congr (Bytes.sliceTo?_eq_some_iff s.toList n)

/-- The mask of a token behind which `****` stands says what is visible. -/
theorem visible_inj {visible visible' : List Char}
    (h : Called.returned (String.ofList visible ++ "****") =
      Called.returned (String.ofList visible' ++ "****")) : visible = visible' := by
  have hchars := congrArg String.toList (Called.returned.inj h)
  simp only [String.toList_append, String.toList_ofList] at hchars
  exact List.append_cancel_right hchars

/-- A token of more than four bytes is masked well if and only if byte 4 is a character boundary and
the token has more than four characters. -/
theorem maskedWell_of_lt {creds : SavedCredentials}
    (hlong : 4 < (Bytes.asBytes creds.token).length) :
    MaskedWell creds.token creds.maskedToken ↔
      IsCharBoundary creds.token 4 ∧ 4 < creds.token.length := by
  unfold SavedCredentials.maskedToken
  rw [if_neg (by omega), ← sliceTo?_isSome_iff]
  cases hslice : Bytes.sliceTo? 4 creds.token.toList with
  | none =>
    constructor
    · rintro ⟨visible, -, hpanicked, -⟩
      cases hpanicked
    · rintro ⟨hsome, -⟩
      cases hsome
  | some visible =>
    obtain ⟨hstart, hlen⟩ := (Bytes.sliceTo?_eq_some_iff _ _ _).mp hslice
    constructor
    · rintro ⟨shown, -, hmasked, hshort⟩
      refine ⟨rfl, Nat.lt_of_not_le fun hle => ?_⟩
      have hshown : visible = [] := (visible_inj hmasked).trans (hshort hle)
      rw [hshown] at hlen
      exact absurd hlen (by decide)
    · rintro ⟨-, hchars⟩
      exact ⟨visible, prefix_take_of_utf8Len hstart hlen, rfl, fun hle => absurd hle (by omega)⟩

/-- A token of at most four bytes is masked whole. -/
theorem maskedWell_of_le {creds : SavedCredentials}
    (hshort : (Bytes.asBytes creds.token).length ≤ 4) :
    MaskedWell creds.token creds.maskedToken := by
  refine ⟨[], List.nil_prefix, ?_, fun _ => rfl⟩
  unfold SavedCredentials.maskedToken
  rw [if_pos hshort]
  rfl

/-- The masked token is right exactly for the tokens of at most four bytes, and for those of more
than four characters of which some take exactly the first four bytes. -/
theorem masked_token_iff (creds : SavedCredentials) :
    MaskedWell creds.token creds.maskedToken ↔
      (Bytes.asBytes creds.token).length ≤ 4 ∨
        IsCharBoundary creds.token 4 ∧ 4 < creds.token.length := by
  by_cases hshort : (Bytes.asBytes creds.token).length ≤ 4
  · exact ⟨fun _ => .inl hshort, fun _ => maskedWell_of_le hshort⟩
  · rw [maskedWell_of_lt (by omega)]
    exact (or_iff_right hshort).symm

/-- The status command panics on the token `日本語`. -/
theorem masked_token_panics :
    ¬ ∀ creds : SavedCredentials, MaskedWell creds.token creds.maskedToken := by
  intro h
  obtain ⟨visible, -, hmasked, -⟩ := h ⟨"tunnel.example.com:6210", "日本語", ⟨true, "", false⟩⟩
  have hpanicked : SavedCredentials.maskedToken
      ⟨"tunnel.example.com:6210", "日本語", ⟨true, "", false⟩⟩ = .panicked := by decide
  rw [hpanicked] at hmasked
  cases hmasked

/-- ASCII characters take a byte each. -/
theorem utf8Len_of_ascii {cs : List Char} (hascii : ∀ c ∈ cs, c.toNat < 128) :
    Bytes.utf8Len cs = cs.length := by
  induction cs with
  | nil => rfl
  | cons c cs ih =>
    have hone : c.utf8Size = 1 := by
      rw [← String.length_utf8EncodeChar, Bytes.utf8EncodeChar_of_lt (hascii c List.mem_cons_self)]
      rfl
    have hrest := ih fun d hd => hascii d (List.mem_cons_of_mem _ hd)
    rw [Bytes.utf8Len_cons, hone, hrest, List.length_cons, Nat.add_comm]

/-- An ASCII token, as `generate_token` of the server makes them, is masked well. -/
theorem maskedWell_of_ascii {creds : SavedCredentials}
    (hascii : ∀ c ∈ creds.token.toList, c.toNat < 128) :
    MaskedWell creds.token creds.maskedToken := by
  by_cases hshort : (Bytes.asBytes creds.token).length ≤ 4
  · exact maskedWell_of_le hshort
  have hlen : 4 < creds.token.toList.length := by
    rw [Bytes.length_asBytes, utf8Len_of_ascii hascii] at hshort
    omega
  refine (maskedWell_of_lt (by omega)).mpr
      ⟨⟨creds.token.toList.take 4, List.take_prefix _ _, ?_⟩, ?_⟩
  · rw [utf8Len_of_ascii fun c hc => hascii c (List.mem_of_mem_take hc), List.length_take]
    omega
  · rwa [String.length_toList] at hlen

end ZoTunnel
