import Mathlib.Algebra.Group.Nat.Defs
import Mathlib.Data.List.Basic

/-!
# Bytes: exact reads, big-endian words, and UTF-8

A byte stream is the list of the bytes that are still to come. `readExact` takes a number of bytes
off its front, and fails when the stream ends first, as the reads of network code do. `putU32` and
`getU32` are the big-endian form of a 32-bit word.

`asBytes` is the UTF-8 form of a string, and `fromUtf8Lossy` reads any bytes as a string, with one
replacement character for each maximal piece that is not UTF-8. The pieces are those of the Unicode
standard's recommendation, which Rust's `String::from_utf8_lossy` follows: a byte that cannot start
a character, or as much of a truncated character as could have been continued (`invalidLen`).
`fromUtf8Lossy_asBytes` says that the lossy reading gives a string's own bytes back, and
`fromUtf8Lossy_append` that a text which begins with an ASCII character is read whatever bytes are
in front of it.
-/

namespace Bytes

/-! ## Exact reads -/

/-- The next `n` bytes of the stream and the stream after them, or `none` when it ends before. -/
def readExact (n : ℕ) (input : List UInt8) : Option (List UInt8 × List UInt8) :=
  if n ≤ input.length then some (input.take n, input.drop n) else none

/-- An exact read of what was put in front of a stream takes exactly that. -/
theorem readExact_append {n : ℕ} {front : List UInt8} (h : front.length = n) (rest : List UInt8) :
    readExact n (front ++ rest) = some (front, rest) := by
  subst h
  simp [readExact]

/-- An exact read fails on a stream that is too short. -/
theorem readExact_of_lt {n : ℕ} {input : List UInt8} (h : input.length < n) :
    readExact n input = none := by
  simp [readExact, h]

/-- What an exact read takes is the front of the stream. -/
theorem readExact_eq_some {n : ℕ} {input front rest : List UInt8}
    (h : readExact n input = some (front, rest)) : input = front ++ rest ∧ front.length = n := by
  unfold readExact at h
  split_ifs at h with hlen
  obtain ⟨rfl, rfl⟩ := Prod.mk.inj (Option.some.inj h)
  exact ⟨(List.take_append_drop n input).symm, List.length_take_of_le hlen⟩

/-! ## Big-endian words -/

/-- The four bytes of a word, the most significant first. -/
def putU32 (n : UInt32) : List UInt8 :=
  [.ofNat (n.toNat / 2^24), .ofNat (n.toNat / 2^16), .ofNat (n.toNat / 2^8), .ofNat n.toNat]

/-- The word of four bytes, the most significant first. -/
def getU32 (b0 b1 b2 b3 : UInt8) : UInt32 :=
  .ofNat (b0.toNat * 2^24 + b1.toNat * 2^16 + b2.toNat * 2^8 + b3.toNat)

/-- A word written big-endian takes four bytes. -/
@[simp]
theorem length_putU32 (n : UInt32) : (putU32 n).length = 4 := rfl

/-- A word written big-endian reads back. -/
theorem getU32_putU32 (n : UInt32) :
    getU32 (.ofNat (n.toNat / 2^24)) (.ofNat (n.toNat / 2^16)) (.ofNat (n.toNat / 2^8))
      (.ofNat n.toNat) = n := by
  have hn := n.toNat_lt
  apply UInt32.toNat_inj.mp
  simp only [getU32, UInt32.toNat_ofNat', UInt8.toNat_ofNat']
  omega

/-- Four bytes are those of the word that they make. -/
theorem putU32_getU32 (b0 b1 b2 b3 : UInt8) : putU32 (getU32 b0 b1 b2 b3) = [b0, b1, b2, b3] := by
  have h0 := b0.toNat_lt
  have h1 := b1.toNat_lt
  have h2 := b2.toNat_lt
  have h3 := b3.toNat_lt
  have hbyte : ∀ {b : UInt8} {n : ℕ}, n % 256 = b.toNat → UInt8.ofNat n = b := by
    intro b n h
    apply UInt8.toNat_inj.mp
    rw [UInt8.toNat_ofNat']
    exact h
  unfold putU32 getU32
  rw [UInt32.toNat_ofNat', Nat.mod_eq_of_lt (by omega), hbyte (b := b0) (by omega),
    hbyte (b := b1) (by omega), hbyte (b := b2) (by omega), hbyte (b := b3) (by omega)]

/-! ## UTF-8 -/

/-- The UTF-8 bytes of a string. -/
def asBytes (s : String) : List UInt8 := s.toList.flatMap String.utf8EncodeChar

/-- The character that the bytes start with, when they start with one. -/
def decodeChar? (l : List UInt8) : Option Char := l.toByteArray.utf8DecodeChar? 0

/-- Whether a byte continues a character of several bytes. -/
def isContinuation (b : UInt8) : Bool := 0x80 ≤ b && b ≤ 0xBF

/-- Whether `c` can be the second byte of a character of three or four bytes that `b` starts:
overlong forms, surrogates, and characters above U+10FFFF are excluded here. -/
def startsWell (b c : UInt8) : Bool :=
  b == 0xE0 && 0xA0 ≤ c && c ≤ 0xBF || 0xE1 ≤ b && b ≤ 0xEC && isContinuation c ||
    b == 0xED && 0x80 ≤ c && c ≤ 0x9F || 0xEE ≤ b && b ≤ 0xEF && isContinuation c ||
    b == 0xF0 && 0x90 ≤ c && c ≤ 0xBF || 0xF1 ≤ b && b ≤ 0xF3 && isContinuation c ||
    b == 0xF4 && 0x80 ≤ c && c ≤ 0x8F

/-- How many bytes one replacement character stands for, at the front of bytes that do not start
with a character. -/
def invalidLen : List UInt8 → ℕ
  | b :: c :: rest =>
    if startsWell b c then
      match rest with
      | d :: _ => if 0xF0 ≤ b && isContinuation d then 3 else 2
      | [] => 2
    else 1
  | _ => 1

/-- The characters of any bytes, at most `fuel` of them, with U+FFFD for each piece that is no
character. Every piece has a byte at least, so the number of bytes is fuel enough. -/
def lossyChars : ℕ → List UInt8 → List Char
  | 0, _ => []
  | _, [] => []
  | fuel + 1, b :: bs =>
    match decodeChar? (b :: bs) with
    | some c => c :: lossyChars fuel ((b :: bs).drop c.utf8Size)
    | none => '\uFFFD' :: lossyChars fuel ((b :: bs).drop (invalidLen (b :: bs)))

/-- Any bytes as a string, with replacement characters where they are not UTF-8. -/
def fromUtf8Lossy (l : List UInt8) : String := String.ofList (lossyChars l.length l)

/-- The bytes of a character in front of others decode to the character. -/
theorem decodeChar?_utf8EncodeChar_append (c : Char) (l : List UInt8) :
    decodeChar? (String.utf8EncodeChar c ++ l) = some c := by
  unfold decodeChar?
  rw [List.toByteArray_append]
  exact ByteArray.utf8DecodeChar?_utf8EncodeChar_append

/-- The lossy reading of encoded characters gives them back, when the fuel suffices. -/
theorem lossyChars_flatMap (cs : List Char) :
    ∀ fuel, (cs.flatMap String.utf8EncodeChar).length ≤ fuel →
      lossyChars fuel (cs.flatMap String.utf8EncodeChar) = cs := by
  induction cs with
  | nil => intro fuel _; cases fuel <;> rfl
  | cons c cs ih =>
    intro fuel hfuel
    have hlen : (String.utf8EncodeChar c).length = c.utf8Size := String.length_utf8EncodeChar c
    have hpos : 0 < c.utf8Size := Char.utf8Size_pos c
    rw [List.flatMap_cons, List.length_append] at hfuel
    obtain ⟨fuel, rfl⟩ : ∃ n, fuel = n + 1 := ⟨fuel - 1, by omega⟩
    -- The bytes of the first character decode to it, and are dropped.
    have hdecode := decodeChar?_utf8EncodeChar_append c (cs.flatMap String.utf8EncodeChar)
    rw [List.flatMap_cons]
    have hdrop : (String.utf8EncodeChar c ++ cs.flatMap String.utf8EncodeChar).drop c.utf8Size =
        cs.flatMap String.utf8EncodeChar := by rw [← hlen, List.drop_left]
    generalize hl : String.utf8EncodeChar c ++ cs.flatMap String.utf8EncodeChar = l at *
    cases l with
    | nil =>
      have := congrArg List.length hl
      rw [List.length_append, hlen] at this
      simp at this
      omega
    | cons b bs =>
      simp only [lossyChars, hdecode]
      rw [hdrop, ih fuel (by omega)]

/-- The lossy reading of a string's own bytes is the string. -/
theorem fromUtf8Lossy_asBytes (s : String) : fromUtf8Lossy (asBytes s) = s := by
  unfold fromUtf8Lossy asBytes
  rw [lossyChars_flatMap _ _ (Nat.le_refl _), String.ofList_toList]

/-- A byte after the first of a character is 0x80 or more. -/
theorem le_of_mem_tail_utf8EncodeChar {c : Char} {b : UInt8}
    (h : b ∈ (String.utf8EncodeChar c).tail) : 128 ≤ b.toNat := by
  have hcont : ∀ n, 128 ≤ (UInt8.ofNat (n % 64 + 128)).toNat := by
    intro n
    rw [UInt8.toNat_ofNat', Nat.mod_eq_of_lt (by omega)]
    omega
  unfold String.utf8EncodeChar at h
  dsimp only at h
  split_ifs at h <;> simp only [List.tail_cons, List.mem_cons, List.not_mem_nil, or_false] at h
  · exact h ▸ hcont _
  · rcases h with rfl | rfl <;> exact hcont _
  · rcases h with rfl | rfl | rfl <;> exact hcont _

/-- An ASCII byte does not go on with a character, so it does not change how the bytes before it
begin. -/
theorem decodeChar?_append {a : UInt8} (ha : a.toNat < 128) {l : List UInt8} (hl : l ≠ [])
    (rest : List UInt8) : decodeChar? (l ++ a :: rest) = decodeChar? l := by
  cases h : decodeChar? l with
  | some c =>
    unfold decodeChar? at h ⊢
    rw [List.toByteArray_append]
    exact ByteArray.utf8DecodeChar?_append_eq_some h _
  | none =>
    rw [← Option.not_isSome_iff_eq_none, Option.isSome_iff_exists]
    rintro ⟨c, hc⟩
    obtain ⟨bs, hbs⟩ := ByteArray.exists_of_utf8DecodeChar?_eq_some hc
    have hbytes : l ++ a :: rest = String.utf8EncodeChar c ++ bs.data.toList := by
      have hdata := congrArg (fun b : ByteArray => b.data.toList) hbs
      simpa using hdata
    rcases List.append_eq_append_iff.mp hbytes with ⟨r, hchar, hr⟩ | ⟨r, hfront, -⟩
    · -- The character goes on behind `l`: with nothing, or with the ASCII byte.
      cases r with
      | nil =>
        rw [List.append_nil] at hchar
        have hdecode := decodeChar?_utf8EncodeChar_append c []
        rw [List.append_nil, hchar, h] at hdecode
        cases hdecode
      | cons a' r =>
        obtain ⟨rfl, -⟩ := List.cons.inj hr
        have hmem : a ∈ (String.utf8EncodeChar c).tail := by
          rw [hchar, List.tail_append_of_ne_nil hl]
          simp
        exact absurd (le_of_mem_tail_utf8EncodeChar hmem) (Nat.not_le.mpr ha)
    · have hdecode := decodeChar?_utf8EncodeChar_append c r
      rw [← hfront, h] at hdecode
      cases hdecode

/-- Nor does it change how many bytes a replacement character stands for. -/
theorem invalidLen_append {a : UInt8} (ha : a.toNat < 128) {l : List UInt8} (hl : l ≠ [])
    (rest : List UInt8) : invalidLen (l ++ a :: rest) = invalidLen l := by
  have hlow : ∀ c : UInt8, 128 ≤ c.toNat → decide (c ≤ a) = false := by
    intro c hc
    rw [decide_eq_false_iff_not, UInt8.le_iff_toNat_le]
    omega
  have hcont : isContinuation a = false := by
    unfold isContinuation
    rw [hlow 0x80 (by decide), Bool.false_and]
  have hstart : ∀ b, startsWell b a = false := by
    intro b
    unfold startsWell
    simp only [hcont, hlow 0xA0 (by decide), hlow 0x80 (by decide), hlow 0x90 (by decide),
      Bool.and_false, Bool.false_and, Bool.or_false]
  match l, hl with
  | [b], _ => simp [invalidLen, hstart]
  | [b, c], _ => simp [invalidLen, hcont]
  | b :: c :: d :: l, _ => rfl

/-- A replacement character stands for bytes that are there, and for one at least. -/
theorem invalidLen_bounds {l : List UInt8} (hl : l ≠ []) :
    0 < invalidLen l ∧ invalidLen l ≤ l.length := by
  match l, hl with
  | [b], _ => exact ⟨Nat.one_pos, Nat.le_refl 1⟩
  | [b, c], _ =>
    simp only [invalidLen, List.length_cons, List.length_nil]
    split_ifs <;> omega
  | b :: c :: d :: l, _ =>
    simp only [invalidLen, List.length_cons]
    split_ifs <;> omega

/-- The only byte of an ASCII character. -/
theorem utf8EncodeChar_of_lt {c : Char} (h : c.toNat < 128) :
    String.utf8EncodeChar c = [UInt8.ofNat c.toNat] := by
  have hle : c.val.toNat ≤ 0x7f := Nat.le_of_lt_succ h
  unfold String.utf8EncodeChar
  dsimp only
  rw [if_pos hle]
  rfl

/-- The lossy reading of bytes with encoded characters behind them, the first of them ASCII. -/
theorem lossyChars_append {c : Char} (hc : c.toNat < 128) (cs : List Char) :
    ∀ n l fuel, l.length ≤ n →
      (l ++ (c :: cs).flatMap String.utf8EncodeChar).length ≤ fuel →
        lossyChars fuel (l ++ (c :: cs).flatMap String.utf8EncodeChar) =
          lossyChars n l ++ c :: cs := by
  intro n
  induction n with
  | zero =>
    intro l fuel hl hfuel
    obtain rfl : l = [] := List.eq_nil_of_length_eq_zero (Nat.le_zero.mp hl)
    exact lossyChars_flatMap _ fuel hfuel
  | succ n ih =>
    intro l fuel hl hfuel
    cases l with
    | nil => exact lossyChars_flatMap _ fuel hfuel
    | cons b l =>
      rw [List.length_append] at hfuel
      rw [List.length_cons] at hl
      obtain ⟨fuel, rfl⟩ : ∃ m, fuel = m + 1 :=
        ⟨fuel - 1, by rw [List.length_cons] at hfuel; omega⟩
      have htail : (c :: cs).flatMap String.utf8EncodeChar =
          UInt8.ofNat c.toNat :: cs.flatMap String.utf8EncodeChar := by
        rw [List.flatMap_cons, utf8EncodeChar_of_lt hc, List.singleton_append]
      have ha : (UInt8.ofNat c.toNat).toNat < 128 := by
        rwa [UInt8.toNat_ofNat', Nat.mod_eq_of_lt (by omega)]
      -- A piece of the front, with or without what follows.
      have hpiece : ∀ k, 0 < k → k ≤ (b :: l).length →
          lossyChars fuel ((b :: l ++ (c :: cs).flatMap String.utf8EncodeChar).drop k) =
            lossyChars n ((b :: l).drop k) ++ c :: cs := by
        intro k hpos hk
        rw [List.drop_append_of_le_length hk]
        apply ih
        · rw [List.length_drop, List.length_cons]
          omega
        · rw [List.length_append, List.length_drop]
          omega
      have hne := List.cons_ne_nil b l
      have hdecode := decodeChar?_append ha hne (cs.flatMap String.utf8EncodeChar)
      have hinvalid := invalidLen_append ha hne (cs.flatMap String.utf8EncodeChar)
      rw [← htail, List.cons_append] at hdecode hinvalid
      rw [List.cons_append] at hpiece ⊢
      simp only [lossyChars, hdecode, hinvalid]
      cases hchar : decodeChar? (b :: l) with
      | some c' =>
        have hle : c'.utf8Size ≤ (b :: l).length := by
          have hsize := ByteArray.le_size_of_utf8DecodeChar?_eq_some hchar
          simpa using hsize
        dsimp only
        rw [hpiece _ c'.utf8Size_pos hle, List.cons_append]
      | none =>
        obtain ⟨hpos, hle⟩ := invalidLen_bounds hne
        dsimp only
        rw [hpiece _ hpos hle, List.cons_append]

/-- The lossy reading of bytes with a text behind them, if that does not begin with a character of
several bytes. -/
theorem fromUtf8Lossy_append (l : List UInt8) {s : String}
    (hs : ∀ c, s.toList.head? = some c → c.toNat < 128) :
    fromUtf8Lossy (l ++ asBytes s) = fromUtf8Lossy l ++ s := by
  unfold fromUtf8Lossy asBytes
  cases hchars : s.toList with
  | nil =>
    obtain rfl := String.toList_eq_nil_iff.mp hchars
    rw [List.flatMap_nil, List.append_nil, String.append_empty]
  | cons c cs =>
    rw [hchars] at hs
    rw [lossyChars_append (hs c rfl) cs _ _ _ (Nat.le_refl _) (Nat.le_refl _), String.ofList_append,
      ← hchars, String.ofList_toList]

/-- Whether a byte is an ASCII character. -/
def isAscii (b : UInt8) : Bool := b.toNat < 128

/-- The bytes of a character have one ASCII byte if the character is ASCII, and none otherwise. -/
theorem countP_utf8EncodeChar (c : Char) :
    (String.utf8EncodeChar c).countP isAscii = if c.toNat < 128 then 1 else 0 := by
  split_ifs with h
  · have hnat : (UInt8.ofNat c.toNat).toNat = c.toNat := by
      rw [UInt8.toNat_ofNat', Nat.mod_eq_of_lt (by omega)]
    rw [utf8EncodeChar_of_lt h, List.countP_singleton, if_pos]
    unfold isAscii
    rw [hnat, decide_eq_true_eq]
    exact h
  · -- The first byte says how many follow, and is 0xC0 or more.
    have hbig : ∀ n, 128 ≤ n → n < 256 → isAscii (UInt8.ofNat n) = false := by
      intro n hlo hhi
      have hnat : (UInt8.ofNat n).toNat = n := by rw [UInt8.toNat_ofNat', Nat.mod_eq_of_lt hhi]
      unfold isAscii
      rw [hnat, decide_eq_false_iff_not]
      omega
    have hc : ¬ c.val.toNat ≤ 0x7f := fun hle => h (Nat.lt_succ_of_le hle)
    have hlt := c.val.toNat_lt
    unfold String.utf8EncodeChar
    dsimp only
    rw [if_neg hc, List.countP_eq_zero]
    split_ifs <;> intro b hb <;> simp only [List.mem_cons, List.not_mem_nil, or_false] at hb
    · rcases hb with rfl | rfl <;> rw [hbig _ (by omega) (by omega)] <;> exact Bool.false_ne_true
    · rcases hb with rfl | rfl | rfl <;> rw [hbig _ (by omega) (by omega)] <;>
        exact Bool.false_ne_true
    · rcases hb with rfl | rfl | rfl | rfl <;> rw [hbig _ (by omega) (by omega)] <;>
        exact Bool.false_ne_true

/-- The lossy reading has no more ASCII characters than the bytes have. -/
theorem countP_lossyChars (fuel : ℕ) :
    ∀ l, (lossyChars fuel l).countP (·.toNat < 128) ≤ l.countP isAscii := by
  induction fuel with
  | zero => intro l; exact Nat.zero_le _
  | succ fuel ih =>
    intro l
    cases l with
    | nil => exact Nat.zero_le _
    | cons b bs =>
      rw [lossyChars]
      cases hchar : decodeChar? (b :: bs) with
      | some c =>
        obtain ⟨rest, hrest⟩ := ByteArray.exists_of_utf8DecodeChar?_eq_some hchar
        have hbytes : b :: bs = String.utf8EncodeChar c ++ rest.data.toList := by
          have hdata := congrArg (fun b : ByteArray => b.data.toList) hrest
          simpa using hdata
        have hrec := ih rest.data.toList
        dsimp only
        rw [hbytes, List.drop_left' (String.length_utf8EncodeChar c), List.countP_append,
          countP_utf8EncodeChar, List.countP_cons]
        simp only [decide_eq_true_eq]
        omega
      | none =>
        have hsub := List.drop_sublist (invalidLen (b :: bs)) (b :: bs)
        have hrec := ih ((b :: bs).drop (invalidLen (b :: bs)))
        dsimp only
        rw [List.countP_cons_of_neg (by decide)]
        exact Nat.le_trans hrec hsub.countP_le

/-- A truncated three-byte character is one replacement, and a lone continuation byte another. -/
example : fromUtf8Lossy [0x61, 0xE2, 0x82, 0x62, 0x80] = "a\uFFFDb\uFFFD" := by decide

/-! ## Slices of a string by bytes -/

/-- How many bytes the characters take. -/
def utf8Len : List Char → ℕ
  | [] => 0
  | c :: cs => c.utf8Size + utf8Len cs

@[simp]
theorem utf8Len_nil : utf8Len [] = 0 := rfl

@[simp]
theorem utf8Len_cons (c : Char) (cs : List Char) :
    utf8Len (c :: cs) = c.utf8Size + utf8Len cs := rfl

/-- The length of a string in bytes. -/
theorem length_asBytes (s : String) : (asBytes s).length = utf8Len s.toList := by
  unfold asBytes
  induction s.toList with
  | nil => rfl
  | cons c cs ih => rw [List.flatMap_cons, List.length_append, String.length_utf8EncodeChar, ih,
      utf8Len_cons]

/-- Each character takes a byte at least. -/
theorem length_le_utf8Len (cs : List Char) : cs.length ≤ utf8Len cs := by
  induction cs with
  | nil => exact Nat.le_refl 0
  | cons c cs ih =>
    have hpos := c.utf8Size_pos
    rw [List.length_cons, utf8Len_cons]
    omega

/-- The characters in the first `n` bytes, or `none` when these do not end where a character does.
-/
def sliceTo? : ℕ → List Char → Option (List Char)
  | 0, _ => some []
  | _ + 1, [] => none
  | n + 1, c :: cs =>
    if c.utf8Size ≤ n + 1 then (sliceTo? (n + 1 - c.utf8Size) cs).map (c :: ·) else none

/-- The slice is made of the first characters, which take `n` bytes. -/
theorem sliceTo?_eq_some_iff (cs : List Char) :
    ∀ n front, sliceTo? n cs = some front ↔ front <+: cs ∧ utf8Len front = n := by
  -- A character takes a byte at least.
  have hempty : ∀ front, utf8Len front = 0 → front = [] := by
    intro front hlen
    have hle := length_le_utf8Len front
    exact List.eq_nil_of_length_eq_zero (by omega)
  induction cs with
  | nil =>
    intro n front
    rw [List.prefix_nil]
    cases n with
    | zero => exact ⟨fun h => by simp [← Option.some.inj h], fun h => by rw [h.1]; rfl⟩
    | succ n =>
      refine ⟨nofun, ?_⟩
      rintro ⟨rfl, hlen⟩
      exact absurd hlen (Nat.succ_ne_zero n).symm
  | cons c cs ih =>
    intro n front
    have hpos := c.utf8Size_pos
    cases n with
    | zero =>
      constructor
      · intro h
        simp [← Option.some.inj h]
      · rintro ⟨-, hlen⟩
        rw [hempty front hlen]
        rfl
    | succ n =>
      unfold sliceTo?
      rw [Option.ite_none_right_eq_some, Option.map_eq_some_iff]
      constructor
      · rintro ⟨hle, rest, hrest, rfl⟩
        obtain ⟨hstart, hlen⟩ := (ih _ _).mp hrest
        refine ⟨(List.prefix_cons_inj c).mpr hstart, ?_⟩
        rw [utf8Len_cons, hlen]
        omega
      · rintro ⟨hstart, hlen⟩
        obtain rfl | ⟨rest, rfl, hrest⟩ := List.prefix_cons_iff.mp hstart
        · exact absurd hlen (Nat.succ_ne_zero n).symm
        · rw [utf8Len_cons] at hlen
          exact ⟨by omega, rest, (ih _ _).mpr ⟨hrest, by omega⟩, rfl⟩

/-! ## The length of a lossy reading -/

/-- A lossy reading takes at most three bytes for each byte read. -/
theorem utf8Len_lossyChars_le (fuel : ℕ) :
    ∀ l, utf8Len (lossyChars fuel l) ≤ 3 * l.length := by
  induction fuel with
  | zero => exact fun l => Nat.zero_le _
  | succ fuel ih =>
    intro l
    cases l with
    | nil => exact Nat.zero_le _
    | cons b bs =>
      unfold lossyChars
      cases hchar : decodeChar? (b :: bs) with
      | some c =>
        -- The character takes as many bytes as were read for it.
        have hsize : c.utf8Size ≤ (b :: bs).length := by
          have hle := ByteArray.le_size_of_utf8DecodeChar?_eq_some hchar
          simpa using hle
        have hrest := ih ((b :: bs).drop c.utf8Size)
        rw [List.length_drop] at hrest
        dsimp only
        rw [utf8Len_cons]
        omega
      | none =>
        -- The replacement character takes three bytes, and one at least was read for it.
        have hthree : ('\uFFFD').utf8Size = 3 := by decide
        obtain ⟨hpos, hle⟩ := invalidLen_bounds (List.cons_ne_nil b bs)
        have hrest := ih ((b :: bs).drop (invalidLen (b :: bs)))
        rw [List.length_drop] at hrest
        dsimp only
        rw [utf8Len_cons, hthree]
        omega

/-- So the text read has at most three times as many bytes. -/
theorem length_fromUtf8Lossy_le (l : List UInt8) :
    (asBytes (fromUtf8Lossy l)).length ≤ 3 * l.length := by
  unfold fromUtf8Lossy
  rw [length_asBytes, String.toList_ofList]
  exact utf8Len_lossyChars_le l.length l

/-- No character's bytes begin with 0xFF. -/
theorem decodeChar?_ff (l : List UInt8) : decodeChar? (0xFF :: l) = none := by
  rw [Option.eq_none_iff_forall_ne_some]
  intro c hc
  unfold decodeChar? at hc
  obtain ⟨bs, hbs⟩ := ByteArray.exists_of_utf8DecodeChar?_eq_some hc
  have hbytes : 0xFF :: l = String.utf8EncodeChar c ++ bs.data.toList := by
    have hdata := congrArg (fun b : ByteArray => b.data.toList) hbs
    simpa using hdata
  have hfirst : ∀ n, n < 255 → UInt8.ofNat n ≠ 0xFF := by
    intro n hn h
    have hnat := congrArg UInt8.toNat h
    rw [UInt8.toNat_ofNat', Nat.mod_eq_of_lt (by omega)] at hnat
    exact absurd hnat (Nat.ne_of_lt hn)
  have hlt := c.val.toNat_lt
  unfold String.utf8EncodeChar at hbytes
  dsimp only at hbytes
  split_ifs at hbytes <;> rw [List.cons_append] at hbytes <;>
    exact hfirst _ (by omega) (List.cons.inj hbytes).1.symm

/-- Each byte 0xFF is read as one replacement character. -/
theorem lossyChars_ff (n : ℕ) :
    lossyChars n (List.replicate n 0xFF) = List.replicate n '\uFFFD' := by
  induction n with
  | zero => rfl
  | succ n ih =>
    have hone : invalidLen (0xFF :: List.replicate n 0xFF) = 1 := by
      cases n with
      | zero => rfl
      | succ n => rfl
    rw [List.replicate_succ, lossyChars, decodeChar?_ff]
    dsimp only
    rw [hone, List.drop_one, List.tail_cons, ih, List.replicate_succ]

end Bytes
