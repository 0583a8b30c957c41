import ZoTunnel.Lib.File
import ZoTunnel.Lib.Form
import ZoTunnel.Lib.Url

/-!
# Texts in the path of a URL

`encodeURIComponent` is ECMAScript's: it writes a text so that it can stand in a URL. `decode?`
reads such a text back, and fails on bytes that are not UTF-8 (`decode?_encodeURIComponent`).

`resolve` is what a browser makes of a reference that begins with one slash, as the URL standard
says. It takes the segments of one or two dots out of the path, also where a dot is written as an
escape. So a text that is one segment of a path arrives unless it is `.` or `..`: these are the only
ones whose encoding is dots (`eq_replicate_of_dots`), and a path whose other segments are none is
left as it is (`resolve_path`, `resolveDots_of_forall`).
-/

namespace Percent

open Bytes (asBytes fromUtf8?)
open Form (escape?)
open Text (hexDigit?)

/-! ## Encoding and decoding -/

/-- The characters that `encodeURIComponent` keeps. -/
def isKept (c : Char) : Bool :=
  c.isAlphanum || ['-', '_', '.', '!', '~', '*', '\'', '(', ')'].contains c

/-- A hexadecimal digit, as escapes have it. -/
def hexDigit (n : ℕ) : Char := if n < 10 then .ofNat (48 + n) else .ofNat (55 + n)

/-- The escape of a byte. -/
def encodeByte (b : UInt8) : List Char :=
  ['%', hexDigit (b.toNat / 16), hexDigit (b.toNat % 16)]

/-- A character as it is written. -/
def encodeChar (c : Char) : List Char :=
  if isKept c then [c] else (String.utf8EncodeChar c).flatMap encodeByte

/-- `encodeURIComponent`. -/
def encodeURIComponent (s : String) : String := String.ofList (s.toList.flatMap encodeChar)

/-- The bytes that a text stands for. -/
def decodedBytes : List Char → List UInt8
  | [] => []
  | c :: high :: low :: rest =>
    match escape? c high low with
    | some b => b :: decodedBytes rest
    | none => String.utf8EncodeChar c ++ decodedBytes (high :: low :: rest)
  | c :: rest => String.utf8EncodeChar c ++ decodedBytes rest

/-- The text that is read, if its bytes are UTF-8. -/
def decode? (s : String) : Option String := fromUtf8? (decodedBytes s.toList)

/-- A digit is read back. -/
theorem hexDigit?_hexDigit {n : ℕ} (h : n < 16) : hexDigit? (hexDigit n) = some n := by
  have hall : ∀ n : Fin 16, hexDigit? (hexDigit n) = some n.val := by decide
  exact hall ⟨n, h⟩

/-- A digit is a character that is kept. -/
theorem isKept_hexDigit {n : ℕ} (h : n < 16) : isKept (hexDigit n) = true := by
  have hall : ∀ n : Fin 16, isKept (hexDigit n) = true := by decide
  exact hall ⟨n, h⟩

/-- The two digits of a byte. -/
theorem digits_lt (b : UInt8) : b.toNat / 16 < 16 ∧ b.toNat % 16 < 16 := by
  have hb := b.toNat_lt
  omega

/-- The escape of a byte stands for it. -/
theorem decodedBytes_encodeByte (b : UInt8) (rest : List Char) :
    decodedBytes (encodeByte b ++ rest) = b :: decodedBytes rest := by
  obtain ⟨hhigh, hlow⟩ := digits_lt b
  have hsum : 16 * (b.toNat / 16) + b.toNat % 16 = b.toNat := by omega
  have hescape : escape? '%' (hexDigit (b.toNat / 16)) (hexDigit (b.toNat % 16)) = some b := by
    unfold escape?
    rw [if_pos rfl, hexDigit?_hexDigit hhigh, hexDigit?_hexDigit hlow]
    dsimp only
    rw [hsum, UInt8.ofNat_toNat]
  unfold encodeByte
  rw [List.cons_append, List.cons_append, List.singleton_append, decodedBytes, hescape]

/-- The escapes of bytes stand for these. -/
theorem decodedBytes_flatMap_encodeByte (l : List UInt8) (rest : List Char) :
    decodedBytes (l.flatMap encodeByte ++ rest) = l ++ decodedBytes rest := by
  induction l with
  | nil => rfl
  | cons b l ih =>
    rw [List.flatMap_cons, List.append_assoc, decodedBytes_encodeByte, ih, List.cons_append]

/-- A character that begins no escape stands for itself. -/
theorem decodedBytes_cons {c : Char} (hc : c ≠ '%') (rest : List Char) :
    decodedBytes (c :: rest) = String.utf8EncodeChar c ++ decodedBytes rest := by
  have hnone : ∀ high low, escape? c high low = none := fun high low => if_neg hc
  match rest with
  | [] => rfl
  | [_] => rfl
  | high :: low :: rest => rw [decodedBytes, hnone]

/-- The percent sign is not kept. -/
theorem ne_percent_of_isKept {c : Char} (h : isKept c = true) : c ≠ '%' := by
  rintro rfl
  exact absurd h (by decide)

/-- A character that has been encoded stands for its bytes. -/
theorem decodedBytes_encodeChar (c : Char) (rest : List Char) :
    decodedBytes (encodeChar c ++ rest) = String.utf8EncodeChar c ++ decodedBytes rest := by
  unfold encodeChar
  split_ifs with hc
  · exact decodedBytes_cons (ne_percent_of_isKept hc) rest
  · exact decodedBytes_flatMap_encodeByte _ rest

/-- A text that has been encoded stands for its bytes. -/
theorem decodedBytes_encodeURIComponent (s : String) :
    decodedBytes (encodeURIComponent s).toList = asBytes s := by
  have hlist : ∀ cs : List Char,
      decodedBytes (cs.flatMap encodeChar) = cs.flatMap String.utf8EncodeChar := by
    intro cs
    induction cs with
    | nil => rfl
    | cons c cs ih => rw [List.flatMap_cons, decodedBytes_encodeChar, ih, List.flatMap_cons]
  unfold encodeURIComponent asBytes
  rw [String.toList_ofList, hlist]

/-- A text that has been encoded is read back. -/
theorem decode?_encodeURIComponent (s : String) : decode? (encodeURIComponent s) = some s :=
  Bytes.fromUtf8?_eq_some_iff.mpr (decodedBytes_encodeURIComponent s).symm

/-- The characters of an encoded text. -/
theorem mem_encodeURIComponent {s : String} {c : Char} (h : c ∈ (encodeURIComponent s).toList) :
    isKept c = true ∨ c = '%' := by
  unfold encodeURIComponent at h
  rw [String.toList_ofList, List.mem_flatMap] at h
  obtain ⟨d, -, hd⟩ := h
  unfold encodeChar at hd
  split_ifs at hd with hkept
  · rw [List.mem_singleton.mp hd]
    exact .inl hkept
  · obtain ⟨b, -, hb⟩ := List.mem_flatMap.mp hd
    obtain ⟨hhigh, hlow⟩ := digits_lt b
    unfold encodeByte at hb
    rcases List.mem_cons.mp hb with rfl | hb
    · exact .inr rfl
    · rcases List.mem_cons.mp hb with rfl | hb
      · exact .inl (isKept_hexDigit hhigh)
      · rw [List.mem_singleton.mp hb]
        exact .inl (isKept_hexDigit hlow)

/-- Only the empty text is written as nothing. -/
theorem encodeURIComponent_eq_empty_iff {s : String} : encodeURIComponent s = "" ↔ s = "" := by
  constructor
  · intro h
    have hread := decode?_encodeURIComponent s
    rw [h] at hread
    exact (Option.some.inj (hread.symm.trans (decode?_encodeURIComponent ""))).trans rfl
  · rintro rfl
    rfl

/-! ## Dots -/

/-- How many dots a segment is, when it is nothing else. Each can be an escape. -/
def dots : List Char → Option ℕ
  | [] => some 0
  | '.' :: rest => (dots rest).map (· + 1)
  | '%' :: '2' :: e :: rest => if e = 'e' ∨ e = 'E' then (dots rest).map (· + 1) else none
  | _ => none

/-- Dots stand for dots. -/
theorem decodedBytes_of_dots (cs : List Char) :
    ∀ n, dots cs = some n → decodedBytes cs = List.replicate n 46 := by
  fun_induction dots cs with
  | case1 =>
    intro n h
    rw [← Option.some.inj h]
    rfl
  | case2 rest ih =>
    intro n h
    obtain ⟨m, hm, rfl⟩ := Option.map_eq_some_iff.mp h
    rw [decodedBytes_cons (by decide), ih m hm, List.replicate_succ]
    rfl
  | case3 e rest he ih =>
    intro n h
    obtain ⟨m, hm, rfl⟩ := Option.map_eq_some_iff.mp h
    have hescape : escape? '%' '2' e = some 46 := by rcases he with rfl | rfl <;> decide
    rw [decodedBytes, hescape, ih m hm, List.replicate_succ]
  | case4 e rest he => exact nofun
  | case5 => exact nofun

/-- The encoding of a text is dots only if the text is. -/
theorem eq_replicate_of_dots {s : String} {n : ℕ}
    (h : dots (encodeURIComponent s).toList = some n) :
    s = String.ofList (List.replicate n '.') := by
  have hlist : ∀ n, (List.replicate n '.').flatMap String.utf8EncodeChar =
      List.replicate n 46 := by
    intro n
    induction n with
    | zero => rfl
    | succ n ih =>
      rw [List.replicate_succ, List.flatMap_cons, ih, List.replicate_succ]
      rfl
  have hdots : asBytes (String.ofList (List.replicate n '.')) = List.replicate n 46 := by
    unfold asBytes
    rw [String.toList_ofList, hlist]
  have hbytes := decodedBytes_of_dots _ n h
  rw [decodedBytes_encodeURIComponent, ← hdots] at hbytes
  have hread := congrArg Bytes.fromUtf8Lossy hbytes
  rwa [Bytes.fromUtf8Lossy_asBytes, Bytes.fromUtf8Lossy_asBytes] at hread

/-- What a path has in front of it, and its segments, without those of dots. One dot stands for
nothing, and two take the segment in front of them away. -/
def resolveDots : List String → List String → List String
  | front, [] => front.reverse
  | front, [last] =>
    match dots last.toList with
    | some 1 => ("" :: front).reverse
    | some 2 => ("" :: front.tail).reverse
    | _ => (last :: front).reverse
  | front, segment :: next :: rest =>
    match dots segment.toList with
    | some 1 => resolveDots front (next :: rest)
    | some 2 => resolveDots front.tail (next :: rest)
    | _ => resolveDots (segment :: front) (next :: rest)

/-- A segment that is neither of one dot nor of two. -/
def NotDots (segment : String) : Prop :=
  dots segment.toList ≠ some 1 ∧ dots segment.toList ≠ some 2

instance (segment : String) : Decidable (NotDots segment) := by
  unfold NotDots
  infer_instance

/-- Segments that are not dots stay. -/
theorem resolveDots_of_forall {front l : List String} (h : ∀ segment ∈ l, NotDots segment) :
    resolveDots front l = front.reverse ++ l := by
  induction l generalizing front with
  | nil => rw [resolveDots, List.append_nil]
  | cons segment l ih =>
    obtain ⟨hone, htwo⟩ := h segment List.mem_cons_self
    have hrest : ∀ front, resolveDots front l = front.reverse ++ l :=
      fun front => ih fun s hs => h s (List.mem_cons_of_mem _ hs)
    have hcons : (segment :: front).reverse ++ l = front.reverse ++ segment :: l := by
      rw [List.reverse_cons, List.append_assoc, List.singleton_append]
    cases l with
    | nil =>
      unfold resolveDots
      split
      · rename_i hdots
        exact absurd hdots hone
      · rename_i hdots
        exact absurd hdots htwo
      · exact List.reverse_cons
    | cons next l =>
      unfold resolveDots
      split
      · rename_i hdots
        exact absurd hdots hone
      · rename_i hdots
        exact absurd hdots htwo
      · rw [hrest, hcons]

/-- What is left of segments is theirs, or nothing. -/
theorem mem_resolveDots {front l : List String} {s : String} (h : s ∈ resolveDots front l) :
    s = "" ∨ s ∈ front ∨ s ∈ l := by
  fun_induction resolveDots front l with
  | case1 front => exact .inr (.inl (List.mem_reverse.mp h))
  | case2 front last hdots =>
    rcases List.mem_cons.mp (List.mem_reverse.mp h) with rfl | h
    · exact .inl rfl
    · exact .inr (.inl h)
  | case3 front last hdots =>
    rcases List.mem_cons.mp (List.mem_reverse.mp h) with rfl | h
    · exact .inl rfl
    · exact .inr (.inl (List.mem_of_mem_tail h))
  | case4 front last hone htwo =>
    rcases List.mem_cons.mp (List.mem_reverse.mp h) with rfl | h
    · exact .inr (.inr List.mem_cons_self)
    · exact .inr (.inl h)
  | case5 front segment next rest hdots ih =>
    rcases ih h with hempty | hfront | hrest
    · exact .inl hempty
    · exact .inr (.inl hfront)
    · exact .inr (.inr (List.mem_cons_of_mem _ hrest))
  | case6 front segment next rest hdots ih =>
    rcases ih h with hempty | hfront | hrest
    · exact .inl hempty
    · exact .inr (.inl (List.mem_of_mem_tail hfront))
    · exact .inr (.inr (List.mem_cons_of_mem _ hrest))
  | case7 front segment next rest hone htwo ih =>
    rcases ih h with hempty | hfront | hrest
    · exact .inl hempty
    · rcases List.mem_cons.mp hfront with rfl | hfront
      · exact .inr (.inr List.mem_cons_self)
      · exact .inr (.inl hfront)
    · exact .inr (.inr (List.mem_cons_of_mem _ hrest))

/-- Something is left of them. -/
theorem resolveDots_ne_nil {front l : List String} (hne : l ≠ []) : resolveDots front l ≠ [] := by
  fun_induction resolveDots front l with
  | case1 front => exact absurd rfl hne
  | case2 front last hdots | case3 front last hdots | case4 front last hone htwo => simp
  | case5 front segment next rest hdots ih | case6 front segment next rest hdots ih
  | case7 front segment next rest hone htwo ih => exact ih (List.cons_ne_nil _ _)

/-! ## References -/

/-- The path of segments. -/
def path (segments : List String) : String := "/" ++ "/".intercalate segments

/-- The segments of a path. -/
def segments (path : String) : List String := Text.split (String.ofList (path.toList.drop 1)) '/'

/-- The segments of a path are those it is made of. -/
theorem segments_path {l : List String} (hne : l ≠ []) (h : ∀ s ∈ l, '/' ∉ s.toList) :
    segments (path l) = l := by
  have hdrop : (path l).toList.drop 1 = ("/".intercalate l).toList := by
    unfold path
    rw [String.toList_append]
    rfl
  unfold segments
  rw [hdrop, String.ofList_toList, Text.split_intercalate rfl hne h]

/-- Whether a character is escaped in a path. -/
def isPathEscaped (c : Char) : Bool :=
  c.toNat ≤ 0x20 || 0x7E < c.toNat ||
    ['"', '#', '<', '>', '?', '^', '\x60', '\x7b', '\x7d'].contains c

/-- A character of a path, as a browser has it. -/
def pathChar (c : Char) : List Char :=
  if isPathEscaped c then (String.utf8EncodeChar c).flatMap encodeByte else [c]

/-- A backslash is as good as a slash. -/
def slashed (c : Char) : Char := if c = '\\' then '/' else c

/-- The characters of a reference up to its query, without tabs and line breaks, and without what is
blank around it. -/
def referencePath (reference : String) : List Char :=
  let isBlank : Char → Bool := fun c => c.toNat ≤ 0x20
  let text := ((reference.toList.dropWhile isBlank).reverse.dropWhile isBlank).reverse
  let text := text.filter fun c => c ≠ '\t' && c ≠ '\n' && c ≠ '\r'
  ((text.takeWhile Url.inPath).map slashed).flatMap pathChar

/-- The path that a browser asks for, for a reference that begins with one slash. -/
def resolve (reference : String) : String :=
  path (resolveDots [] (segments (String.ofList (referencePath reference))))

/-- A character that stays as it is in a path. -/
def isPathChar (c : Char) : Bool := isKept c || c = '%' || c = '/'

/-- Such a character is ASCII and visible. -/
theorem toNat_of_isPathChar {c : Char} (h : isPathChar c = true) :
    0x20 < c.toNat ∧ c.toNat ≤ 0x7E := by
  unfold isPathChar isKept at h
  simp only [Bool.or_eq_true, decide_eq_true_eq, List.contains_iff_mem] at h
  rcases h with ((halnum | hmem) | rfl) | rfl
  · unfold Char.isAlphanum Char.isAlpha Char.isUpper Char.isLower Char.isDigit at halnum
    simp only [Bool.or_eq_true, Bool.and_eq_true, decide_eq_true_eq, UInt32.le_iff_toNat_le,
      ge_iff_le] at halnum
    have hval : c.toNat = c.val.toNat := rfl
    rw [hval]
    rcases halnum with (⟨hlow, hhigh⟩ | ⟨hlow, hhigh⟩) | ⟨hlow, hhigh⟩
    · exact ⟨Nat.lt_of_lt_of_le (by decide) hlow, hhigh.trans (by decide)⟩
    · exact ⟨Nat.lt_of_lt_of_le (by decide) hlow, hhigh.trans (by decide)⟩
    · exact ⟨Nat.lt_of_lt_of_le (by decide) hlow, hhigh.trans (by decide)⟩
  · have hall : ['-', '_', '.', '!', '~', '*', '\'', '(', ')'].all
        (fun c => 0x20 < c.toNat && c.toNat ≤ 0x7E) = true := by decide
    have hc := List.all_eq_true.mp hall c hmem
    rw [Bool.and_eq_true, decide_eq_true_eq, decide_eq_true_eq] at hc
    exact hc
  · decide
  · decide

/-- What a browser looks for in a reference is none of these characters. -/
theorem isPathChar_facts {c : Char} (h : isPathChar c = true) :
    Url.inPath c = true ∧ slashed c = c ∧ pathChar c = [c] := by
  have hne : ∀ d : Char, isPathChar d = false → c ≠ d := by
    rintro d hd rfl
    exact absurd h (by rw [hd]; decide)
  obtain ⟨hlow, hhigh⟩ := toNat_of_isPathChar h
  refine ⟨?_, if_neg (hne _ (by decide)), if_neg ?_⟩
  · unfold Url.inPath
    rw [Bool.and_eq_true, decide_eq_true_eq, decide_eq_true_eq]
    exact ⟨hne _ (by decide), hne _ (by decide)⟩
  · unfold isPathEscaped
    rw [Bool.or_eq_true, Bool.or_eq_true, decide_eq_true_eq, decide_eq_true_eq,
      List.contains_iff_mem]
    rintro ((hc | hc) | hc)
    · omega
    · omega
    · have hall : ['"', '#', '<', '>', '?', '^', '\x60', '\x7b', '\x7d'].all
          (fun d => !isPathChar d) = true := by decide
      have hnot := List.all_eq_true.mp hall c hc
      rw [h] at hnot
      exact absurd hnot (by decide)

/-- Texts of characters that are no blanks are not cut. -/
theorem dropWhile_of_forall {p : Char → Bool} {l : List Char} (h : ∀ c ∈ l, p c = false) :
    l.dropWhile p = l := by
  cases l with
  | nil => rfl
  | cons c l => exact List.dropWhile_cons_of_neg (by rw [h c List.mem_cons_self]; decide)

/-- A reference of such characters is taken as it is. -/
theorem referencePath_of_forall {reference : String}
    (h : ∀ c ∈ reference.toList, isPathChar c = true) :
    referencePath reference = reference.toList := by
  have hblank : ∀ c ∈ reference.toList, decide (c.toNat ≤ 0x20) = false := by
    intro c hc
    have hlow := (toNat_of_isPathChar (h c hc)).1
    rw [decide_eq_false_iff_not]
    omega
  have hback : ∀ c ∈ reference.toList.reverse, decide (c.toNat ≤ 0x20) = false :=
    fun c hc => hblank c (List.mem_reverse.mp hc)
  have hfilter : reference.toList.filter (fun c => c ≠ '\t' && c ≠ '\n' && c ≠ '\r') =
      reference.toList := by
    rw [List.filter_eq_self]
    intro c hc
    have hlow := (toNat_of_isPathChar (h c hc)).1
    have hne : ∀ d : Char, d.toNat ≤ 0x20 → decide (c ≠ d) = true := by
      intro d hd
      rw [decide_eq_true_eq]
      rintro rfl
      omega
    rw [hne _ (by decide), hne _ (by decide), hne _ (by decide)]
    rfl
  have htake : reference.toList.takeWhile Url.inPath = reference.toList :=
    List.takeWhile_eq_self_iff.mpr fun c hc => (isPathChar_facts (h c hc)).1
  have hslash : reference.toList.map slashed = reference.toList :=
    (List.map_congr_left fun c hc => (isPathChar_facts (h c hc)).2.1).trans (List.map_id _)
  have hflat : ∀ l : List Char, (∀ c ∈ l, isPathChar c = true) → l.flatMap pathChar = l := by
    intro l hl
    induction l with
    | nil => rfl
    | cons c l ih =>
      rw [List.flatMap_cons, (isPathChar_facts (hl c List.mem_cons_self)).2.2,
        ih fun d hd => hl d (List.mem_cons_of_mem _ hd), List.singleton_append]
  unfold referencePath
  dsimp only
  rw [dropWhile_of_forall hblank, dropWhile_of_forall hback, List.reverse_reverse, hfilter, htake,
    hslash, hflat _ h]

/-- A character of a segment. -/
def isSegmentChar (c : Char) : Bool := isKept c || c = '%'

/-- The characters of a path are those of its segments, and slashes. -/
theorem isPathChar_path {l : List String}
    (h : ∀ s ∈ l, ∀ c ∈ s.toList, isSegmentChar c = true) :
    ∀ c ∈ (path l).toList, isPathChar c = true := by
  have hslash : ∀ c ∈ ("/" : String).toList, isPathChar c = true := by
    intro c hc
    obtain rfl : c = '/' := List.mem_singleton.mp hc
    decide
  have hsegment : ∀ c, isSegmentChar c = true → isPathChar c = true := by
    intro c hc
    exact Bool.or_eq_true_iff.mpr (.inl hc)
  have hlist : ∀ c ∈ ("/".intercalate l).toList, isPathChar c = true := by
    induction l with
    | nil => exact nofun
    | cons s l ih =>
      have hs : ∀ c ∈ s.toList, isPathChar c = true :=
        fun c hc => hsegment c (h s List.mem_cons_self c hc)
      cases l with
      | nil => rwa [String.intercalate_singleton]
      | cons t l =>
        intro c hc
        rw [String.intercalate_cons_cons, String.toList_append, String.toList_append,
          List.mem_append, List.mem_append] at hc
        rcases hc with (hc | hc) | hc
        · exact hs c hc
        · exact hslash c hc
        · exact ih (fun u hu => h u (List.mem_cons_of_mem _ hu)) c hc
  intro c hc
  unfold path at hc
  rw [String.toList_append, List.mem_append] at hc
  exact hc.elim (hslash c) (hlist c)

/-- A path of such characters is asked for with its dots resolved. -/
theorem resolve_path {l : List String} (hne : l ≠ [])
    (h : ∀ s ∈ l, ∀ c ∈ s.toList, isSegmentChar c = true) :
    resolve (path l) = path (resolveDots [] l) := by
  have hslash : ∀ s ∈ l, '/' ∉ s.toList := fun s hs hc => absurd (h s hs '/' hc) (by decide)
  unfold resolve
  rw [referencePath_of_forall (isPathChar_path h), String.ofList_toList, segments_path hne hslash]

end Percent
