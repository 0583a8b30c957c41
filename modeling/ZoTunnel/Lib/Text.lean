import Mathlib.Algebra.Group.Nat.Defs
import Mathlib.Data.List.Basic
import Mathlib.Data.List.TakeWhile

/-!
# String operations of Rust's standard library

The operations on `str` that the code uses and Lean's `String` lacks or defines otherwise, on the
characters of the string.
-/

namespace Text

/-- `s.split(c).next()`: the part of `s` before the first `c`, or all of it. -/
def beforeChar (c : Char) (s : String) : String :=
  String.ofList (s.toList.takeWhile (· ≠ c))

/-- What follows the first `c` of a string, or nothing. -/
def afterChar (c : Char) (s : String) : String :=
  String.ofList ((s.toList.dropWhile (· ≠ c)).drop 1)

/-- `s.strip_suffix(suffix)`. -/
def stripSuffix (s suffix : String) : Option String :=
  if suffix.toList <:+ s.toList then
    some (String.ofList (s.toList.take (s.toList.length - suffix.toList.length)))
  else none

/-- `s.strip_prefix(front)`. -/
def stripPrefix (s front : String) : Option String :=
  if front.toList <+: s.toList then some (String.ofList (s.toList.drop front.toList.length))
  else none

/-- `char::is_whitespace`: the Unicode property `White_Space`. -/
def isWhitespace (c : Char) : Bool :=
  let n := c.toNat
  (0x9 ≤ n ∧ n ≤ 0xD) ∨ n = 0x20 ∨ n = 0x85 ∨ n = 0xA0 ∨ n = 0x1680 ∨ (0x2000 ≤ n ∧ n ≤ 0x200A) ∨
    n = 0x2028 ∨ n = 0x2029 ∨ n = 0x202F ∨ n = 0x205F ∨ n = 0x3000

/-- `s.trim()`. -/
def trim (s : String) : String :=
  let front := s.toList.dropWhile isWhitespace
  String.ofList (front.reverse.dropWhile isWhitespace).reverse

/-- `s.parse::<u32>()`, `none` when it fails: decimal digits, with a plus sign or without. -/
def parseU32 (s : String) : Option UInt32 :=
  let digits := if s.toList.head? = some '+' then s.toList.tail else s.toList
  let n := Nat.ofDigitChars 10 digits 0
  if digits.isEmpty || !digits.all Char.isDigit || 2^32 ≤ n then none else some (UInt32.ofNat n)

/-- `s.split(c)`. -/
def split (s : String) (c : Char) : List String := (s.toList.splitOn c).map String.ofList

/-- `Path::new(path).file_name()`: the last component of a path, unless that is `..`. A component
that is empty or `.` is none. -/
def fileName (path : String) : Option String :=
  ((split path '/').filter fun part => part ≠ "" ∧ part ≠ ".").getLast?.filter (· ≠ "..")

/-- `s.eq_ignore_ascii_case(t)`. -/
def eqIgnoreAsciiCase (s t : String) : Bool :=
  s.toList.map Char.toLower = t.toList.map Char.toLower

/-- White space in JavaScript. -/
def isJsWhitespace (c : Char) : Bool :=
  let n := c.toNat
  (0x9 ≤ n ∧ n ≤ 0xD) ∨ n = 0x20 ∨ n = 0xA0 ∨ n = 0x1680 ∨ (0x2000 ≤ n ∧ n ≤ 0x200A) ∨
    n = 0x2028 ∨ n = 0x2029 ∨ n = 0x202F ∨ n = 0x205F ∨ n = 0x3000 ∨ n = 0xFEFF

/-- `s.trim()` in JavaScript. -/
def trimJs (s : String) : String :=
  let front := s.toList.dropWhile isJsWhitespace
  String.ofList (front.reverse.dropWhile isJsWhitespace).reverse

/-- `s.trim().is_empty()`. -/
def isBlank (s : String) : Bool := s.toList.all isWhitespace

/-- `c.to_digit(16)`: the value of a hexadecimal digit. -/
def hexDigit? (c : Char) : Option ℕ :=
  let n := c.toNat
  if 48 ≤ n ∧ n ≤ 57 then some (n - 48)
  else if 65 ≤ n ∧ n ≤ 70 then some (n - 55)
  else if 97 ≤ n ∧ n ≤ 102 then some (n - 87)
  else none

/-- The part before the first `c` has no `c`. -/
theorem notMem_beforeChar (c : Char) (s : String) : c ∉ (beforeChar c s).toList := by
  unfold beforeChar
  rw [String.toList_ofList]
  intro hc
  have hall : (s.toList.takeWhile (· ≠ c)).all (· ≠ c) = true := List.all_takeWhile
  have hne := List.all_eq_true.mp hall c hc
  simp at hne

/-- The text before a character has no other characters than the whole. -/
theorem mem_of_mem_beforeChar {c d : Char} {s : String} (h : d ∈ (beforeChar c s).toList) :
    d ∈ s.toList := by
  unfold beforeChar at h
  rw [String.toList_ofList] at h
  exact List.takeWhile_subset _ h

/-- What follows a `c` is cut off, and nothing else is. -/
theorem beforeChar_append {c : Char} {s t : String} (hs : c ∉ s.toList)
    (ht : ∀ d, t.toList.head? = some d → d = c) : beforeChar c (s ++ t) = s := by
  unfold beforeChar
  have hall : ∀ d ∈ s.toList, decide (d ≠ c) = true := by
    intro d hd
    rw [decide_eq_true_eq]
    exact fun heq => hs (heq ▸ hd)
  have hrest : t.toList.takeWhile (· ≠ c) = [] := by
    cases hl : t.toList with
    | nil => rfl
    | cons d ds =>
      rw [hl] at ht
      obtain rfl : d = c := ht d rfl
      exact List.takeWhile_cons_of_neg (by simp)
  rw [String.toList_append, List.takeWhile_append_of_pos hall, hrest, List.append_nil,
    String.ofList_toList]

/-- A string with no `c` is its own part before it. -/
theorem beforeChar_of_notMem {c : Char} {s : String} (h : c ∉ s.toList) : beforeChar c s = s := by
  have happ := beforeChar_append (t := "") h nofun
  rwa [String.append_empty] at happ

/-- Only a string with no `c` is its own part before it. -/
theorem beforeChar_eq_self_iff {c : Char} {s : String} :
    beforeChar c s = s ↔ c ∉ s.toList := by
  refine ⟨fun h => ?_, beforeChar_of_notMem⟩
  rw [← h]
  exact notMem_beforeChar c s

/-- What follows the part before the first `c` begins with it. -/
theorem eq_beforeChar_append {c : Char} {s : String} (h : c ∈ s.toList) :
    ∃ rest, s = beforeChar c s ++ String.ofList (c :: rest) := by
  obtain ⟨front, back, hsplit, hfront⟩ := List.eq_append_cons_of_mem h
  have hs : s = String.ofList front ++ String.ofList (c :: back) := by
    rw [← String.toList_inj, hsplit]
    simp
  refine ⟨back, ?_⟩
  have hcut : beforeChar c s = String.ofList front := by
    rw [hs]
    exact beforeChar_append (by rwa [String.toList_ofList]) (by simp [eq_comm])
  rw [hcut]
  exact hs

/-- A suffix can be stripped exactly from the strings that end in it. -/
theorem stripSuffix_eq_some_iff {s suffix r : String} :
    stripSuffix s suffix = some r ↔ s = r ++ suffix := by
  unfold stripSuffix
  constructor
  · intro h
    split_ifs at h with hsuffix
    obtain rfl := Option.some.inj h
    obtain ⟨front, hfront⟩ := hsuffix
    apply String.toList_inj.mp
    rw [String.toList_append, String.toList_ofList, ← hfront, List.length_append,
      Nat.add_sub_cancel, List.take_left]
  · rintro rfl
    rw [String.toList_append, if_pos (List.suffix_append _ _), List.length_append,
      Nat.add_sub_cancel, List.take_left, String.ofList_toList]

/-- A text with no white space has nothing to trim. -/
theorem trim_of_forall {s : String} (h : ∀ c ∈ s.toList, isWhitespace c = false) : trim s = s := by
  have hdrop : ∀ l : List Char, (∀ c ∈ l, isWhitespace c = false) →
      l.dropWhile isWhitespace = l := by
    intro l hl
    cases l with
    | nil => rfl
    | cons c l => rw [List.dropWhile_cons_of_neg (by simp [hl c List.mem_cons_self])]
  unfold trim
  dsimp only
  rw [hdrop _ h, hdrop _ fun c hc => h c (List.mem_reverse.mp hc), List.reverse_reverse,
    String.ofList_toList]

/-- The blanks around a text that has none at its ends are trimmed, and nothing else is. -/
theorem trim_append {front s back : String} (hfront : isBlank front = true)
    (hback : isBlank back = true) (hhead : s.toList.head?.any isWhitespace = false)
    (hlast : s.toList.getLast?.any isWhitespace = false) : trim (front ++ s ++ back) = s := by
  have hkeep : ∀ l : List Char, l.head?.any isWhitespace = false →
      l.dropWhile isWhitespace = l := by
    intro l hl
    cases l with
    | nil => rfl
    | cons c l => exact List.dropWhile_cons_of_neg (by simpa using hl)
  have hrear : ∀ l : List Char, l.getLast?.any isWhitespace = false →
      ((l ++ back.toList).reverse.dropWhile isWhitespace).reverse = l := by
    intro l hl
    have hblank : ∀ c ∈ back.toList.reverse, isWhitespace c = true :=
      fun c hc => List.all_eq_true.mp hback c (List.mem_reverse.mp hc)
    rw [List.reverse_append, List.dropWhile_append_of_pos hblank,
      hkeep _ (by rwa [List.head?_reverse]), List.reverse_reverse]
  unfold trim
  dsimp only
  rw [String.toList_append, String.toList_append, List.append_assoc,
    List.dropWhile_append_of_pos (List.all_eq_true.mp hfront)]
  by_cases hs : s.toList = []
  · obtain rfl : s = "" := by simpa using hs
    have hnone : back.toList.dropWhile isWhitespace = [] :=
      List.dropWhile_eq_nil_iff.mpr (List.all_eq_true.mp hback)
    rw [String.toList_empty, List.nil_append, hnone]
    rfl
  · have hhead' : (s.toList ++ back.toList).head?.any isWhitespace = false := by
      rwa [List.head?_append_of_ne_nil _ hs]
    rw [hkeep _ hhead', hrear _ hlast, String.ofList_toList]

/-- What is left of a list without such characters at its ends has none there. -/
theorem ends_dropWhile (p : Char → Bool) (l : List Char) :
    ((l.dropWhile p).reverse.dropWhile p).reverse.head?.any p = false ∧
      ((l.dropWhile p).reverse.dropWhile p).reverse.getLast?.any p = false := by
  have hfront := List.head?_dropWhile_not p l
  generalize l.dropWhile p = front at hfront ⊢
  have hlast := List.head?_dropWhile_not p front.reverse
  constructor
  · -- What is left is a first part of what does not begin with such a character.
    have hsuffix : (front.reverse.dropWhile p).reverse <+: front := by
      have := List.reverse_prefix.mpr (List.dropWhile_suffix (l := front.reverse) p)
      rwa [List.reverse_reverse] at this
    obtain ⟨rest, hrest⟩ := hsuffix
    cases hkept : (front.reverse.dropWhile p).reverse with
    | nil => rfl
    | cons c cs =>
      rw [hkept] at hrest
      rw [← hrest] at hfront
      exact hfront
  · rw [List.getLast?_reverse]
    cases hkept : (front.reverse.dropWhile p).head? with
    | none => rfl
    | some c =>
      rw [hkept] at hlast
      exact hlast

/-- What is left by a trim neither begins nor ends with white space. -/
theorem trim_ends (s : String) : (trim s).toList.head?.any isWhitespace = false ∧
    (trim s).toList.getLast?.any isWhitespace = false := by
  unfold trim
  dsimp only
  rw [String.toList_ofList]
  exact ends_dropWhile isWhitespace s.toList

/-- So it is in JavaScript. -/
theorem trimJs_ends (s : String) : (trimJs s).toList.head?.any isJsWhitespace = false ∧
    (trimJs s).toList.getLast?.any isJsWhitespace = false := by
  unfold trimJs
  dsimp only
  rw [String.toList_ofList]
  exact ends_dropWhile isJsWhitespace s.toList

/-- A text that neither begins nor ends with white space has nothing to trim. -/
theorem trim_of_ends {s : String} (hhead : s.toList.head?.any isWhitespace = false)
    (hlast : s.toList.getLast?.any isWhitespace = false) : trim s = s := by
  have happend : trim ("" ++ s ++ "") = s := trim_append rfl rfl hhead hlast
  rwa [String.empty_append, String.append_empty] at happend

/-- A trim of a trimmed text does nothing. -/
theorem trim_trim (s : String) : trim (trim s) = trim s :=
  trim_of_ends (trim_ends s).1 (trim_ends s).2

/-- White space is white space in JavaScript, but for U+0085. -/
theorem eq_of_isWhitespace {c : Char} (h : isWhitespace c = true) (hjs : isJsWhitespace c = false) :
    c = '\u0085' := by
  have hnat : c.toNat = 0x85 := by
    unfold isWhitespace at h
    unfold isJsWhitespace at hjs
    rw [decide_eq_true_eq] at h
    rw [decide_eq_false_iff_not] at hjs
    omega
  rw [← Char.ofNat_toNat c, hnat]

/-- What JavaScript has trimmed has nothing to trim, if it neither begins nor ends with U+0085. -/
theorem trim_trimJs {s : String} (hhead : (trimJs s).toList.head? ≠ some '\u0085')
    (hlast : (trimJs s).toList.getLast? ≠ some '\u0085') : trim (trimJs s) = trimJs s := by
  have hends := trimJs_ends s
  have hkeep : ∀ o : Option Char, o ≠ some '\u0085' → o.any isJsWhitespace = false →
      o.any isWhitespace = false := by
    intro o ho hjs
    rw [Option.any_eq_false] at hjs ⊢
    intro c hc
    rw [Bool.eq_false_iff]
    intro hwhite
    exact ho (hc.trans (congrArg some (eq_of_isWhitespace hwhite (hjs c hc))))
  exact trim_of_ends (hkeep _ hhead hends.1) (hkeep _ hlast hends.2)

/-- A decimal digit is no white space. -/
theorem isWhitespace_of_isDigit {c : Char} (h : c.isDigit = true) : isWhitespace c = false := by
  have hrange : 48 ≤ c.toNat ∧ c.toNat ≤ 57 := by
    unfold Char.isDigit at h
    rw [Bool.and_eq_true, decide_eq_true_eq, decide_eq_true_eq] at h
    exact ⟨UInt32.le_iff_toNat_le.mp h.1, UInt32.le_iff_toNat_le.mp h.2⟩
  unfold isWhitespace
  dsimp only
  rw [decide_eq_false_iff_not]
  omega

/-- The digits of a number are parsed to it. -/
theorem parseU32_repr (n : UInt32) : parseU32 (toString n.toNat) = some n := by
  have hdigits : (toString n.toNat).toList = Nat.toDigits 10 n.toNat := by
    rw [Nat.toString_eq_repr, Nat.toList_repr]
  have hall : ∀ c ∈ Nat.toDigits 10 n.toNat, c.isDigit = true :=
    fun c hc => Nat.isDigit_of_mem_toDigits (by decide) (by decide) hc
  have hplus : (Nat.toDigits 10 n.toNat).head? ≠ some '+' := by
    intro hhead
    exact absurd (hall '+' (List.mem_of_head? hhead)) (by decide)
  unfold parseU32
  dsimp only
  rw [hdigits, if_neg hplus, Nat.ofDigitChars_toDigits (by decide) (by decide), if_neg,
    UInt32.ofNat_toNat]
  have hne : (Nat.toDigits 10 n.toNat).isEmpty = false := by
    rw [List.isEmpty_eq_false_iff]
    exact Nat.toDigits_ne_nil
  have hlt : ¬ 2^32 ≤ n.toNat := Nat.not_le.mpr n.toNat_lt
  rw [hne, List.all_eq_true.mpr hall, decide_eq_false hlt]
  exact Bool.false_ne_true

/-- The digits of a number are parsed to it, and have nothing to trim. -/
theorem parseU32_toString (n : UInt32) : parseU32 (trim (toString n.toNat)) = some n := by
  have hdigits : (toString n.toNat).toList = Nat.toDigits 10 n.toNat := by
    rw [Nat.toString_eq_repr, Nat.toList_repr]
  have hblank : ∀ c ∈ (toString n.toNat).toList, isWhitespace c = false := by
    intro c hc
    rw [hdigits] at hc
    exact isWhitespace_of_isDigit (Nat.isDigit_of_mem_toDigits (by decide) (by decide) hc)
  rw [trim_of_forall hblank, parseU32_repr]

/-- A text with a character that is no digit is not parsed, unless it begins with a plus sign. -/
theorem parseU32_eq_none {s : String} {c : Char} (hc : c ∈ s.toList) (hdigit : c.isDigit = false)
    (hplus : s.toList.head? ≠ some '+') : parseU32 s = none := by
  have hall : s.toList.all Char.isDigit = false := by
    rw [List.all_eq_false]
    exact ⟨c, hc, by rw [hdigit]; exact Bool.false_ne_true⟩
  unfold parseU32
  dsimp only
  rw [if_neg hplus, hall, if_pos (by simp)]

/-- Pieces without the separator are what the joined text is split into. -/
theorem split_intercalate {c : Char} {sep : String} (hsep : sep.toList = [c])
    {pieces : List String} (hne : pieces ≠ []) (h : ∀ p ∈ pieces, c ∉ p.toList) :
    split (sep.intercalate pieces) c = pieces := by
  have hpieces : ∀ l ∈ pieces.map String.toList, c ∉ l := by
    intro l hl
    obtain ⟨p, hp, rfl⟩ := List.mem_map.mp hl
    exact h p hp
  unfold split
  rw [String.toList_intercalate, hsep, List.splitOn_intercalate c hpieces (by simpa using hne),
    List.map_map]
  have hid : String.ofList ∘ String.toList = id := funext fun p => String.ofList_toList
  rw [hid, List.map_id]

/-- A prefix is stripped from what follows it. -/
theorem stripPrefix_append (front s : String) : stripPrefix (front ++ s) front = some s := by
  unfold stripPrefix
  rw [String.toList_append, if_pos (List.prefix_append _ _), List.drop_left, String.ofList_toList]

/-- A prefix is not stripped from a text that begins with another character. -/
theorem stripPrefix_eq_none {front s : String} (hne : front ≠ "")
    (h : s.toList.head? ≠ front.toList.head?) : stripPrefix s front = none := by
  unfold stripPrefix
  rw [if_neg]
  rintro ⟨t, ht⟩
  have hcons : front.toList ≠ [] := by simpa using hne
  obtain ⟨c, cs, hfront⟩ := List.exists_cons_of_ne_nil hcons
  rw [← ht, hfront] at h
  exact h rfl

/-- A text that ends before a character which the prefix does not contain has the prefix exactly if
it has it before that character. -/
theorem stripPrefix_append_eq_none {front s t : String} {c : Char} (hc : c ∉ front.toList)
    (ht : t.toList.head? = some c) (h : ¬ front.toList <+: s.toList) :
    stripPrefix (s ++ t) front = none := by
  unfold stripPrefix
  rw [if_neg]
  intro hstart
  rw [String.toList_append] at hstart
  obtain ⟨d, ds, htl⟩ : ∃ d ds, t.toList = d :: ds := by
    cases htl : t.toList with
    | nil => simp [htl] at ht
    | cons d ds => exact ⟨d, ds, rfl⟩
  obtain rfl : d = c := by simpa [htl] using ht
  rcases Nat.lt_or_ge s.toList.length front.toList.length with hlt | hge
  · -- The prefix reaches past `s`, and so contains `c`.
    have hend : s.toList ++ [d] <+: s.toList ++ t.toList := by
      rw [htl]
      exact (List.prefix_append_right_inj _).mpr ⟨ds, rfl⟩
    have hle : (s.toList ++ [d]).length ≤ front.toList.length := by
      rw [List.length_append, List.length_singleton]
      omega
    have hsub := List.prefix_of_prefix_length_le hend hstart hle
    exact hc (hsub.subset (List.mem_append_right _ (List.mem_singleton_self d)))
  · exact h (List.prefix_of_prefix_length_le hstart (List.prefix_append _ _) hge)

/-- What has no separator goes behind the last piece. -/
theorem exists_splitOn_append {c : Char} (front : List Char) {back : List Char} (h : c ∉ back) :
    ∃ pieces last, (front ++ back).splitOn c = pieces ++ [last ++ back] := by
  induction front with
  | nil => exact ⟨[], [], List.splitOn_eq_singleton h⟩
  | cons d front ih =>
    obtain ⟨pieces, last, hsplit⟩ := ih
    rw [List.cons_append, List.splitOn_cons_eq_if_modifyHead, hsplit]
    split_ifs
    · exact ⟨[] :: pieces, last, rfl⟩
    · cases pieces with
      | nil => exact ⟨[], d :: last, rfl⟩
      | cons piece pieces => exact ⟨(d :: piece) :: pieces, last, rfl⟩

/-- A path that ends in a text with no separator has a file name that ends in it, unless the text is
empty or ends in a dot. -/
theorem fileName_append (path : String) {s : String} (hsep : '/' ∉ s.toList) {c : Char}
    (hlast : s.toList.getLast? = some c) (hdot : c ≠ '.') :
    ∃ front, fileName (path ++ s) = some (front ++ s) := by
  obtain ⟨pieces, last, hsplit⟩ := exists_splitOn_append path.toList hsep
  have hname : String.ofList (last ++ s.toList) = String.ofList last ++ s := by
    rw [String.ofList_append, String.ofList_toList]
  have hend : (String.ofList last ++ s).toList.getLast? = some c := by
    rw [String.toList_append, List.getLast?_append, hlast, Option.some_or]
  have hne : ∀ t : String, t.toList.getLast? ≠ some c → String.ofList last ++ s ≠ t :=
    fun t ht heq => ht (heq ▸ hend)
  refine ⟨String.ofList last, ?_⟩
  unfold fileName split
  rw [String.toList_append, hsplit, List.map_append, List.map_singleton, hname, List.filter_append,
    List.filter_singleton]
  have hempty := hne "" (by simp)
  have hdots : ("." : String).toList.getLast? ≠ some c ∧ (".." : String).toList.getLast? ≠ some c :=
    ⟨fun h => hdot (Option.some.inj h).symm, fun h => hdot (Option.some.inj h).symm⟩
  have hone := hne "." hdots.1
  have htwo := hne ".." hdots.2
  simp [hempty, hone, htwo]

end Text
