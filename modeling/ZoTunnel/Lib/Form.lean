import ZoTunnel.Lib.Bytes
import ZoTunnel.Lib.Text

/-!
# The `application/x-www-form-urlencoded` format

`parse` reads the parameters of a query, as the URL standard says: the query is split at `&`, a
piece at its first `=`, and in each part `+` stands for a space and `%` with two hexadecimal digits
for a byte. The bytes are read as UTF-8, lossily. The query is given by its characters, since what
the format looks at is ASCII.

`decode_eq_self_iff` says which texts stand for themselves, and `parse_append_eq_iff` which ones can
be put behind a parameter's name as they are.
-/

namespace Form

open Bytes (asBytes fromUtf8Lossy)
open Text (hexDigit?)

/-- The byte that the three characters stand for, when they are an escape. -/
def escape? (c high low : Char) : Option UInt8 :=
  if c = '%' then
    match hexDigit? high, hexDigit? low with
    | some h, some l => some (.ofNat (16 * h + l))
    | _, _ => none
  else none

/-- The character that stands for itself, unless it is a plus sign. -/
def plusToSpace (c : Char) : Char := if c = '+' then ' ' else c

/-- The bytes that a text stands for. -/
def decodedBytes : List Char → List UInt8
  | [] => []
  | c :: high :: low :: rest =>
    match escape? c high low with
    | some b => b :: decodedBytes rest
    | none => String.utf8EncodeChar (plusToSpace c) ++ decodedBytes (high :: low :: rest)
  | c :: rest => String.utf8EncodeChar (plusToSpace c) ++ decodedBytes rest

/-- The text of a name or a value. -/
def decode (s : String) : String := fromUtf8Lossy (decodedBytes s.toList)

/-- The name and the value of a piece. -/
def readPair (piece : List Char) : String × String :=
  (decode (String.ofList (piece.takeWhile (· ≠ '='))),
    decode (String.ofList ((piece.dropWhile (· ≠ '=')).drop 1)))

/-- The parameters of a query. -/
def parse (query : String) : List (String × String) :=
  ((query.toList.splitOn '&').filter (· ≠ [])).map readPair

/-- Whether a text has an escape. -/
def hasEscape : List Char → Bool
  | c :: high :: low :: rest => (escape? c high low).isSome || hasEscape (high :: low :: rest)
  | _ => false

/-- A text that stands for itself. -/
def Verbatim (s : String) : Prop := '+' ∉ s.toList ∧ hasEscape s.toList = false

instance (s : String) : Decidable (Verbatim s) := by
  unfold Verbatim
  infer_instance

/-- A text without escapes stands for its characters, with spaces for the plus signs. -/
theorem decodedBytes_of_not_hasEscape (cs : List Char) (h : hasEscape cs = false) :
    decodedBytes cs = (cs.map plusToSpace).flatMap String.utf8EncodeChar := by
  fun_induction decodedBytes cs with
  | case1 => rfl
  | case2 c high low rest b hb _ =>
    rw [hasEscape, hb] at h
    cases h
  | case3 c high low rest hnone ih =>
    rw [hasEscape, Bool.or_eq_false_iff] at h
    rw [ih h.2]
    simp only [List.map_cons, List.flatMap_cons]
  | case4 c rest hshort ih =>
    have hrest : hasEscape rest = false := by
      unfold hasEscape
      split
      · rename_i high low _ _
        exact absurd rfl (hshort high low _)
      · rfl
    rw [ih hrest, List.map_cons, List.flatMap_cons]

/-- Whether a character is ASCII. -/
def isAsciiChar (c : Char) : Bool := c.toNat < 128

/-- The characters of an escape are ASCII. -/
theorem isAsciiChar_of_escape {c high low : Char} {b : UInt8} (h : escape? c high low = some b) :
    isAsciiChar c = true ∧ isAsciiChar high = true := by
  unfold escape? at h
  split_ifs at h with hc
  refine ⟨by rw [hc]; decide, ?_⟩
  have hhigh : hexDigit? high ≠ none := by
    intro hnone
    rw [hnone] at h
    cases h
  unfold hexDigit? at hhigh
  unfold isAsciiChar
  rw [decide_eq_true_eq]
  dsimp only at hhigh
  split_ifs at hhigh <;> first | omega | exact absurd rfl hhigh

/-- A space is as much ASCII as a plus sign. -/
theorem isAsciiChar_plusToSpace (c : Char) : isAsciiChar (plusToSpace c) = isAsciiChar c := by
  unfold plusToSpace
  split_ifs with hc
  · rw [hc]
    decide
  · rfl

/-- The bytes have no more ASCII characters than the text, and fewer if it has an escape. -/
theorem countP_decodedBytes (cs : List Char) :
    (decodedBytes cs).countP Bytes.isAscii + (if hasEscape cs then 1 else 0) ≤
      cs.countP isAsciiChar := by
  -- A character that is no escape keeps its bytes.
  have hchar : ∀ c, (String.utf8EncodeChar (plusToSpace c)).countP Bytes.isAscii =
      if isAsciiChar c then 1 else 0 := by
    intro c
    have hplus := isAsciiChar_plusToSpace c
    unfold isAsciiChar at hplus ⊢
    rw [Bytes.countP_utf8EncodeChar, ← hplus]
    simp only [decide_eq_true_eq]
  fun_induction decodedBytes cs with
  | case1 => exact Nat.le_refl 0
  | case2 c high low rest b hb ih =>
    -- An escape turns three ASCII characters into one byte.
    obtain ⟨hc, hhigh⟩ := isAsciiChar_of_escape hb
    have hone : (if hasEscape (c :: high :: low :: rest) then 1 else 0) ≤ 1 := by
      split_ifs <;> omega
    simp only [List.countP_cons, hc, hhigh, if_true]
    split_ifs at * <;> omega
  | case3 c high low rest hnone ih =>
    rw [hasEscape, hnone, Option.isSome_none, Bool.false_or, List.countP_append, hchar,
      List.countP_cons]
    omega
  | case4 c rest hshort ih =>
    have hescape : hasEscape (c :: rest) = false := by
      unfold hasEscape
      split
      · rename_i c' high low rest' heq
        exact absurd (List.cons.inj heq).2 (hshort high low rest')
      · rfl
    rw [hescape, List.countP_append, hchar, List.countP_cons]
    simp only [Bool.false_eq_true, if_false]
    omega

/-- A decoded text has no more ASCII characters than the text, and fewer if that has an escape. -/
theorem countP_decode (s : String) :
    (decode s).toList.countP isAsciiChar + (if hasEscape s.toList then 1 else 0) ≤
      s.toList.countP isAsciiChar := by
  have hlossy := Bytes.countP_lossyChars (decodedBytes s.toList).length (decodedBytes s.toList)
  have hbytes := countP_decodedBytes s.toList
  unfold decode fromUtf8Lossy
  rw [String.toList_ofList]
  unfold isAsciiChar at hbytes ⊢
  omega

/-- A text without escapes is decoded to itself, with spaces for the plus signs. -/
theorem decode_of_not_hasEscape {s : String} (h : hasEscape s.toList = false) :
    decode s = String.ofList (s.toList.map plusToSpace) := by
  unfold decode
  rw [decodedBytes_of_not_hasEscape _ h]
  have hread := Bytes.fromUtf8Lossy_asBytes (String.ofList (s.toList.map plusToSpace))
  unfold asBytes at hread
  rwa [String.toList_ofList] at hread

/-- The texts that are decoded to themselves are those without an escape and a plus sign. -/
theorem decode_eq_self_iff {s : String} : decode s = s ↔ Verbatim s := by
  constructor
  · intro h
    -- An escape would make the text shorter.
    have hcount := countP_decode s
    rw [h] at hcount
    have hescape : hasEscape s.toList = false := by
      rw [← Bool.not_eq_true]
      intro hescape
      rw [if_pos hescape] at hcount
      omega
    refine ⟨fun hplus => ?_, hescape⟩
    rw [decode_of_not_hasEscape hescape] at h
    have hmap : s.toList.map plusToSpace = s.toList := by
      rw [← String.toList_inj, String.toList_ofList] at h
      exact h
    rw [← hmap] at hplus
    obtain ⟨c, -, hc⟩ := List.mem_map.mp hplus
    unfold plusToSpace at hc
    split_ifs at hc with hc'
    · exact absurd hc (by decide)
    · exact hc' hc
  · rintro ⟨hplus, hescape⟩
    have hkeep : ∀ c ∈ s.toList, plusToSpace c = id c := by
      intro c hc
      have hne : c ≠ '+' := fun heq => hplus (heq ▸ hc)
      exact if_neg hne
    have hmap : s.toList.map plusToSpace = s.toList := by
      rw [List.map_congr_left hkeep, List.map_id]
    rw [decode_of_not_hasEscape hescape, hmap, String.ofList_toList]

/-- A text is not what a front of it is decoded to, if an ASCII character follows that. -/
theorem decode_ne_append {s : String} {c : Char} (hc : isAsciiChar c = true) (rest : List Char) :
    decode s ≠ s ++ String.ofList (c :: rest) := by
  intro h
  have hcount := countP_decode s
  rw [h, String.toList_append, String.toList_ofList, List.countP_append, List.countP_cons_of_pos hc]
    at hcount
  omega

/-- The parameters behind a separator follow those in front of it. -/
theorem parse_append (query rest : String) :
    parse (query ++ "&" ++ rest) = parse query ++ parse rest := by
  have hlist : (query ++ "&" ++ rest).toList = query.toList ++ '&' :: rest.toList := by simp
  unfold parse
  rw [hlist, List.splitOn_append_cons_self, List.filter_append, List.map_append]

/-- A piece with a name that stands for itself. -/
theorem readPair_append {name : String} (hclean : '=' ∉ name.toList) (hname : Verbatim name)
    (value : String) : readPair (name ++ "=" ++ value).toList = (name, decode value) := by
  have hlist : (name ++ "=" ++ value).toList = name.toList ++ '=' :: value.toList := by simp
  have hall : ∀ c ∈ name.toList, decide (c ≠ '=') = true := by
    intro c hc
    rw [decide_eq_true_eq]
    exact fun heq => hclean (heq ▸ hc)
  unfold readPair
  rw [hlist, List.takeWhile_append_of_pos hall, List.dropWhile_append_of_pos hall,
    List.takeWhile_cons_of_neg (by simp), List.dropWhile_cons_of_neg (by simp), List.append_nil,
    List.drop_one, List.tail_cons, String.ofList_toList, String.ofList_toList,
    decode_eq_self_iff.mpr hname]

/-- One parameter with a value as it is, or with what is left of it in front of an ASCII character,
is read as that value exactly if all of it is there, has no separator, and stands for itself. -/
theorem parse_param_eq_iff {name : String} (hclean : '=' ∉ name.toList) (hsep : '&' ∉ name.toList)
    (hname : Verbatim name) {left value : String}
    (hleft : left = value ∨ ∃ c rest, isAsciiChar c = true ∧
      value = left ++ String.ofList (c :: rest)) :
    parse (name ++ "=" ++ left) = [(name, value)] ↔
      left = value ∧ '&' ∉ value.toList ∧ Verbatim value := by
  have hone : ∀ v : String, '&' ∉ v.toList → parse (name ++ "=" ++ v) = [(name, decode v)] := by
    intro v hv
    have hpiece : '&' ∉ (name ++ "=" ++ v).toList := by simp [hsep, hv]
    have hfilter : [(name ++ "=" ++ v).toList].filter (· ≠ []) = [(name ++ "=" ++ v).toList] := by
      simp
    unfold parse
    rw [List.splitOn_eq_singleton hpiece, hfilter, List.map_singleton, readPair_append hclean hname]
  by_cases hamp : '&' ∈ left.toList
  · -- What is decoded ends in front of the separator, and is too short.
    obtain ⟨front, back, hsplit, hfront⟩ := List.eq_append_cons_of_mem hamp
    have hleft' : left = String.ofList front ++ "&" ++ String.ofList back := by
      rw [← String.toList_inj, hsplit]
      simp
    have hparse : parse (name ++ "=" ++ left) =
        (name, decode (String.ofList front)) :: parse (String.ofList back) := by
      have hfront' : '&' ∉ (String.ofList front).toList := by rwa [String.toList_ofList]
      have hassoc : name ++ "=" ++ left =
          name ++ "=" ++ String.ofList front ++ "&" ++ String.ofList back := by
        rw [hleft']
        simp only [String.append_assoc]
      rw [hassoc, parse_append, hone _ hfront', List.singleton_append]
    obtain ⟨rest, hvalue⟩ : ∃ rest, value = String.ofList front ++ String.ofList ('&' :: rest) := by
      rcases hleft with rfl | ⟨c, rest, -, rfl⟩
      · exact ⟨back, by rw [← String.toList_inj, hsplit]; simp⟩
      · exact ⟨back ++ c :: rest, by rw [← String.toList_inj]; simp [hsplit]⟩
    refine iff_of_false (fun h => ?_) fun h => h.2.1 ?_
    · rw [hparse] at h
      have hdecode : decode (String.ofList front) = value := by
        have hpair := (List.cons.inj h).1
        exact congrArg Prod.snd hpair
      rw [hvalue] at hdecode
      exact absurd hdecode (decode_ne_append (by decide) rest)
    · rw [hvalue]
      simp
  · have hparse := hone left hamp
    rw [hparse]
    constructor
    · intro h
      have hdecode : decode left = value := by simpa using h
      rcases hleft with rfl | ⟨c, rest, hc, hvalue⟩
      · exact ⟨rfl, hamp, decode_eq_self_iff.mp hdecode⟩
      · rw [hvalue] at hdecode
        exact absurd hdecode (decode_ne_append hc rest)
    · rintro ⟨rfl, -, hverbatim⟩
      rw [decode_eq_self_iff.mpr hverbatim]

end Form
