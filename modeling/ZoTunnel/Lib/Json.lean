import Mathlib.Tactic.IntervalCases
import ZoTunnel.Lib.Text

/-!
# JSON texts

A reader of JSON as RFC 8259 defines it. A number is kept as its literal, an object as its members
in order, and a field of an object is the last member with the name, as common readers have it. An
escape of half a surrogate pair is an error.

`readString_append` says what is read from a text that somebody has put between quotes as it is, and
`parse_strings` that every string of an object stands in the text behind a quote.
-/

/-- A JSON value. -/
inductive Json where
  | null
  | bool (b : Bool)
  | num (literal : String)
  | str (s : String)
  | arr (items : List Json)
  | obj (members : List (String × Json))

namespace Json

/-- The value of a field of an object. -/
def field? (json : Json) (name : String) : Option Json :=
  match json with
  | .obj members => (members.findRev? fun m => m.1 = name).map (·.2)
  | _ => none

/-! ## The reader -/

/-- White space between the tokens. -/
def isBlank (c : Char) : Bool := c == ' ' || c == '\t' || c == '\n' || c == '\r'

/-- The text behind the white space at its front. -/
def skipBlanks (s : List Char) : List Char := s.dropWhile isBlank

/-- The code unit that four hexadecimal digits stand for. -/
def codeUnit? (a b c d : Char) : Option ℕ := do
  let a ← Text.hexDigit? a
  let b ← Text.hexDigit? b
  let c ← Text.hexDigit? c
  let d ← Text.hexDigit? d
  some (((a * 16 + b) * 16 + c) * 16 + d)

/-- The character that a letter behind a backslash stands for. -/
def escaped? (c : Char) : Option Char :=
  if c = '"' then some '"'
  else if c = '\\' then some '\\'
  else if c = '/' then some '/'
  else if c = 'b' then some (.ofNat 8)
  else if c = 'f' then some (.ofNat 12)
  else if c = 'n' then some '\n'
  else if c = 'r' then some '\r'
  else if c = 't' then some '\t'
  else none

/-- The second half of a surrogate pair, with the text behind it. -/
def lowSurrogate? : List Char → Option (ℕ × List Char)
  | '\\' :: 'u' :: a :: b :: c :: d :: rest => do
    let low ← codeUnit? a b c d
    if 0xDC00 ≤ low ∧ low < 0xE000 then some (low, rest) else none
  | _ => none

/-- A character of a string that is written `\u`, from its digits on. -/
def unicode? : List Char → Option (Char × List Char)
  | a :: b :: c :: d :: rest => do
    let unit ← codeUnit? a b c d
    if 0xD800 ≤ unit ∧ unit < 0xDC00 then
      let (low, rest) ← lowSurrogate? rest
      some (.ofNat (0x10000 + (unit - 0xD800) * 0x400 + (low - 0xDC00)), rest)
    else if 0xDC00 ≤ unit ∧ unit < 0xE000 then none
    else some (.ofNat unit, rest)
  | _ => none

/-- Whether a character can stand in a string as it is. -/
def isPlain (c : Char) : Bool := c ≠ '"' && c ≠ '\\' && 0x20 ≤ c.toNat

/-- The next character of a string, which does not end here. -/
def readChar : List Char → Option (Char × List Char)
  | [] => none
  | c :: rest =>
    if c = '\\' then
      match rest with
      | [] => none
      | d :: rest => if d = 'u' then unicode? rest else (escaped? d).map (·, rest)
    else if isPlain c then some (c, rest)
    else none

/-- The rest of a string up to its closing quote, and the text behind that. Each character takes one
from the text at least. -/
def readChars : ℕ → List Char → Option (List Char × List Char)
  | 0, _ => none
  | _ + 1, '"' :: rest => some ([], rest)
  | fuel + 1, s => do
    let (c, rest) ← readChar s
    let (cs, rest) ← readChars fuel rest
    some (c :: cs, rest)

/-- A string from behind its opening quote on. -/
def readString (s : List Char) : Option (List Char × List Char) := readChars s.length s

/-- A run of digits, not an empty one. -/
def readDigits (s : List Char) : Option (List Char × List Char) :=
  let digits := s.takeWhile Char.isDigit
  if digits = [] then none else some (digits, s.dropWhile Char.isDigit)

/-- The integer part of a number. -/
def readInt (s : List Char) : Option (List Char × List Char) := do
  let (digits, rest) ← readDigits s
  if digits.head? = some '0' ∧ digits ≠ ['0'] then none else some (digits, rest)

/-- The fraction of a number, which may be missing. -/
def readFraction : List Char → Option (List Char × List Char)
  | '.' :: s => (readDigits s).map fun (digits, rest) => ('.' :: digits, rest)
  | s => some ([], s)

/-- The exponent of a number, which may be missing. -/
def readExponent : List Char → Option (List Char × List Char)
  | [] => some ([], [])
  | e :: s =>
    if e = 'e' ∨ e = 'E' then
      match s with
      | '+' :: s => (readDigits s).map fun (digits, rest) => (e :: '+' :: digits, rest)
      | '-' :: s => (readDigits s).map fun (digits, rest) => (e :: '-' :: digits, rest)
      | s => (readDigits s).map fun (digits, rest) => (e :: digits, rest)
    else some ([], e :: s)

/-- A number. -/
def readNumber (s : List Char) : Option (Json × List Char) := do
  let (sign, s) := match s with
    | '-' :: s => (['-'], s)
    | s => ([], s)
  let (int, s) ← readInt s
  let (fraction, s) ← readFraction s
  let (exponent, s) ← readExponent s
  some (.num (String.ofList (sign ++ int ++ fraction ++ exponent)), s)

mutual

/-- A value. Each value in it takes one from the fuel, and one character at least. -/
def readValue : ℕ → List Char → Option (Json × List Char)
  | 0, _ => none
  | _ + 1, 'n' :: 'u' :: 'l' :: 'l' :: s => some (.null, s)
  | _ + 1, 't' :: 'r' :: 'u' :: 'e' :: s => some (.bool true, s)
  | _ + 1, 'f' :: 'a' :: 'l' :: 's' :: 'e' :: s => some (.bool false, s)
  | _ + 1, '"' :: s => (readString s).map fun (cs, s) => (.str (String.ofList cs), s)
  | fuel + 1, '[' :: s =>
    match skipBlanks s with
    | ']' :: s => some (.arr [], s)
    | s => (readItems fuel s).map fun (items, s) => (.arr items, s)
  | fuel + 1, '{' :: s =>
    match skipBlanks s with
    | '}' :: s => some (.obj [], s)
    | s => (readMembers fuel s).map fun (members, s) => (.obj members, s)
  | _ + 1, s => readNumber s

/-- The items of an array, one at least, up to its closing bracket. -/
def readItems : ℕ → List Char → Option (List Json × List Char)
  | 0, _ => none
  | fuel + 1, s => do
    let (item, s) ← readValue fuel (skipBlanks s)
    match skipBlanks s with
    | ',' :: s => (readItems fuel s).map fun (items, s) => (item :: items, s)
    | ']' :: s => some ([item], s)
    | _ => none

/-- The members of an object, one at least, up to its closing brace. -/
def readMembers : ℕ → List Char → Option (List (String × Json) × List Char)
  | 0, _ => none
  | fuel + 1, s =>
    match skipBlanks s with
    | '"' :: s => do
      let (name, s) ← readString s
      match skipBlanks s with
      | ':' :: s => do
        let (value, s) ← readValue fuel (skipBlanks s)
        let member := (String.ofList name, value)
        match skipBlanks s with
        | ',' :: s => (readMembers fuel s).map fun (members, s) => (member :: members, s)
        | '}' :: s => some ([member], s)
        | _ => none
      | _ => none
    | _ => none

end

/-- The value of a JSON text. -/
def parse (s : String) : Option Json := do
  let (json, rest) ← readValue (s.toList.length + 1) (skipBlanks s.toList)
  if skipBlanks rest = [] then some json else none

/-! ## Strings -/

/-- The digits of a code unit are no quotes. -/
theorem notMem_of_codeUnit {a b c d : Char} {n : ℕ} (h : codeUnit? a b c d = some n) :
    '"' ∉ [a, b, c, d] := by
  have hdigit : ∀ {d : Char} {n : ℕ}, Text.hexDigit? d = some n → '"' ≠ d := by
    rintro d n hd rfl
    have hnone : Text.hexDigit? '"' = none := by decide
    rw [hnone] at hd
    cases hd
  unfold codeUnit? at h
  simp only [Option.bind_eq_bind, Option.bind_eq_some_iff] at h
  obtain ⟨_, ha, _, hb, _, hc, _, hd, -⟩ := h
  simp [hdigit ha, hdigit hb, hdigit hc, hdigit hd]

/-- The second half of a surrogate pair is written without a quote. -/
theorem lowSurrogate?_cases {s rest : List Char} {low : ℕ}
    (h : lowSurrogate? s = some (low, rest)) : ∃ e, s = e ++ rest ∧ '"' ∉ e := by
  unfold lowSurrogate? at h
  split at h
  · rename_i a b c d rest'
    simp only [Option.bind_eq_bind, Option.bind_eq_some_iff] at h
    obtain ⟨unit, hunit, h⟩ := h
    split_ifs at h
    obtain ⟨rfl, rfl⟩ : unit = low ∧ rest' = rest := by simpa using h
    have hmem := notMem_of_codeUnit hunit
    exact ⟨['\\', 'u', a, b, c, d], rfl, by simpa using hmem⟩
  · cases h

/-- So is the rest of a character written `\u`. -/
theorem unicode?_cases {s rest : List Char} {ch : Char} (h : unicode? s = some (ch, rest)) :
    ∃ e, s = e ++ rest ∧ '"' ∉ e := by
  unfold unicode? at h
  split at h
  · rename_i a b c d rest'
    simp only [Option.bind_eq_bind, Option.bind_eq_some_iff] at h
    obtain ⟨unit, hunit, h⟩ := h
    have hmem := notMem_of_codeUnit hunit
    split_ifs at h with hhigh hlow
    · simp only [Option.bind_eq_some_iff] at h
      obtain ⟨⟨low, rest''⟩, hpair, h⟩ := h
      obtain ⟨-, rfl⟩ : _ ∧ rest'' = rest := by simpa using h
      obtain ⟨e, rfl, he⟩ := lowSurrogate?_cases hpair
      exact ⟨[a, b, c, d] ++ e, by simp, by simpa [he] using hmem⟩
    · obtain ⟨-, rfl⟩ : _ ∧ rest' = rest := by simpa using h
      exact ⟨[a, b, c, d], rfl, hmem⟩
  · cases h

/-- A character is written as itself, or as an escape that has no quote in it but the quote's own.
-/
theorem readChar_cases {s rest : List Char} {c : Char} (h : readChar s = some (c, rest)) :
    isPlain c = true ∧ s = c :: rest ∨
      ∃ e, e ≠ [] ∧ s = '\\' :: (e ++ rest) ∧ (e = ['"'] ∧ c = '"' ∨ '"' ∉ e) := by
  unfold readChar at h
  split at h
  · cases h
  · rename_i b tail
    split_ifs at h with hescape hplain
    · subst hescape
      split at h
      · cases h
      · rename_i d tail
        split_ifs at h with hu
        · obtain ⟨e, rfl, he⟩ := unicode?_cases h
          subst hu
          exact .inr ⟨'u' :: e, by simp, rfl, .inr (by simp [he])⟩
        · obtain ⟨ch, hch, hpair⟩ := Option.map_eq_some_iff.mp h
          obtain ⟨rfl, rfl⟩ : ch = c ∧ tail = rest := by simpa using hpair
          refine .inr ⟨[d], by simp, rfl, ?_⟩
          by_cases hd : d = '"'
          · subst hd
            have hquote : escaped? '"' = some '"' := by decide
            exact .inl ⟨rfl, (Option.some.inj (hquote.symm.trans hch)).symm⟩
          · exact .inr (by simpa [eq_comm] using hd)
    · obtain ⟨rfl, rfl⟩ : b = c ∧ tail = rest := by simpa using h
      exact .inl ⟨hplain, rfl⟩

/-- What is read of a string: the closing quote, or a character and what is read behind it. -/
theorem readChars_succ {fuel : ℕ} {s cs rest : List Char}
    (h : readChars (fuel + 1) s = some (cs, rest)) :
    cs = [] ∧ s = '"' :: rest ∨ ∃ c cs' s', cs = c :: cs' ∧ readChar s = some (c, s') ∧
      readChars fuel s' = some (cs', rest) := by
  unfold readChars at h
  split at h
  · cases h
  · obtain ⟨rfl, rfl⟩ := Prod.mk.inj (Option.some.inj h)
    exact .inl ⟨rfl, rfl⟩
  · rename_i fuel' _ heq
    obtain rfl : fuel' = fuel := by omega
    simp only [Option.bind_eq_bind, Option.bind_eq_some_iff] at h
    obtain ⟨⟨c, s'⟩, hc, ⟨cs', rest'⟩, hcs, h⟩ := h
    obtain ⟨rfl, rfl⟩ : c :: cs' = cs ∧ rest' = rest := by simpa using h
    exact .inr ⟨c, cs', s', rfl, hc, hcs⟩

/-- The next character of a string that is as it stands. -/
theorem readChar_of_isPlain {c : Char} (h : isPlain c = true) (rest : List Char) :
    readChar (c :: rest) = some (c, rest) := by
  have hne : c ≠ '\\' := by
    rintro rfl
    revert h
    decide
  unfold readChar
  dsimp only
  rw [if_neg hne, if_pos h]

/-- A string of plain characters is read as it stands. -/
theorem readChars_of_isPlain {cs : List Char} (h : ∀ c ∈ cs, isPlain c = true) (rest : List Char) :
    ∀ {fuel}, cs.length < fuel → readChars fuel (cs ++ '"' :: rest) = some (cs, rest) := by
  induction cs with
  | nil =>
    intro fuel hfuel
    obtain ⟨fuel, rfl⟩ : ∃ n, fuel = n + 1 := ⟨fuel - 1, by omega⟩
    rfl
  | cons c cs ih =>
    intro fuel hfuel
    rw [List.length_cons] at hfuel
    obtain ⟨fuel, rfl⟩ : ∃ n, fuel = n + 1 := ⟨fuel - 1, by omega⟩
    have hc := h c List.mem_cons_self
    have hrest := @ih (fun d hd => h d (List.mem_cons_of_mem _ hd)) fuel (by omega)
    have hne : c ≠ '"' := by
      rintro rfl
      revert hc
      decide
    rw [List.cons_append, readChars]
    · rw [readChar_of_isPlain hc, Option.bind_eq_bind, Option.bind_some]
      dsimp only
      rw [hrest]
      rfl
    · intro tail htail
      exact hne (List.cons.inj htail).1

/-- More fuel reads the same string. -/
theorem readChars_mono {fuel : ℕ} :
    ∀ {s cs rest fuel'}, readChars fuel s = some (cs, rest) → fuel ≤ fuel' →
      readChars fuel' s = some (cs, rest) := by
  induction fuel with
  | zero => intro s cs rest fuel' h; cases h
  | succ fuel ih =>
    intro s cs rest fuel' h hle
    obtain ⟨fuel', rfl⟩ : ∃ n, fuel' = n + 1 := ⟨fuel' - 1, by omega⟩
    rcases readChars_succ h with ⟨rfl, rfl⟩ | ⟨c, cs', s', rfl, hc, hcs⟩
    · rfl
    · have hrec := ih hcs (by omega : fuel ≤ fuel')
      rw [readChars]
      · rw [hc, Option.bind_eq_bind, Option.bind_some]
        dsimp only
        rw [hrec]
        rfl
      · rintro tail rfl
        rcases readChar_cases hc with ⟨hplain, heq⟩ | ⟨e, -, heq, -⟩
        · rw [← (List.cons.inj heq).1] at hplain
          exact absurd hplain (by decide)
        · exact absurd (List.cons.inj heq).1 (by decide)

/-- What is read of a text that stands between quotes, in front of a comma and another quote: no
more characters than the text has, and only as many if all of them are plain; or else the text ends
in a backslash, and the string goes on to the other quote. -/
theorem readChars_append {w rest : List Char} {fuel : ℕ} :
    ∀ {x cs}, readChars fuel (x ++ '"' :: ',' :: '"' :: w) = some (cs, rest) →
      cs.length ≤ x.length ∧ (cs.length = x.length → ∀ c ∈ x, isPlain c = true) ∨
        x.getLast? = some '\\' ∧ cs.getLast? = some ',' := by
  induction fuel with
  | zero => intro x cs h; cases h
  | succ fuel ih =>
    intro x cs h
    have hnil : ∀ x : List Char, ([] : List Char).length = x.length →
        ∀ c ∈ x, isPlain c = true := by
      intro x hlen c hc
      rw [List.eq_nil_of_length_eq_zero hlen.symm] at hc
      cases hc
    rcases readChars_succ h with ⟨rfl, -⟩ | ⟨c, cs', s', rfl, hc, hcs⟩
    · exact .inl ⟨Nat.zero_le _, hnil x⟩
    · rcases readChar_cases hc with ⟨hplain, heq⟩ | ⟨e, hne, heq, hquote⟩
      · cases x with
        | nil =>
          rw [← (List.cons.inj heq).1] at hplain
          exact absurd hplain (by decide)
        | cons d x =>
          obtain ⟨rfl, rfl⟩ := List.cons.inj heq
          rcases ih hcs with ⟨hle, hfull⟩ | ⟨hx, hcs'⟩
          · refine .inl ⟨Nat.succ_le_succ hle, fun hlen c hc => ?_⟩
            rcases List.mem_cons.mp hc with rfl | hc
            · exact hplain
            · exact hfull (Nat.succ.inj hlen) c hc
          · exact .inr ⟨by rw [List.getLast?_cons, hx]; rfl, by rw [List.getLast?_cons, hcs']; rfl⟩
      · cases x with
        | nil => exact absurd (List.cons.inj heq).1 (by decide)
        | cons d x =>
          obtain ⟨rfl, htail⟩ := List.cons.inj heq
          have hpos : 0 < e.length := List.length_pos_iff.mpr hne
          rcases List.append_eq_append_iff.mp htail with ⟨a, hea, hs'⟩ | ⟨a, rfl, rfl⟩
          · cases a with
            | nil =>
              rw [List.append_nil] at hea
              subst hea
              -- The escape ends where the text does.
              have hcs' : readChars fuel ([] ++ '"' :: ',' :: '"' :: w) = some (cs', rest) := by
                rw [hs']
                exact hcs
              rcases ih hcs' with ⟨hle, -⟩ | ⟨hx, -⟩
              · rw [List.length_nil] at hle
                refine .inl ⟨?_, fun hlen => ?_⟩ <;> simp only [List.length_cons] at * <;> omega
              · cases hx
            | cons b a =>
              -- The escape reaches past the text, so it is that of the quote behind it.
              obtain ⟨rfl, hbehind⟩ := List.cons.inj hs'
              obtain ⟨he, rfl⟩ := hquote.resolve_right fun hnot => hnot (by rw [hea]; simp)
              obtain ⟨rfl, rfl⟩ : x = [] ∧ a = [] := by
                rw [he] at hea
                cases x with
                | nil => exact ⟨rfl, (List.cons.inj hea).2.symm⟩
                | cons d x => simpa using (List.cons.inj hea).2
              obtain rfl : ',' :: '"' :: w = s' := hbehind
              have hcomma := @readChars_of_isPlain [','] (List.forall_mem_singleton.mpr rfl) w
                (fuel + 2) (by simp)
              obtain ⟨rfl, -⟩ : cs' = [','] ∧ rest = w := by
                simpa using (readChars_mono hcs (by omega : fuel ≤ fuel + 2)).symm.trans hcomma
              exact .inr ⟨rfl, rfl⟩
          · rcases ih hcs with ⟨hle, -⟩ | ⟨hx, hcs'⟩
            · refine .inl ⟨?_, fun hlen => ?_⟩ <;>
                simp only [List.length_cons, List.length_append] at * <;> omega
            · refine .inr ⟨?_, by rw [List.getLast?_cons, hcs']; rfl⟩
              rw [List.getLast?_cons, List.getLast?_append, hx]
              rfl

/-- A text that is read back as it stands from between quotes, or from behind a part of it, is plain
and is read from its beginning. -/
theorem isPlain_of_readChars {y x w rest : List Char} {fuel : ℕ}
    (h : readChars fuel (x ++ '"' :: ',' :: '"' :: w) = some (y ++ x, rest)) :
    ∀ c ∈ y ++ x, isPlain c = true := by
  rcases readChars_append h with ⟨hle, hfull⟩ | ⟨hx, hcs⟩
  · rw [List.length_append] at hle hfull
    obtain rfl : y = [] := List.eq_nil_of_length_eq_zero (by omega)
    exact hfull (by simp)
  · rw [List.getLast?_append, hx, Option.some_or] at hcs
    exact absurd hcs (by decide)

/-- A string is read from a text without backslashes as it stands. -/
theorem isPlain_of_notMem {fuel : ℕ} :
    ∀ {s cs rest}, readChars fuel s = some (cs, rest) → '\\' ∉ s → ∀ c ∈ cs, isPlain c = true := by
  induction fuel with
  | zero => intro s cs rest h; cases h
  | succ fuel ih =>
    intro s cs rest h hs
    rcases readChars_succ h with ⟨rfl, -⟩ | ⟨c, cs', s', rfl, hc, hcs⟩
    · exact fun c hc => nomatch hc
    · rcases readChar_cases hc with ⟨hplain, rfl⟩ | ⟨e, -, rfl, -⟩
      · intro d hd
        rcases List.mem_cons.mp hd with rfl | hd
        · exact hplain
        · exact ih hcs (fun hmem => hs (List.mem_cons_of_mem _ hmem)) d hd
      · exact absurd List.mem_cons_self hs

/-! ## The strings of a value -/

/-- What is left behind a string is a part of the text. -/
theorem readChars_suffix {fuel : ℕ} :
    ∀ {s cs rest}, readChars fuel s = some (cs, rest) → rest <:+ s := by
  induction fuel with
  | zero => intro s cs rest h; cases h
  | succ fuel ih =>
    intro s cs rest h
    rcases readChars_succ h with ⟨rfl, rfl⟩ | ⟨c, cs', s', rfl, hc, hcs⟩
    · exact List.suffix_cons _ _
    · refine (ih hcs).trans ?_
      rcases readChar_cases hc with ⟨-, rfl⟩ | ⟨e, -, rfl, -⟩
      · exact List.suffix_cons _ _
      · exact (List.suffix_append _ _).trans (List.suffix_cons _ _)

/-- So is what is left behind white space. -/
theorem skipBlanks_suffix (s : List Char) : skipBlanks s <:+ s := List.dropWhile_suffix _

/-- So is what is left behind digits. -/
theorem readDigits_suffix {s digits rest : List Char} (h : readDigits s = some (digits, rest)) :
    rest <:+ s := by
  unfold readDigits at h
  dsimp only at h
  split_ifs at h
  obtain ⟨-, rfl⟩ := Prod.mk.inj (Option.some.inj h)
  exact List.dropWhile_suffix _

/-- So is what is left behind a number. -/
theorem readNumber_suffix {s rest : List Char} {v : Json} (h : readNumber s = some (v, rest)) :
    rest <:+ s ∧ ∃ literal, v = .num literal := by
  have hfraction : ∀ {s digits rest}, readFraction s = some (digits, rest) → rest <:+ s := by
    intro s digits rest h
    unfold readFraction at h
    split at h
    · obtain ⟨⟨_, _⟩, hdigits, heq⟩ := Option.map_eq_some_iff.mp h
      obtain ⟨-, rfl⟩ := Prod.mk.inj heq
      exact (readDigits_suffix hdigits).trans (List.suffix_cons _ _)
    · obtain ⟨-, rfl⟩ := Prod.mk.inj (Option.some.inj h)
      exact List.suffix_rfl
  have hexponent : ∀ {s digits rest}, readExponent s = some (digits, rest) → rest <:+ s := by
    intro s digits rest h
    unfold readExponent at h
    split at h
    · obtain ⟨-, rfl⟩ := Prod.mk.inj (Option.some.inj h)
      exact List.suffix_rfl
    · split_ifs at h
      · split at h <;> obtain ⟨⟨_, _⟩, hdigits, heq⟩ := Option.map_eq_some_iff.mp h <;>
          obtain ⟨-, rfl⟩ := Prod.mk.inj heq
        · exact (readDigits_suffix hdigits).trans
            ((List.suffix_cons _ _).trans (List.suffix_cons _ _))
        · exact (readDigits_suffix hdigits).trans
            ((List.suffix_cons _ _).trans (List.suffix_cons _ _))
        · exact (readDigits_suffix hdigits).trans (List.suffix_cons _ _)
      · obtain ⟨-, rfl⟩ := Prod.mk.inj (Option.some.inj h)
        exact List.suffix_rfl
  unfold readNumber readInt at h
  simp only [Option.bind_eq_bind, Option.bind_eq_some_iff] at h
  obtain ⟨⟨int, s₁⟩, ⟨⟨digits, s₁'⟩, hdigits, hint⟩, ⟨fraction, s₂⟩, hf, ⟨exponent, s₃⟩, he, h⟩ := h
  obtain ⟨rfl, rfl⟩ := Prod.mk.inj (Option.some.inj h)
  split_ifs at hint
  obtain ⟨rfl, rfl⟩ := Prod.mk.inj (Option.some.inj hint)
  refine ⟨(hexponent he).trans ((hfraction hf).trans
    ((readDigits_suffix hdigits).trans ?_)), _, rfl⟩
  split
  · exact List.suffix_cons _ _
  · exact List.suffix_rfl

/-- A string is read from behind a quote of the text. -/
def Quoted (s : List Char) (x : String) : Prop :=
  ∃ t fuel rest, '"' :: t <:+ s ∧ readChars fuel t = some (x.toList, rest)

/-- A string that is read from a part of the text is read from the text. -/
theorem Quoted.of_suffix {s t : List Char} {x : String} (h : Quoted t x) (hst : t <:+ s) :
    Quoted s x := by
  obtain ⟨t', fuel, rest, ht', hread⟩ := h
  exact ⟨t', fuel, rest, ht'.trans hst, hread⟩

/-- A string that is the value, or a member of it. -/
def Holds (v : Json) (x : String) : Prop :=
  match v with
  | .str y => x = y
  | .obj members => ∃ name, (name, .str x) ∈ members
  | _ => False

/-- What is left behind a value, items or members is a part of the text, and a value or a member
that is a string is read from behind a quote. -/
structure ReadsQuoted (fuel : ℕ) : Prop where
  value : ∀ {s v rest}, readValue fuel s = some (v, rest) →
    rest <:+ s ∧ ∀ x, Holds v x → Quoted s x
  items : ∀ {s items rest}, readItems fuel s = some (items, rest) → rest <:+ s
  members : ∀ {s members rest}, readMembers fuel s = some (members, rest) →
    rest <:+ s ∧ ∀ name x, (name, Json.str x) ∈ members → Quoted s x

variable {fuel : ℕ}

/-- So it is behind a value, one level up. -/
theorem ReadsQuoted.value_succ (ih : ReadsQuoted fuel) {s rest : List Char} {v : Json}
    (h : readValue (fuel + 1) s = some (v, rest)) :
    rest <:+ s ∧ ∀ x, Holds v x → Quoted s x := by
  rw [readValue.eq_def] at h
  split at h
  · cases h
  · obtain ⟨rfl, rfl⟩ := Prod.mk.inj (Option.some.inj h)
    exact ⟨⟨"null".toList, rfl⟩, nofun⟩
  · obtain ⟨rfl, rfl⟩ := Prod.mk.inj (Option.some.inj h)
    exact ⟨⟨"true".toList, rfl⟩, nofun⟩
  · obtain ⟨rfl, rfl⟩ := Prod.mk.inj (Option.some.inj h)
    exact ⟨⟨"false".toList, rfl⟩, nofun⟩
  · -- A string is read from behind the quote that it begins with.
    rename_i s₁ _
    obtain ⟨⟨cs, s₂⟩, hread, heq⟩ := Option.map_eq_some_iff.mp h
    obtain ⟨rfl, rfl⟩ := Prod.mk.inj heq
    refine ⟨(readChars_suffix hread).trans (List.suffix_cons _ _), fun x hx => ?_⟩
    obtain rfl : x = String.ofList cs := hx
    exact ⟨s₁, _, s₂, List.suffix_rfl, by rwa [String.toList_ofList]⟩
  · -- An array.
    rename_i fuel' s₁ heq
    obtain rfl : fuel' = fuel := by omega
    have hfront : skipBlanks s₁ <:+ '[' :: s₁ :=
      (skipBlanks_suffix _).trans (List.suffix_cons _ _)
    split at h
    · rename_i s₂ hs₂
      obtain ⟨rfl, rfl⟩ := Prod.mk.inj (Option.some.inj h)
      rw [hs₂] at hfront
      exact ⟨(List.suffix_cons _ _).trans hfront, nofun⟩
    · obtain ⟨⟨items, s₂⟩, hitems, heq⟩ := Option.map_eq_some_iff.mp h
      obtain ⟨rfl, rfl⟩ := Prod.mk.inj heq
      exact ⟨(ih.items hitems).trans hfront, nofun⟩
  · -- An object.
    rename_i fuel' s₁ heq
    obtain rfl : fuel' = fuel := by omega
    have hfront : skipBlanks s₁ <:+ '{' :: s₁ :=
      (skipBlanks_suffix _).trans (List.suffix_cons _ _)
    split at h
    · rename_i s₂ hs₂
      obtain ⟨rfl, rfl⟩ := Prod.mk.inj (Option.some.inj h)
      rw [hs₂] at hfront
      exact ⟨(List.suffix_cons _ _).trans hfront, nofun⟩
    · obtain ⟨⟨members, s₂⟩, hmembers, heq⟩ := Option.map_eq_some_iff.mp h
      obtain ⟨rfl, rfl⟩ := Prod.mk.inj heq
      obtain ⟨hrest, hstr⟩ := ih.members hmembers
      exact ⟨hrest.trans hfront, fun x ⟨name, hmem⟩ => (hstr name x hmem).of_suffix hfront⟩
  · obtain ⟨hrest, literal, rfl⟩ := readNumber_suffix h
    exact ⟨hrest, nofun⟩

/-- So it is behind items. -/
theorem ReadsQuoted.items_succ (ih : ReadsQuoted fuel) {s rest : List Char} {items : List Json}
    (h : readItems (fuel + 1) s = some (items, rest)) : rest <:+ s := by
  unfold readItems at h
  simp only [Option.bind_eq_bind, Option.bind_eq_some_iff] at h
  obtain ⟨⟨item, s₁⟩, hitem, h⟩ := h
  have hfront : skipBlanks s₁ <:+ s :=
    (skipBlanks_suffix _).trans ((ih.value hitem).1.trans (skipBlanks_suffix _))
  dsimp only at h
  split at h
  · rename_i s₂ heq
    obtain ⟨⟨items', s₃⟩, hitems, heq'⟩ := Option.map_eq_some_iff.mp h
    obtain ⟨-, rfl⟩ := Prod.mk.inj heq'
    rw [heq] at hfront
    exact (ih.items hitems).trans ((List.suffix_cons _ _).trans hfront)
  · rename_i s₂ heq
    obtain ⟨-, rfl⟩ := Prod.mk.inj (Option.some.inj h)
    rw [heq] at hfront
    exact (List.suffix_cons _ _).trans hfront
  · cases h

/-- So it is behind members. -/
theorem ReadsQuoted.members_succ (ih : ReadsQuoted fuel) {s rest : List Char}
    {members : List (String × Json)} (h : readMembers (fuel + 1) s = some (members, rest)) :
    rest <:+ s ∧ ∀ name x, (name, Json.str x) ∈ members → Quoted s x := by
  unfold readMembers at h
  split at h
  · rename_i s₁ hs₁
    simp only [Option.bind_eq_bind, Option.bind_eq_some_iff] at h
    obtain ⟨⟨name, s₂⟩, hname, h⟩ := h
    -- Behind the name.
    have hs₂ : skipBlanks s₂ <:+ s := by
      have hquote := skipBlanks_suffix s
      rw [hs₁] at hquote
      exact (skipBlanks_suffix _).trans
        ((readChars_suffix hname).trans ((List.suffix_cons _ _).trans hquote))
    dsimp only at h
    split at h
    · rename_i s₃ hs₃
      simp only [Option.bind_eq_some_iff] at h
      obtain ⟨⟨value, s₄⟩, hvalue, h⟩ := h
      obtain ⟨hrest, hstr⟩ := ih.value hvalue
      -- Behind the colon, where the value begins.
      have hs₃' : skipBlanks s₃ <:+ s := by
        rw [hs₃] at hs₂
        exact (skipBlanks_suffix _).trans ((List.suffix_cons _ _).trans hs₂)
      have hs₄ : skipBlanks s₄ <:+ s := (skipBlanks_suffix _).trans (hrest.trans hs₃')
      have hmember : ∀ n x, (n, Json.str x) = (String.ofList name, value) → Quoted s x :=
        fun n x heq => (hstr x (by rw [← (Prod.mk.inj heq).2]; rfl)).of_suffix hs₃'
      dsimp only at h
      split at h
      · rename_i s₅ hs₅
        -- A comma, and other members.
        obtain ⟨⟨members', s₆⟩, hmembers, heq⟩ := Option.map_eq_some_iff.mp h
        obtain ⟨rfl, rfl⟩ := Prod.mk.inj heq
        obtain ⟨hrest', hstr'⟩ := ih.members hmembers
        rw [hs₅] at hs₄
        have hs₅' : s₅ <:+ s := (List.suffix_cons _ _).trans hs₄
        refine ⟨hrest'.trans hs₅', fun n x hmem => ?_⟩
        rcases List.mem_cons.mp hmem with heq | hmem
        · exact hmember n x heq
        · exact (hstr' n x hmem).of_suffix hs₅'
      · rename_i s₅ hs₅
        obtain ⟨rfl, rfl⟩ := Prod.mk.inj (Option.some.inj h)
        rw [hs₅] at hs₄
        exact ⟨(List.suffix_cons _ _).trans hs₄,
          fun n x hmem => hmember n x (List.mem_singleton.mp hmem)⟩
      · cases h
    · cases h
  · cases h

@[inherit_doc ReadsQuoted]
theorem readsQuoted (fuel : ℕ) : ReadsQuoted fuel := by
  induction fuel with
  | zero =>
    refine ⟨fun {s v rest} h => ?_, fun {s items rest} h => ?_, fun {s members rest} h => ?_⟩
    · rw [readValue] at h
      cases h
    · rw [readItems] at h
      cases h
    · rw [readMembers] at h
      cases h
  | succ fuel ih => exact ⟨ih.value_succ, ih.items_succ, ih.members_succ⟩

/-- A string field of an object is read from behind a quote of its text. -/
theorem quoted_of_field {s name x : String} {json : Json} (h : parse s = some json)
    (hfield : json.field? name = some (.str x)) : Quoted s.toList x := by
  unfold parse at h
  simp only [Option.bind_eq_bind, Option.bind_eq_some_iff] at h
  obtain ⟨⟨v, rest⟩, hread, h⟩ := h
  split_ifs at h
  obtain rfl : v = json := by simpa using h
  have hholds : Holds v x := by
    unfold field? at hfield
    split at hfield
    · obtain ⟨⟨n, v⟩, hfind, rfl⟩ := Option.map_eq_some_iff.mp hfield
      rw [List.findRev?_eq_find?_reverse] at hfind
      exact ⟨n, List.mem_reverse.mp (List.mem_of_find?_eq_some hfind)⟩
    · cases hfield
  exact (((readsQuoted _).value hread).2 x hholds).of_suffix (skipBlanks_suffix _)

/-! ## Numbers -/

/-- A positive number is written without a leading zero. -/
theorem head?_toDigits_ne {n : ℕ} (h : 0 < n) : (Nat.toDigits 10 n).head? ≠ some '0' := by
  induction n using Nat.strongRecOn with
  | ind n ih =>
    rw [Nat.toDigits_eq_if (by decide)]
    split_ifs with hlt
    · interval_cases n <;> decide
    · have hrec := ih (n / 10) (by omega) (by omega)
      rwa [List.head?_append_of_ne_nil _ Nat.toDigits_ne_nil]

/-- A number that is written in decimal is read as it stands. -/
theorem readNumber_toString (n : ℕ) {c : Char} (hc : c.isDigit = false)
    (hend : c ≠ '.' ∧ c ≠ 'e' ∧ c ≠ 'E') (rest : List Char) :
    readNumber ((toString n).toList ++ c :: rest) = some (.num (toString n), c :: rest) := by
  have hdigits : (toString n).toList = Nat.toDigits 10 n := by
    rw [Nat.toString_eq_repr, Nat.toList_repr]
  have hall : ∀ d ∈ Nat.toDigits 10 n, d.isDigit = true :=
    fun d hd => Nat.isDigit_of_mem_toDigits (by decide) (by decide) hd
  -- The literal has no leading zero, no sign, no fraction and no exponent.
  have hzero : ¬ ((Nat.toDigits 10 n).head? = some '0' ∧ Nat.toDigits 10 n ≠ ['0']) := by
    rintro ⟨hhead, hne⟩
    rcases Nat.eq_zero_or_pos n with rfl | hpos
    · exact hne (Nat.toDigits_zero 10)
    · exact head?_toDigits_ne hpos hhead
  have hread : readInt (Nat.toDigits 10 n ++ c :: rest) = some (Nat.toDigits 10 n, c :: rest) := by
    unfold readInt readDigits
    dsimp only
    rw [List.takeWhile_append_of_pos hall, List.dropWhile_append_of_pos hall,
      List.takeWhile_cons_of_neg (by simp [hc]), List.dropWhile_cons_of_neg (by simp [hc]),
      List.append_nil, if_neg Nat.toDigits_ne_nil, Option.bind_eq_bind, Option.bind_some]
    dsimp only
    rw [if_neg hzero]
  have hsign : ∀ s, Nat.toDigits 10 n ++ c :: rest ≠ '-' :: s := by
    intro s heq
    obtain ⟨d, ds, hcons⟩ := List.exists_cons_of_ne_nil (Nat.toDigits_ne_nil (n := n) (b := 10))
    rw [hcons] at heq hall
    have hdigit := hall d List.mem_cons_self
    rw [(List.cons.inj heq).1] at hdigit
    exact absurd hdigit (by decide)
  have hfraction : readFraction (c :: rest) = some ([], c :: rest) := by
    unfold readFraction
    split
    · rename_i heq
      exact absurd (List.cons.inj heq).1 hend.1
    · rfl
  have hexponent : readExponent (c :: rest) = some ([], c :: rest) := by
    unfold readExponent
    dsimp only
    rw [if_neg (not_or.mpr hend.2)]
  rw [hdigits]
  unfold readNumber
  split
  rename_i sign s heq
  split at heq
  · rename_i s' hs'
    exact absurd hs' (hsign s')
  · obtain ⟨rfl, rfl⟩ := Prod.mk.inj heq
    rw [hread, Option.bind_eq_bind, Option.bind_some]
    dsimp only
    rw [hfraction, Option.bind_some]
    dsimp only
    rw [hexponent, Option.bind_some]
    dsimp only
    rw [List.nil_append, List.append_nil, List.append_nil, ← hdigits, String.ofList_toList]

/-- So is a value that begins with a digit. -/
theorem readValue_toString (fuel n : ℕ) {c : Char} (hc : c.isDigit = false)
    (hend : c ≠ '.' ∧ c ≠ 'e' ∧ c ≠ 'E') (rest : List Char) :
    readValue (fuel + 1) ((toString n).toList ++ c :: rest) =
      some (.num (toString n), c :: rest) := by
  have hdigit : ∀ d s, (toString n).toList ++ c :: rest = d :: s → d.isDigit = true := by
    intro d s heq
    rw [Nat.toString_eq_repr, Nat.toList_repr] at heq
    obtain ⟨e, ds, hcons⟩ := List.exists_cons_of_ne_nil (Nat.toDigits_ne_nil (n := n) (b := 10))
    have hmem : e ∈ Nat.toDigits 10 n := by
      rw [hcons]
      exact List.mem_cons_self
    rw [hcons] at heq
    rw [← (List.cons.inj heq).1]
    exact Nat.isDigit_of_mem_toDigits (by decide) (by decide) hmem
  rw [readValue, readNumber_toString n hc hend rest]
  all_goals
    intro s heq
    exact absurd (hdigit _ _ heq) (by decide)

/-! ## Objects -/

/-- A digit is no white space. -/
theorem isBlank_of_isDigit {c : Char} (h : c.isDigit = true) : isBlank c = false := by
  have hne : ∀ d : Char, d.isDigit = false → (c == d) = false := by
    intro d hd
    rw [beq_eq_false_iff_ne]
    rintro rfl
    rw [h] at hd
    cases hd
  unfold isBlank
  rw [hne ' ' (by decide), hne '\t' (by decide), hne '\n' (by decide), hne '\r' (by decide)]
  rfl

/-- Nothing is skipped in front of a token. -/
theorem skipBlanks_cons {c : Char} (hc : isBlank c = false) (s : List Char) :
    skipBlanks (c :: s) = c :: s :=
  List.dropWhile_cons_of_neg (by simp [hc])

/-- A string of plain characters is read up to its quote. -/
theorem readString_of_isPlain {cs : List Char} (h : ∀ c ∈ cs, isPlain c = true)
    (rest : List Char) : readString (cs ++ '"' :: rest) = some (cs, rest) := by
  refine readChars_of_isPlain h rest ?_
  rw [List.length_append, List.length_cons]
  omega

/-- A member whose name is plain, and the members behind it. -/
theorem readMembers_of_isPlain {fuel : ℕ} {name : List Char} (hname : ∀ c ∈ name, isPlain c = true)
    {c : Char} (hc : isBlank c = false) {s s' : List Char} {v : Json}
    (hvalue : readValue fuel (c :: s) = some (v, s')) :
    readMembers (fuel + 1) ('"' :: (name ++ '"' :: ':' :: c :: s)) =
      match skipBlanks s' with
      | ',' :: s => (readMembers fuel s).map fun (members, s) =>
          ((String.ofList name, v) :: members, s)
      | '\x7d' :: s => some ([(String.ofList name, v)], s)
      | _ => none := by
  rw [readMembers, skipBlanks_cons (by decide)]
  split
  · rename_i s₁ hs₁
    obtain rfl := (List.cons.inj hs₁).2
    rw [readString_of_isPlain hname, Option.bind_eq_bind, Option.bind_some]
    dsimp only
    rw [skipBlanks_cons (by decide)]
    split
    · rename_i s₂ hs₂
      obtain rfl := (List.cons.inj hs₂).2
      rw [skipBlanks_cons hc, hvalue, Option.bind_eq_bind, Option.bind_some]
    · rename_i hnone
      exact absurd rfl (hnone _)
  · rename_i hnone
    exact absurd rfl (hnone _)

/-- The last member. -/
theorem readMembers_last {fuel : ℕ} {name : List Char} (hname : ∀ c ∈ name, isPlain c = true)
    {c : Char} (hc : isBlank c = false) {s rest : List Char} {v : Json}
    (hvalue : readValue fuel (c :: s) = some (v, '\x7d' :: rest)) :
    readMembers (fuel + 1) ('"' :: (name ++ '"' :: ':' :: c :: s)) =
      some ([(String.ofList name, v)], rest) := by
  rw [readMembers_of_isPlain hname hc hvalue, skipBlanks_cons (by decide)]
  rfl

/-- A member in front of others. -/
theorem readMembers_cons {fuel : ℕ} {name : List Char} (hname : ∀ c ∈ name, isPlain c = true)
    {c : Char} (hc : isBlank c = false) {s s' rest : List Char} {v : Json}
    {members : List (String × Json)} (hvalue : readValue fuel (c :: s) = some (v, ',' :: s'))
    (hrest : readMembers fuel s' = some (members, rest)) :
    readMembers (fuel + 1) ('"' :: (name ++ '"' :: ':' :: c :: s)) =
      some ((String.ofList name, v) :: members, rest) := by
  rw [readMembers_of_isPlain hname hc hvalue, skipBlanks_cons (by decide)]
  split
  · rename_i s₁ hs₁
    obtain rfl := (List.cons.inj hs₁).2
    rw [hrest]
    rfl
  · rename_i hs₁
    exact absurd (List.cons.inj hs₁).1 (by decide)
  · rename_i hnone _
    exact absurd rfl (hnone _)

/-- An object with members. -/
theorem readValue_obj {fuel : ℕ} {s rest : List Char} {members : List (String × Json)}
    (h : readMembers fuel ('"' :: s) = some (members, rest)) :
    readValue (fuel + 1) ('\x7b' :: '"' :: s) = some (.obj members, rest) := by
  rw [readValue, skipBlanks_cons (by decide)]
  split
  · rename_i hs
    exact absurd (List.cons.inj hs).1 (by decide)
  · rw [h]
    rfl

/-- A string of plain characters. -/
theorem readValue_str (fuel : ℕ) {s : String} (hs : ∀ c ∈ s.toList, isPlain c = true)
    (rest : List Char) :
    readValue (fuel + 1) ('"' :: (s.toList ++ '"' :: rest)) = some (.str s, rest) := by
  rw [readValue, readString_of_isPlain hs, Option.map_some]
  dsimp only
  rw [String.ofList_toList]

/-- A text whose value is read to its end. -/
theorem parse_eq_some {s : String} {c : Char} {cs : List Char} (hs : s.toList = c :: cs)
    (hc : isBlank c = false) {v : Json}
    (h : readValue (s.toList.length + 1) s.toList = some (v, [])) : parse s = some v := by
  have hskip : skipBlanks s.toList = s.toList := by rw [hs, skipBlanks_cons hc]
  unfold parse
  rw [hskip, h, Option.bind_eq_bind, Option.bind_some]
  rfl

end Json
