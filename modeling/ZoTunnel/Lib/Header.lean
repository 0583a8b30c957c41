import ZoTunnel.Lib.Bytes

/-!
# HTTP header values

The value of a header of a parsed HTTP/1 request: bytes with no control character but the tab, and
with no blank at either end, since the parser takes the blanks around a value off. `Value.toStr`
reads a value as text, which it does only when all of its bytes are visible ASCII, a space or a tab.

`toStr_of_bytes` says how the UTF-8 form of a string is read, and `exists_value_iff` which strings
can be put into a header and read back (`Plain`).
-/

namespace Header

open Bytes (asBytes)

/-- A space or a tab. -/
def isBlankByte (b : UInt8) : Bool := b == 32 || b == 9

/-- The bytes that a header value can contain. -/
def isFieldByte (b : UInt8) : Bool := 32 ≤ b && b != 127 || b == 9

/-- The bytes that can be read as text. -/
def isVisibleAscii (b : UInt8) : Bool := 32 ≤ b && b < 127 || b == 9

/-- The value of a header of a parsed request. -/
structure Value where
  bytes : List UInt8
  valid : ∀ b ∈ bytes, isFieldByte b = true
  trimmed : ∀ b, bytes.head? = some b ∨ bytes.getLast? = some b → isBlankByte b = false
  deriving DecidableEq

/-- The value with the bytes of a text that has no control characters and no blank at its ends. -/
def Value.ofText (s : String) (hvalid : (asBytes s).all isFieldByte = true)
    (hhead : (asBytes s).head?.any isBlankByte = false)
    (hlast : (asBytes s).getLast?.any isBlankByte = false) : Value where
  bytes := asBytes s
  valid := List.all_eq_true.mp hvalid
  trimmed _ hb :=
    hb.elim ((Option.any_eq_false _ _).mp hhead _) ((Option.any_eq_false _ _).mp hlast _)

/-- The value with the bytes of a text, if a value can have them. -/
def Value.ofText? (s : String) : Option Value :=
  if h : (asBytes s).all isFieldByte = true ∧ (asBytes s).head?.any isBlankByte = false ∧
      (asBytes s).getLast?.any isBlankByte = false then
    some (.ofText s h.1 h.2.1 h.2.2)
  else none

/-- The value as text, if all of its bytes can be read as text. -/
def Value.toStr (v : Value) : Option String :=
  if v.bytes.all isVisibleAscii then
    some (String.ofList (v.bytes.map fun b => Char.ofNat b.toNat))
  else none

/-- The characters of one byte that can be read as text. -/
def isVisible (c : Char) : Bool := 32 ≤ c.toNat && c.toNat < 127 || c.toNat == 9

/-- A space or a tab. -/
def isBlank (c : Char) : Bool := c.toNat == 32 || c.toNat == 9

/-- A string that a header value can carry, and that is read back from it. -/
structure Plain (s : String) : Prop where
  visible : ∀ c ∈ s.toList, isVisible c = true
  trimmed : ∀ c, s.toList.head? = some c ∨ s.toList.getLast? = some c → isBlank c = false

/-- Whether a string is plain can be read off its characters. -/
theorem plain_iff {s : String} :
    Plain s ↔ s.toList.all isVisible = true ∧ s.toList.head?.any isBlank = false ∧
      s.toList.getLast?.any isBlank = false := by
  rw [List.all_eq_true, Option.any_eq_false, Option.any_eq_false]
  constructor
  · rintro ⟨hvisible, htrimmed⟩
    exact ⟨hvisible, fun c hc => htrimmed c (.inl hc), fun c hc => htrimmed c (.inr hc)⟩
  · rintro ⟨hvisible, hhead, hlast⟩
    exact ⟨hvisible, fun c hc => hc.elim (hhead c) (hlast c)⟩

instance (s : String) : Decidable (Plain s) := decidable_of_iff _ plain_iff.symm

/-- A byte that can be read as text can stand in a value. -/
theorem isFieldByte_of_isVisibleAscii {b : UInt8} (h : isVisibleAscii b = true) :
    isFieldByte b = true := by
  simp only [isVisibleAscii, isFieldByte, Bool.or_eq_true, Bool.and_eq_true, decide_eq_true_eq,
    bne_iff_ne] at h ⊢
  exact h.imp (fun hb => ⟨hb.1, fun heq => by rw [heq] at hb; exact absurd hb.2 (by decide)⟩) id

/-- The only byte of a visible character. -/
theorem utf8EncodeChar_of_visible {c : Char} (h : isVisible c = true) :
    String.utf8EncodeChar c = [UInt8.ofNat c.toNat] := by
  simp only [isVisible, Bool.or_eq_true, Bool.and_eq_true, decide_eq_true_eq, beq_iff_eq] at h
  exact Bytes.utf8EncodeChar_of_lt (by omega)

/-- A visible character is read from its byte. -/
theorem visible_byte {c : Char} (h : isVisible c = true) :
    isVisibleAscii (UInt8.ofNat c.toNat) = true ∧ Char.ofNat (UInt8.ofNat c.toNat).toNat = c := by
  simp only [isVisible, Bool.or_eq_true, Bool.and_eq_true, decide_eq_true_eq, beq_iff_eq] at h
  have hnat : (UInt8.ofNat c.toNat).toNat = c.toNat := by
    rw [UInt8.toNat_ofNat', Nat.mod_eq_of_lt (by omega)]
  constructor
  · simp only [isVisibleAscii, Bool.or_eq_true, Bool.and_eq_true, decide_eq_true_eq, beq_iff_eq,
      UInt8.le_iff_toNat_le, UInt8.lt_iff_toNat_lt, ← UInt8.toNat_inj, hnat]
    simpa using h
  · rw [hnat]
    exact Char.ofNat_toNat c

/-- A character that is not visible has a byte that cannot be read as text. -/
theorem exists_byte_of_not_visible {c : Char} (h : isVisible c = false) :
    ∃ b ∈ String.utf8EncodeChar c, isVisibleAscii b = false := by
  have hc : c.toNat = c.val.toNat := rfl
  have hbig : ∀ n, 128 ≤ n → n < 256 → isVisibleAscii (UInt8.ofNat n) = false := by
    intro n hlo hhi
    have hnat : (UInt8.ofNat n).toNat = n := by rw [UInt8.toNat_ofNat', Nat.mod_eq_of_lt hhi]
    simp only [isVisibleAscii, Bool.or_eq_false_iff, Bool.and_eq_false_iff, decide_eq_false_iff_not,
      beq_eq_false_iff_ne, UInt8.le_iff_toNat_le, UInt8.lt_iff_toNat_lt, ne_eq, ← UInt8.toNat_inj,
      hnat]
    have h127 : (127 : UInt8).toNat = 127 := rfl
    have h9 : (9 : UInt8).toNat = 9 := rfl
    omega
  unfold String.utf8EncodeChar
  dsimp only
  -- A single byte is the character's own, and the first of several is 0xC0 or more.
  split_ifs with h1 h2 h3
  · refine ⟨_, List.mem_singleton_self _, ?_⟩
    have hnat : (UInt8.ofNat c.val.toNat).toNat = c.toNat := by
      rw [UInt8.toNat_ofNat', Nat.mod_eq_of_lt (by omega), hc]
    simp only [isVisible, Bool.or_eq_false_iff, Bool.and_eq_false_iff, decide_eq_false_iff_not,
      beq_eq_false_iff_ne] at h
    simp only [isVisibleAscii, Bool.or_eq_false_iff, Bool.and_eq_false_iff, decide_eq_false_iff_not,
      beq_eq_false_iff_ne, UInt8.le_iff_toNat_le, UInt8.lt_iff_toNat_lt, ne_eq, ← UInt8.toNat_inj,
      hnat]
    simpa using h
  · exact ⟨_, List.mem_cons_self, hbig _ (by omega) (by omega)⟩
  · exact ⟨_, List.mem_cons_self, hbig _ (by omega) (by omega)⟩
  · exact ⟨_, List.mem_cons_self, hbig _ (by omega) (by omega)⟩

/-- The bytes of a string of visible characters, one for each. -/
theorem asBytes_of_visible {s : String} (h : ∀ c ∈ s.toList, isVisible c = true) :
    asBytes s = s.toList.map fun c => UInt8.ofNat c.toNat := by
  unfold asBytes
  generalize s.toList = cs at h
  induction cs with
  | nil => rfl
  | cons c cs ih =>
    have hc := utf8EncodeChar_of_visible (h c List.mem_cons_self)
    rw [List.flatMap_cons, hc, ih fun c' hc' => h c' (List.mem_cons_of_mem _ hc')]
    rfl

/-- A value with the bytes of a string of visible characters is read as the string. -/
theorem toStr_of_visible {v : Value} {s : String} (hv : v.bytes = asBytes s)
    (h : ∀ c ∈ s.toList, isVisible c = true) : v.toStr = some s := by
  have hall : v.bytes.all isVisibleAscii = true := by
    rw [hv, asBytes_of_visible h, List.all_eq_true]
    intro b hb
    obtain ⟨c, hc, rfl⟩ := List.mem_map.mp hb
    exact (visible_byte (h c hc)).1
  have hchars : (v.bytes.map fun b => Char.ofNat b.toNat) = s.toList := by
    rw [hv, asBytes_of_visible h, List.map_map]
    calc s.toList.map ((fun b : UInt8 => Char.ofNat b.toNat) ∘ fun c => UInt8.ofNat c.toNat)
        = s.toList.map id := List.map_congr_left fun c hc => (visible_byte (h c hc)).2
      _ = s.toList := List.map_id _
  unfold Value.toStr
  rw [if_pos hall, hchars, String.ofList_toList]

/-- A value with the bytes of any other string is not read. -/
theorem toStr_of_not_visible {v : Value} {s : String} (hv : v.bytes = asBytes s) {c : Char}
    (hc : c ∈ s.toList) (h : isVisible c = false) : v.toStr = none := by
  obtain ⟨b, hb, hbad⟩ := exists_byte_of_not_visible h
  have hmem : b ∈ v.bytes := by
    rw [hv]
    exact List.mem_flatMap.mpr ⟨c, hc, hb⟩
  unfold Value.toStr
  rw [if_neg]
  intro hall
  rw [List.all_eq_true] at hall
  rw [hall b hmem] at hbad
  cases hbad

/-- A blank byte is that of a blank character. -/
theorem isBlankByte_of_visible {c : Char} (h : isVisible c = true) :
    isBlankByte (UInt8.ofNat c.toNat) = isBlank c := by
  simp only [isVisible, Bool.or_eq_true, Bool.and_eq_true, decide_eq_true_eq, beq_iff_eq] at h
  have hnat : (UInt8.ofNat c.toNat).toNat = c.toNat := by
    rw [UInt8.toNat_ofNat', Nat.mod_eq_of_lt (by omega)]
  rw [Bool.eq_iff_iff]
  simp only [isBlankByte, isBlank, Bool.or_eq_true, beq_iff_eq, ← UInt8.toNat_inj, hnat]
  exact Iff.rfl

/-- What a value is read as is a plain string. -/
theorem plain_of_toStr {v : Value} {s t : String} (hv : v.bytes = asBytes s)
    (h : v.toStr = some t) : t = s ∧ Plain s := by
  have hvisible : ∀ c ∈ s.toList, isVisible c = true := by
    intro c hc
    cases hc' : isVisible c with
    | true => rfl
    | false =>
      rw [toStr_of_not_visible hv hc hc'] at h
      cases h
  have hmap := asBytes_of_visible hvisible
  refine ⟨Option.some.inj (h.symm.trans (toStr_of_visible hv hvisible)), hvisible, fun c hc => ?_⟩
  have hmem : c ∈ s.toList := by
    rcases hc with hc | hc
    · exact List.mem_of_head? hc
    · exact List.mem_of_getLast? hc
  rw [← isBlankByte_of_visible (hvisible c hmem)]
  apply v.trimmed
  rw [hv, hmap, List.head?_map, List.getLast?_map]
  exact hc.imp (fun hc => by rw [hc]; rfl) fun hc => by rw [hc]; rfl

/-- The plain strings are those that a value can carry and be read as. -/
theorem exists_value_iff {s : String} :
    (∃ v : Value, v.bytes = asBytes s ∧ v.toStr = some s) ↔ Plain s := by
  constructor
  · rintro ⟨v, hv, hread⟩
    exact (plain_of_toStr hv hread).2
  · intro h
    have hmap := asBytes_of_visible h.visible
    refine ⟨⟨asBytes s, fun b hb => ?_, fun b hb => ?_⟩, rfl, toStr_of_visible rfl h.visible⟩
    · rw [hmap] at hb
      obtain ⟨c, hc, rfl⟩ := List.mem_map.mp hb
      exact isFieldByte_of_isVisibleAscii (visible_byte (h.visible c hc)).1
    · rw [hmap, List.head?_map, List.getLast?_map] at hb
      rcases hb with hb | hb
      · obtain ⟨c, hc, rfl⟩ := Option.map_eq_some_iff.mp hb
        rw [isBlankByte_of_visible (h.visible c (List.mem_of_head? hc))]
        exact h.trimmed c (.inl hc)
      · obtain ⟨c, hc, rfl⟩ := Option.map_eq_some_iff.mp hb
        rw [isBlankByte_of_visible (h.visible c (List.mem_of_getLast? hc))]
        exact h.trimmed c (.inr hc)

/-- A plain string is carried by a value, and read back. -/
theorem toStr_ofText? {s : String} (h : Plain s) :
    ∃ v, Value.ofText? s = some v ∧ v.toStr = some s := by
  obtain ⟨v, hv, hread⟩ := exists_value_iff.mpr h
  have hends : ∀ b, (asBytes s).head? = some b ∨ (asBytes s).getLast? = some b →
      isBlankByte b = false := hv ▸ v.trimmed
  have hvalid : (asBytes s).all isFieldByte = true := List.all_eq_true.mpr (hv ▸ v.valid)
  have hhead : (asBytes s).head?.any isBlankByte = false :=
    (Option.any_eq_false _ _).mpr fun b hb => hends b (.inl hb)
  have hlast : (asBytes s).getLast?.any isBlankByte = false :=
    (Option.any_eq_false _ _).mpr fun b hb => hends b (.inr hb)
  refine ⟨.ofText s hvalid hhead hlast, dif_pos ⟨hvalid, hhead, hlast⟩, ?_⟩
  exact toStr_of_visible rfl h.visible

/-- Plain strings that are not empty make a plain string when they are joined. -/
theorem plain_intercalate {sep : String} (hsep : ∀ c ∈ sep.toList, isVisible c = true)
    {l : List String} (h : ∀ s ∈ l, s ≠ "" ∧ Plain s) : Plain (sep.intercalate l) := by
  induction l with
  | nil => exact ⟨nofun, nofun⟩
  | cons s l ih =>
    obtain ⟨hne, hs⟩ := h s List.mem_cons_self
    cases l with
    | nil => rwa [String.intercalate_singleton]
    | cons t l =>
      have hrest := ih fun u hu => h u (List.mem_cons_of_mem _ hu)
      have hfirst : s.toList ≠ [] := fun hnil => hne (String.toList_inj.mp hnil)
      have hsecond : t.toList ≠ [] :=
        fun hnil => (h t (List.mem_cons_of_mem _ List.mem_cons_self)).1 (String.toList_inj.mp hnil)
      have hlast : (sep.intercalate (t :: l)).toList ≠ [] := by
        intro hnil
        cases l with
        | nil => exact hsecond (by rwa [String.intercalate_singleton] at hnil)
        | cons u l =>
          rw [String.intercalate_cons_cons, String.toList_append, String.toList_append] at hnil
          simp only [List.append_eq_nil_iff] at hnil
          exact hsecond hnil.1.1
      rw [String.intercalate_cons_cons]
      refine ⟨fun c hc => ?_, fun c hc => ?_⟩
      · simp only [String.toList_append, List.mem_append] at hc
        rcases hc with (hc | hc) | hc
        · exact hs.visible c hc
        · exact hsep c hc
        · exact hrest.visible c hc
      · rw [String.toList_append, String.toList_append, List.append_assoc,
          List.head?_append_of_ne_nil _ hfirst, ← List.append_assoc,
          List.getLast?_append_of_ne_nil _ hlast] at hc
        rcases hc with hc | hc
        · exact hs.trimmed c (.inl hc)
        · exact hrest.trimmed c (.inr hc)

/-! ## Values of messages -/

/-- A header value of a message, which may begin and end with blanks. -/
structure Field where
  bytes : List UInt8
  valid : ∀ b ∈ bytes, isFieldByte b = true
  deriving DecidableEq

/-- The value as text, if all of its bytes can be read as text. -/
def Field.toStr (v : Field) : Option String :=
  if v.bytes.all isVisibleAscii then
    some (String.ofList (v.bytes.map fun b => Char.ofNat b.toNat))
  else none

/-- The value with the bytes of a text, if they all can be read as text. -/
def Field.ofText? (s : String) : Option Field :=
  if h : (asBytes s).all isVisibleAscii = true then
    some ⟨asBytes s, fun b hb => isFieldByte_of_isVisibleAscii (List.all_eq_true.mp h b hb)⟩
  else none

/-- What a value is read as consists of visible characters. -/
theorem isVisible_of_toStr {v : Field} {s : String} (h : v.toStr = some s) :
    ∀ c ∈ s.toList, isVisible c = true := by
  unfold Field.toStr at h
  split_ifs at h with hall
  obtain rfl := Option.some.inj h
  intro c hc
  rw [String.toList_ofList] at hc
  obtain ⟨b, hb, rfl⟩ := List.mem_map.mp hc
  have hvis := List.all_eq_true.mp hall b hb
  have hnat : (Char.ofNat b.toNat).toNat = b.toNat := by
    have hlt := b.toNat_lt
    unfold Char.ofNat
    rw [dif_pos (.inl (by omega))]
    rfl
  simp only [isVisibleAscii, isVisible, Bool.or_eq_true, Bool.and_eq_true, decide_eq_true_eq,
    beq_iff_eq, UInt8.le_iff_toNat_le, UInt8.lt_iff_toNat_lt, ← UInt8.toNat_inj, hnat] at hvis ⊢
  simpa using hvis

end Header
