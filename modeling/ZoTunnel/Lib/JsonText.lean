import ZoTunnel.Lib.Json

/-!
# JSON texts as they are written

`stringify` writes a value as `JSON.stringify` of ECMAScript does. Every string is read back
(`readString_quote`), and so is every object whose fields are strings and truth values
(`parse_stringify`).
-/

namespace Json

/-! ## The writer -/

/-- A character of a string, as it is written. -/
def quoteChar (c : Char) : List Char :=
  if c = '"' then ['\\', '"']
  else if c = '\\' then ['\\', '\\']
  else if c.toNat = 8 then ['\\', 'b']
  else if c.toNat = 12 then ['\\', 'f']
  else if c = '\n' then ['\\', 'n']
  else if c = '\r' then ['\\', 'r']
  else if c = '\t' then ['\\', 't']
  else if c.toNat < 0x20 then
    ['\\', 'u', '0', '0', Nat.digitChar (c.toNat / 16), Nat.digitChar (c.toNat % 16)]
  else [c]

/-- A string between its quotes. -/
def quote (s : String) : List Char := '"' :: (s.toList.flatMap quoteChar ++ ['"'])

mutual

/-- The text of a value. -/
def write : Json → List Char
  | .null => "null".toList
  | .bool true => "true".toList
  | .bool false => "false".toList
  | .num literal => literal.toList
  | .str s => quote s
  | .arr items => '[' :: (writeItems items ++ [']'])
  | .obj members => '\x7b' :: (writeMembers members ++ ['\x7d'])

/-- The items of an array. -/
def writeItems : List Json → List Char
  | [] => []
  | [item] => write item
  | item :: next :: rest => write item ++ ',' :: writeItems (next :: rest)

/-- The members of an object. -/
def writeMembers : List (String × Json) → List Char
  | [] => []
  | [(name, value)] => quote name ++ ':' :: write value
  | (name, value) :: next :: rest =>
    quote name ++ ':' :: (write value ++ ',' :: writeMembers (next :: rest))

end

/-- `JSON.stringify`. -/
def stringify (json : Json) : String := String.ofList (write json)

/-! ## Strings -/

/-- A digit of an escape is read back. -/
theorem hexDigit?_digitChar {n : ℕ} (h : n < 16) : Text.hexDigit? (Nat.digitChar n) = some n := by
  have hall : ∀ n : Fin 16, Text.hexDigit? (Nat.digitChar n) = some n.val := by decide
  exact hall ⟨n, h⟩

/-- A control character is read from its escape. -/
theorem unicode?_control {c : Char} (h : c.toNat < 0x20) (rest : List Char) :
    unicode? ('0' :: '0' :: Nat.digitChar (c.toNat / 16) :: Nat.digitChar (c.toNat % 16) :: rest) =
      some (c, rest) := by
  have hzero : Text.hexDigit? '0' = some 0 := by decide
  have hhigh := hexDigit?_digitChar (n := c.toNat / 16) (by omega)
  have hlow := hexDigit?_digitChar (n := c.toNat % 16) (by omega)
  have hsum : ((0 * 16 + 0) * 16 + c.toNat / 16) * 16 + c.toNat % 16 = c.toNat := by omega
  have hunit : codeUnit? '0' '0' (Nat.digitChar (c.toNat / 16)) (Nat.digitChar (c.toNat % 16)) =
      some c.toNat := by
    unfold codeUnit?
    rw [hzero, hhigh, hlow]
    exact congrArg some hsum
  unfold unicode?
  dsimp only
  rw [hunit, Option.bind_eq_bind, Option.bind_some, if_neg (by omega), if_neg (by omega),
    Char.ofNat_toNat]

/-- A character is read back. -/
theorem readChar_quoteChar (c : Char) (rest : List Char) :
    readChar (quoteChar c ++ rest) = some (c, rest) := by
  have hletter : ∀ d e : Char, d ≠ 'u' → escaped? d = some e →
      readChar (['\\', d] ++ rest) = some (e, rest) := by
    intro d e hd he
    show (if d = 'u' then unicode? rest else (escaped? d).map (·, rest)) = _
    rw [if_neg hd, he]
    rfl
  unfold quoteChar
  split_ifs with hquote hback h8 h12 hn hr ht hcontrol
  · rw [hletter _ '"' (by decide) (by decide), hquote]
  · rw [hletter _ '\\' (by decide) (by decide), hback]
  · rw [hletter _ (.ofNat 8) (by decide) (by decide), ← h8, Char.ofNat_toNat]
  · rw [hletter _ (.ofNat 12) (by decide) (by decide), ← h12, Char.ofNat_toNat]
  · rw [hletter _ '\n' (by decide) (by decide), hn]
  · rw [hletter _ '\r' (by decide) (by decide), hr]
  · rw [hletter _ '\t' (by decide) (by decide), ht]
  · exact unicode?_control hcontrol rest
  · refine readChar_of_isPlain ?_ rest
    unfold isPlain
    rw [Bool.and_eq_true, Bool.and_eq_true, decide_eq_true_eq, decide_eq_true_eq,
      decide_eq_true_eq]
    exact ⟨⟨hquote, hback⟩, by omega⟩

/-- A character is not written as a quote. -/
theorem exists_quoteChar_eq (c : Char) : ∃ d l, quoteChar c = d :: l ∧ d ≠ '"' := by
  unfold quoteChar
  split_ifs with hquote
  all_goals first
    | exact ⟨_, _, rfl, by decide⟩
    | exact ⟨_, _, rfl, hquote⟩

/-- The characters of a string are read up to its closing quote. -/
theorem readChars_quote (cs rest : List Char) :
    ∀ {fuel}, cs.length < fuel →
      readChars fuel (cs.flatMap quoteChar ++ '"' :: rest) = some (cs, rest) := by
  induction cs with
  | nil =>
    intro fuel hfuel
    obtain ⟨fuel, rfl⟩ : ∃ n, fuel = n + 1 := ⟨fuel - 1, by omega⟩
    rfl
  | cons c cs ih =>
    intro fuel hfuel
    rw [List.length_cons] at hfuel
    obtain ⟨fuel, rfl⟩ : ∃ n, fuel = n + 1 := ⟨fuel - 1, by omega⟩
    have hread := readChar_quoteChar c (cs.flatMap quoteChar ++ '"' :: rest)
    have hrest := @ih fuel (by omega)
    obtain ⟨d, l, hd, hne⟩ := exists_quoteChar_eq c
    rw [hd] at hread
    rw [List.flatMap_cons, List.append_assoc, hd, List.cons_append, readChars]
    · rw [← List.cons_append, hread, Option.bind_eq_bind, Option.bind_some]
      dsimp only
      rw [hrest]
      rfl
    · intro tail htail
      exact hne (List.cons.inj htail).1

/-- A string takes one character of the text for each of its own, at least. -/
theorem length_le_flatMap_quoteChar (cs : List Char) :
    cs.length ≤ (cs.flatMap quoteChar).length := by
  induction cs with
  | nil => exact Nat.le_refl 0
  | cons c cs ih =>
    obtain ⟨d, l, hd, -⟩ := exists_quoteChar_eq c
    rw [List.flatMap_cons, List.length_append, hd, List.length_cons, List.length_cons]
    omega

/-- A string is read back. -/
theorem readString_quote (s : String) (rest : List Char) :
    readString (s.toList.flatMap quoteChar ++ '"' :: rest) = some (s.toList, rest) := by
  have hlen := length_le_flatMap_quoteChar s.toList
  refine readChars_quote _ rest ?_
  rw [List.length_append, List.length_cons]
  omega

/-- A string of plain characters is written as it stands. -/
theorem quote_of_isPlain {s : String} (h : ∀ c ∈ s.toList, isPlain c = true) :
    quote s = '"' :: (s.toList ++ ['"']) := by
  have hlist : ∀ cs : List Char, (∀ c ∈ cs, isPlain c = true) → cs.flatMap quoteChar = cs := by
    intro cs hcs
    induction cs with
    | nil => rfl
    | cons c cs ih =>
      have hc := hcs c List.mem_cons_self
      unfold isPlain at hc
      rw [Bool.and_eq_true, Bool.and_eq_true, decide_eq_true_eq, decide_eq_true_eq,
        decide_eq_true_eq] at hc
      obtain ⟨⟨hquote, hback⟩, hlow⟩ := hc
      have hne : ∀ d : Char, d.toNat < 0x20 → c ≠ d := by
        rintro d hd rfl
        omega
      have hchar : quoteChar c = [c] := by
        unfold quoteChar
        rw [if_neg hquote, if_neg hback, if_neg (by omega), if_neg (by omega),
          if_neg (hne _ (by decide)), if_neg (hne _ (by decide)), if_neg (hne _ (by decide)),
          if_neg (by omega)]
      rw [List.flatMap_cons, hchar, ih fun d hd => hcs d (List.mem_cons_of_mem _ hd),
        List.singleton_append]
  unfold quote
  rw [hlist _ h]

/-! ## Objects -/

/-- A string or a truth value. -/
inductive Flat : Json → Prop where
  | bool (b : Bool) : Flat (.bool b)
  | str (s : String) : Flat (.str s)

/-- Such a value is read back. -/
theorem Flat.readValue_write {v : Json} (h : Flat v) (fuel : ℕ) (rest : List Char) :
    readValue (fuel + 1) (write v ++ rest) = some (v, rest) := by
  cases h with
  | bool b => cases b <;> rfl
  | str s =>
    have htext : write (.str s) ++ rest = '"' :: (s.toList.flatMap quoteChar ++ '"' :: rest) := by
      unfold write quote
      rw [List.cons_append, List.append_assoc, List.singleton_append]
    rw [htext, readValue, readString_quote, Option.map_some]
    dsimp only
    rw [String.ofList_toList]

/-- No blank is in front of it. -/
theorem Flat.exists_write_eq {v : Json} (h : Flat v) :
    ∃ c l, write v = c :: l ∧ isBlank c = false := by
  cases h with
  | bool b => cases b <;> exact ⟨_, _, rfl, by decide⟩
  | str s => exact ⟨_, _, rfl, by decide⟩

/-- The members of an object whose names are plain and whose values are strings and truth values. -/
def FlatMembers (members : List (String × Json)) : Prop :=
  ∀ m ∈ members, (∀ c ∈ m.1.toList, isPlain c = true) ∧ Flat m.2

/-- A member more. -/
theorem FlatMembers.cons {name : String} {v : Json} {members : List (String × Json)}
    (hname : name.toList.all isPlain = true) (hv : Flat v) (h : FlatMembers members) :
    FlatMembers ((name, v) :: members) := by
  intro m hm
  rcases List.mem_cons.mp hm with rfl | hm
  · exact ⟨List.all_eq_true.mp hname, hv⟩
  · exact h m hm

/-- No members. -/
theorem FlatMembers.nil : FlatMembers [] := nofun

/-- Such members are read back. -/
theorem FlatMembers.readMembers_write {members : List (String × Json)} (h : FlatMembers members)
    (hne : members ≠ []) (rest : List Char) :
    ∀ {fuel}, members.length < fuel →
      readMembers fuel (writeMembers members ++ '\x7d' :: rest) = some (members, rest) := by
  induction members with
  | nil => exact absurd rfl hne
  | cons m members ih =>
    intro fuel hfuel
    rw [List.length_cons] at hfuel
    obtain ⟨fuel, rfl⟩ : ∃ n, fuel = n + 2 := ⟨fuel - 2, by omega⟩
    obtain ⟨hname, hflat⟩ := h m List.mem_cons_self
    obtain ⟨name, v⟩ := m
    obtain ⟨c, l, hc, hblank⟩ := hflat.exists_write_eq
    have hvalue : ∀ s, readValue (fuel + 1) (c :: (l ++ s)) = some (v, s) := by
      intro s
      rw [← List.cons_append, ← hc]
      exact hflat.readValue_write fuel s
    cases members with
    | nil =>
      have htext : writeMembers [(name, v)] ++ '\x7d' :: rest =
          '"' :: (name.toList ++ '"' :: ':' :: c :: (l ++ '\x7d' :: rest)) := by
        rw [writeMembers, quote_of_isPlain hname, hc]
        simp only [List.cons_append, List.append_assoc, List.nil_append]
      rw [htext, readMembers_last hname hblank (hvalue _), String.ofList_toList]
    | cons next members =>
      have htext : writeMembers ((name, v) :: next :: members) ++ '\x7d' :: rest =
          '"' :: (name.toList ++ '"' :: ':' :: c ::
            (l ++ ',' :: (writeMembers (next :: members) ++ '\x7d' :: rest))) := by
        rw [writeMembers, quote_of_isPlain hname, hc]
        simp only [List.cons_append, List.append_assoc, List.nil_append]
      have hrest := @ih (fun m hm => h m (List.mem_cons_of_mem _ hm)) (by simp) (fuel + 1)
        (by omega)
      rw [htext, readMembers_cons hname hblank (hvalue _) hrest, String.ofList_toList]

/-- A member takes a character at least. -/
theorem length_le_writeMembers (members : List (String × Json)) :
    members.length ≤ (writeMembers members).length := by
  induction members with
  | nil => exact Nat.zero_le _
  | cons m members ih =>
    obtain ⟨name, v⟩ := m
    cases members with
    | nil =>
      rw [writeMembers, List.length_append, List.length_singleton, List.length_cons]
      omega
    | cons next members =>
      rw [writeMembers]
      simp only [List.length_append, List.length_cons] at ih ⊢
      omega

/-- An object whose fields are strings and truth values is read back. -/
theorem parse_stringify {members : List (String × Json)} (h : FlatMembers members)
    (hne : members ≠ []) : parse (stringify (.obj members)) = some (.obj members) := by
  have htext : (stringify (.obj members)).toList =
      '\x7b' :: (writeMembers members ++ ['\x7d']) := by
    unfold stringify
    rw [String.toList_ofList, write]
  obtain ⟨l, hl⟩ : ∃ l, writeMembers members = '"' :: l := by
    obtain ⟨⟨name, v⟩, rest, rfl⟩ := List.exists_cons_of_ne_nil hne
    cases rest with
    | nil => exact ⟨_, rfl⟩
    | cons next rest => exact ⟨_, rfl⟩
  have hlen := length_le_writeMembers members
  have hfuel : members.length < (stringify (.obj members)).toList.length := by
    rw [htext, List.length_cons, List.length_append, List.length_singleton]
    omega
  have hread := h.readMembers_write hne [] hfuel
  refine parse_eq_some htext (by decide) ?_
  rw [hl, List.cons_append] at hread
  have hobj := readValue_obj hread
  rw [← List.cons_append, ← hl, ← htext] at hobj
  exact hobj

end Json
