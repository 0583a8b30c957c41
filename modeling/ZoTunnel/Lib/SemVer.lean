import ZoTunnel.Lib.Text

/-!
# Semantic versions

Versions of the form `major.minor.patch`, with an optional pre-release part after a `-` and an
optional build part after a `+`, both of identifiers with dots between them. `Version.cmp` is their
precedence: by the numbers, then a pre-release before its release, then the identifiers one by one,
and the build part counts for nothing.

`render_eq_intercalate` says what stands between the dots of a version's text: `-` and `+` join two
pieces into one (`glue`).
-/

namespace SemVer

/-! ## Versions -/

/-- The characters of an identifier. -/
def isIdentChar (c : Char) : Bool := c.isAlphanum || c == '-'

/-- An identifier of the build part. -/
structure BuildIdent where
  text : String
  nonempty : text ≠ ""
  chars : text.toList.all isIdentChar = true

/-- An identifier of the pre-release part: a number with no leading zeros, or a text that is not
all digits. -/
inductive PreIdent where
  | numeric (n : ℕ)
  | alphanumeric (text : String) (chars : text.toList.all isIdentChar = true)
      (notDigits : text.toList.all Char.isDigit = false)

/-- The text of a pre-release identifier. -/
def PreIdent.text : PreIdent → String
  | .numeric n => toString n
  | .alphanumeric text _ _ => text

/-- A semantic version. An empty part is an absent one. -/
structure Version where
  major : UInt32
  minor : UInt32
  patch : UInt32
  pre : List PreIdent
  build : List BuildIdent

/-- A part of a version's text, with the character before it. -/
def renderPart (mark : String) : List String → String
  | [] => ""
  | ids => mark ++ ".".intercalate ids

/-- The text of a version. -/
def Version.render (v : Version) : String :=
  ".".intercalate [toString v.major.toNat, toString v.minor.toNat, toString v.patch.toNat] ++
    renderPart "-" (v.pre.map PreIdent.text) ++ renderPart "+" (v.build.map BuildIdent.text)

/-- A version with neither part. -/
def Version.IsPlain (v : Version) : Prop := v.pre = [] ∧ v.build = []

/-! ## Precedence -/

/-- A number comes before a text, numbers in their order, and texts by their characters. -/
def PreIdent.cmp : PreIdent → PreIdent → Ordering
  | .numeric m, .numeric n => compare m n
  | .numeric _, .alphanumeric .. => .lt
  | .alphanumeric .., .numeric _ => .gt
  | .alphanumeric s _ _, .alphanumeric t _ _ => compare s t

/-- Identifiers one by one, and fewer before more. -/
def cmpIdents : List PreIdent → List PreIdent → Ordering
  | [], [] => .eq
  | [], _ :: _ => .lt
  | _ :: _, [] => .gt
  | i :: is, j :: js => (i.cmp j).then (cmpIdents is js)

/-- The pre-release parts: a pre-release comes before the release. -/
def cmpPre : List PreIdent → List PreIdent → Ordering
  | [], [] => .eq
  | [], _ :: _ => .gt
  | _ :: _, [] => .lt
  | is, js => cmpIdents is js

/-- The precedence of versions. -/
def Version.cmp (v w : Version) : Ordering :=
  ((compare v.major.toNat w.major.toNat).then (compare v.minor.toNat w.minor.toNat)).then
    ((compare v.patch.toNat w.patch.toNat).then (cmpPre v.pre w.pre))

/-- The patch number and the pre-release part of a version precede those of another. -/
def Version.PatchPrecedes (v w : Version) : Prop :=
  v.patch < w.patch ∨ v.patch = w.patch ∧ cmpPre v.pre w.pre = .lt

/-- A version precedes another by the first number that differs, or by its pre-release part. -/
theorem Version.cmp_eq_lt_iff (v w : Version) :
    v.cmp w = .lt ↔ v.major < w.major ∨ v.major = w.major ∧
      (v.minor < w.minor ∨ v.minor = w.minor ∧ v.PatchPrecedes w) := by
  unfold Version.cmp PatchPrecedes
  simp only [Ordering.then_eq_lt, Ordering.then_eq_eq, Nat.compare_eq_lt, Nat.compare_eq_eq,
    UInt32.lt_iff_toNat_lt, ← UInt32.toNat_inj]
  tauto

/-- Plain versions differ by their patch numbers only. -/
theorem Version.IsPlain.patchPrecedes_iff {v w : Version} (h : v.IsPlain) (h' : w.IsPlain) :
    v.PatchPrecedes w ↔ v.patch < w.patch := by
  unfold PatchPrecedes
  rw [h.1, h'.1]
  simp [cmpPre]

/-! ## Between the dots -/

/-- Two lists of pieces, with the last of the one and the first of the other joined by a mark. -/
def glue (mark : String) : List String → List String → List String
  | [], bs => bs
  | [a], [] => [a ++ mark]
  | [a], b :: bs => (a ++ mark ++ b) :: bs
  | a :: a' :: as, bs => a :: glue mark (a' :: as) bs

/-- The pieces between the dots of a version's text. -/
def Version.pieces (v : Version) : List String :=
  let numbers := [toString v.major.toNat, toString v.minor.toNat, toString v.patch.toNat]
  let withPre := match v.pre.map PreIdent.text with
    | [] => numbers
    | ids => glue "-" numbers ids
  match v.build.map BuildIdent.text with
  | [] => withPre
  | ids => glue "+" withPre ids

/-- What is glued is not empty. -/
theorem glue_ne_nil (mark : String) {as bs : List String} (ha : as ≠ []) :
    glue mark as bs ≠ [] := by
  obtain ⟨a, as, rfl⟩ := List.exists_cons_of_ne_nil ha
  cases as <;> cases bs <;> simp [glue]

/-- Joined pieces are glued by what stands between the joined texts. -/
theorem intercalate_glue (mark : String) {as bs : List String} (ha : as ≠ []) (hb : bs ≠ []) :
    ".".intercalate as ++ mark ++ ".".intercalate bs = ".".intercalate (glue mark as bs) := by
  induction as with
  | nil => exact absurd rfl ha
  | cons a as ih =>
    cases as with
    | nil =>
      obtain ⟨b, bs, rfl⟩ := List.exists_cons_of_ne_nil hb
      rw [glue, String.intercalate_singleton, String.intercalate_cons_append]
    | cons a' as =>
      have hrest := ih (by simp)
      calc ".".intercalate (a :: a' :: as) ++ mark ++ ".".intercalate bs
        _ = a ++ "." ++ (".".intercalate (a' :: as) ++ mark ++ ".".intercalate bs) := by
          rw [String.intercalate_cons_of_ne_nil (by simp)]
          simp only [String.append_assoc]
        _ = a ++ "." ++ ".".intercalate (glue mark (a' :: as) bs) := by rw [hrest]
        _ = ".".intercalate (glue mark (a :: a' :: as) bs) := by
          rw [glue, String.intercalate_cons_of_ne_nil (glue_ne_nil mark (by simp))]

/-- A part is glued to what stands before it. -/
theorem intercalate_renderPart (mark : String) {as : List String} (ha : as ≠ [])
    (ids : List String) :
    ".".intercalate as ++ renderPart mark ids =
      ".".intercalate (match ids with | [] => as | ids => glue mark as ids) := by
  cases ids with
  | nil => exact String.append_empty
  | cons id ids =>
    have hglue := @intercalate_glue mark as (id :: ids) ha (by simp)
    exact (String.append_assoc ..).symm.trans hglue

/-- The text of a version is its pieces with dots between them. -/
theorem Version.render_eq_intercalate (v : Version) : v.render = ".".intercalate v.pieces := by
  unfold Version.render Version.pieces
  dsimp only
  rw [intercalate_renderPart "-" (by simp), intercalate_renderPart "+"]
  cases v.pre.map PreIdent.text with
  | nil => simp
  | cons id ids => exact glue_ne_nil "-" (by simp)

/-! ## The characters of the pieces -/

/-- A piece of identifier characters. -/
structure Clean (s : String) : Prop where
  nonempty : s ≠ ""
  chars : ∀ c ∈ s.toList, isIdentChar c = true

/-- A number is clean. -/
theorem Clean.number (n : ℕ) : Clean (toString n) := by
  have hdigits : (toString n).toList = Nat.toDigits 10 n := by
    rw [Nat.toString_eq_repr, Nat.toList_repr]
  constructor
  · intro hempty
    rw [hempty] at hdigits
    exact Nat.toDigits_ne_nil hdigits.symm
  · intro c hc
    rw [hdigits] at hc
    have hdigit := Nat.isDigit_of_mem_toDigits (by decide) (by decide) hc
    simp [isIdentChar, Char.isAlphanum, hdigit]

/-- A pre-release identifier is clean. -/
theorem Clean.preIdent (i : PreIdent) : Clean i.text := by
  cases i with
  | numeric n => exact Clean.number n
  | alphanumeric text chars notDigits =>
    constructor
    · intro hempty
      have : text = "" := hempty
      subst this
      simp at notDigits
    · exact List.all_eq_true.mp chars

/-- A build identifier is clean. -/
theorem Clean.buildIdent (b : BuildIdent) : Clean b.text :=
  ⟨b.nonempty, List.all_eq_true.mp b.chars⟩

/-- Pieces that are joined by a hyphen are clean. -/
theorem Clean.join {s t : String} (hs : Clean s) (ht : Clean t) : Clean (s ++ "-" ++ t) := by
  constructor
  · intro hempty
    have hlength := congrArg (fun s => s.toList.length) hempty
    simp at hlength
  · intro c hc
    simp only [String.toList_append, List.mem_append] at hc
    rcases hc with (hc | hc) | hc
    · exact hs.chars c hc
    · obtain rfl : c = '-' := List.mem_singleton.mp hc
      rfl
    · exact ht.chars c hc

/-- A clean piece has no dot. -/
theorem Clean.notMem_dot {s : String} (h : Clean s) : '.' ∉ s.toList := by
  intro hdot
  have hchar := h.chars '.' hdot
  revert hchar
  decide

/-- Glued pieces have no dot when the pieces and the mark have none. -/
theorem notMem_glue {mark : String} (hmark : '.' ∉ mark.toList) {as bs : List String}
    (has : ∀ a ∈ as, '.' ∉ a.toList) (hbs : ∀ b ∈ bs, '.' ∉ b.toList) :
    ∀ p ∈ glue mark as bs, '.' ∉ p.toList := by
  induction as with
  | nil => exact hbs
  | cons a as ih =>
    have ha := has a List.mem_cons_self
    intro p hp
    cases as with
    | nil =>
      cases bs with
      | nil =>
        obtain rfl := List.mem_singleton.mp hp
        simp [ha, hmark]
      | cons b bs =>
        rcases List.mem_cons.mp hp with rfl | hp
        · simp [ha, hmark, hbs b List.mem_cons_self]
        · exact hbs p (List.mem_cons_of_mem _ hp)
    | cons a' as =>
      rcases List.mem_cons.mp hp with rfl | hp
      · exact ha
      · exact ih (fun x hx => has x (List.mem_cons_of_mem _ hx)) p hp

/-- A version has pieces. -/
theorem Version.pieces_ne_nil (v : Version) : v.pieces ≠ [] := by
  unfold Version.pieces
  rcases v.pre with _ | ⟨i, is⟩ <;> rcases v.build with _ | ⟨b, bs⟩
  · simp
  · exact glue_ne_nil "+" (by simp)
  · exact glue_ne_nil "-" (by simp)
  · exact glue_ne_nil "+" (glue_ne_nil "-" (by simp))

/-- The pieces of a version have no dots. -/
theorem Version.notMem_pieces (v : Version) : ∀ p ∈ v.pieces, '.' ∉ p.toList := by
  have hnumbers : ∀ p ∈ [toString v.major.toNat, toString v.minor.toNat, toString v.patch.toNat],
      '.' ∉ p.toList := by
    intro p hp
    simp only [List.mem_cons, List.not_mem_nil, or_false] at hp
    rcases hp with rfl | rfl | rfl <;> exact (Clean.number _).notMem_dot
  have hpre : ∀ p ∈ v.pre.map PreIdent.text, '.' ∉ p.toList := by
    intro p hp
    obtain ⟨i, -, rfl⟩ := List.mem_map.mp hp
    exact (Clean.preIdent i).notMem_dot
  have hbuild : ∀ p ∈ v.build.map BuildIdent.text, '.' ∉ p.toList := by
    intro p hp
    obtain ⟨b, -, rfl⟩ := List.mem_map.mp hp
    exact (Clean.buildIdent b).notMem_dot
  have hhyphen : '.' ∉ "-".toList := by decide
  have hplus : '.' ∉ "+".toList := by decide
  unfold Version.pieces
  revert hpre hbuild
  rcases v.pre.map PreIdent.text with _ | ⟨i, is⟩ <;>
    rcases v.build.map BuildIdent.text with _ | ⟨b, bs⟩ <;> intro hpre hbuild
  · exact hnumbers
  · exact notMem_glue hplus hnumbers hbuild
  · exact notMem_glue hhyphen hnumbers hpre
  · exact notMem_glue hplus (notMem_glue hhyphen hnumbers hpre) hbuild

/-- The text of a version begins with a digit. -/
theorem Version.head?_render (v : Version) :
    ∃ c, v.render.toList.head? = some c ∧ c.isDigit = true := by
  have hdigits : (toString v.major.toNat).toList = Nat.toDigits 10 v.major.toNat := by
    rw [Nat.toString_eq_repr, Nat.toList_repr]
  obtain ⟨c, cs, hcs⟩ := List.exists_cons_of_ne_nil (@Nat.toDigits_ne_nil v.major.toNat 10)
  refine ⟨c, ?_, Nat.isDigit_of_mem_toDigits (by decide) (by decide) (hcs ▸ List.mem_cons_self)⟩
  unfold Version.render
  rw [String.intercalate_cons_cons, String.append_assoc, String.append_assoc, String.append_assoc,
    String.toList_append, hdigits, hcs]
  rfl

end SemVer
