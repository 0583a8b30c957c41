import ZoTunnel.Lib.SemVer

/-!
# Which release is newer

`is_newer` of `zo-tunnel-protocol/src/self_update.rs`, which decides whether a release is installed.
It splits a version at the dots, drops what is not a number, and compares the first three numbers
that are left. A version with a pre-release or a build part has no number at its third place, and an
identifier further back comes in for it (`third`). `newer_iff` says when the answer is the
precedence of semantic versions all the same.
-/

namespace ZoTunnel

open SemVer

/-- The first three numbers of a version. -/
def parseVersion (s : String) : UInt32 × UInt32 × UInt32 :=
  let s := (Text.stripPrefix s "v").getD s
  let parts := (Text.split s '.').filterMap Text.parseU32
  (parts[0]?.getD 0, parts[1]?.getD 0, parts[2]?.getD 0)

/-- Compare two semver strings, stripping leading 'v'. Returns true if `latest` is newer than
`current`: tuples are compared by their first components that differ. -/
def isNewer (current latest : String) : Bool :=
  let (major, minor, patch) := parseVersion latest
  let (major', minor', patch') := parseVersion current
  major' < major || major' == major && (minor' < minor || minor' == minor && patch' < patch)

/-- The text of a version, with a leading 'v' or without. -/
def versionText (v : Version) (tag : Bool) : String := if tag then "v" ++ v.render else v.render

/-- The identifiers of a version that have a dot or the end of the text on either side. -/
def looseIdents (v : Version) : List String :=
  match v.build with
  | [] => v.pre.tail.map PreIdent.text
  | _ :: bs => v.pre.tail.dropLast.map PreIdent.text ++ bs.map BuildIdent.text

/-- The number that stands at the third place: the patch number of a plain version, and else the
first loose identifier that is a number, if there is one. -/
def third (v : Version) : UInt32 :=
  match v.pre, v.build with
  | [], [] => v.patch
  | _, _ => ((looseIdents v).filterMap Text.parseU32).head?.getD 0

/-- The answer is that of the precedence. -/
def NewerIsPrecedence (current latest : Version) (tag tag' : Bool) : Prop :=
  isNewer (versionText current tag) (versionText latest tag') = true ↔ current.cmp latest = .lt

/-- A clean piece with a mark after it is no number. -/
theorem parseU32_marked {s t mark : String} {m : Char} (hs : Clean s) (hmark : mark.toList = [m])
    (hdigit : m.isDigit = false) : Text.parseU32 (s ++ mark ++ t) = none := by
  refine Text.parseU32_eq_none (c := m) ?_ hdigit ?_
  · rw [String.toList_append, String.toList_append, hmark]
    simp
  · have hne : s.toList ≠ [] := by simpa using hs.nonempty
    obtain ⟨c, cs, hcs⟩ := List.exists_cons_of_ne_nil hne
    have hchar := hs.chars c (by rw [hcs]; exact List.mem_cons_self)
    rw [String.toList_append, String.toList_append, hcs]
    rintro hplus
    obtain rfl : c = '+' := by simpa using hplus
    revert hchar
    decide

/-- Of glued pieces, those that are glued together are no number. -/
theorem filterMap_glue {as : List String} (has : ∀ a ∈ as, Clean a) (hne : as ≠ []) (b : String)
    (bs : List String) :
    (glue "+" as (b :: bs)).filterMap Text.parseU32 =
      as.dropLast.filterMap Text.parseU32 ++ bs.filterMap Text.parseU32 := by
  induction as with
  | nil => exact absurd rfl hne
  | cons a as ih =>
    have ha : Clean a := has a List.mem_cons_self
    cases as with
    | nil =>
      have hnone : Text.parseU32 (a ++ "+" ++ b) = none := parseU32_marked ha rfl rfl
      rw [glue, List.filterMap_cons_none hnone]
      rfl
    | cons a' as =>
      have hrest := ih (fun x hx => has x (List.mem_cons_of_mem _ hx)) (by simp)
      rw [glue, List.dropLast_cons_cons, List.filterMap_cons, hrest, List.filterMap_cons]
      cases Text.parseU32 a <;> rfl

/-- The numbers between the dots of a version. -/
theorem filterMap_pieces (v : Version) :
    ∃ rest, v.pieces.filterMap Text.parseU32 = v.major :: v.minor :: rest ∧
      rest.head?.getD 0 = third v := by
  have hfront : ∀ pieces : List String,
      (toString v.major.toNat :: toString v.minor.toNat :: pieces).filterMap Text.parseU32 =
        v.major :: v.minor :: pieces.filterMap Text.parseU32 := by
    intro pieces
    rw [List.filterMap_cons_some (Text.parseU32_repr v.major),
      List.filterMap_cons_some (Text.parseU32_repr v.minor)]
  let prepend : List UInt32 → List UInt32 := fun rest => v.major :: v.minor :: rest
  unfold Version.pieces third looseIdents
  rcases v.pre with _ | ⟨i, is⟩ <;> rcases v.build with _ | ⟨b, bs⟩
  · -- A plain version.
    have hpatch := List.filterMap_cons_some (l := []) (Text.parseU32_repr v.patch)
    exact ⟨[v.patch], (hfront _).trans (congrArg prepend hpatch), rfl⟩
  · -- The patch number is joined with the first identifier of the build part.
    refine ⟨(bs.map BuildIdent.text).filterMap Text.parseU32, ?_, rfl⟩
    have hclean : ∀ a ∈ [toString v.patch.toNat], Clean a := fun a ha =>
      List.mem_singleton.mp ha ▸ Clean.number _
    have hglue := filterMap_glue hclean (by simp) b.text (bs.map BuildIdent.text)
    exact (hfront _).trans (congrArg prepend hglue)
  · -- It is joined with the first identifier of the pre-release part.
    have hjoined : Text.parseU32 (toString v.patch.toNat ++ "-" ++ i.text) = none :=
      parseU32_marked (Clean.number _) rfl rfl
    refine ⟨(is.map PreIdent.text).filterMap Text.parseU32, ?_, rfl⟩
    exact (hfront _).trans (congrArg prepend (List.filterMap_cons_none hjoined))
  · -- It is, and the last identifier of that part with the first of the build part.
    have hjoined : Text.parseU32 (toString v.patch.toNat ++ "-" ++ i.text) = none :=
      parseU32_marked (Clean.number _) rfl rfl
    have hclean : ∀ a ∈ (toString v.patch.toNat ++ "-" ++ i.text) :: is.map PreIdent.text,
        Clean a := by
      intro a ha
      rcases List.mem_cons.mp ha with rfl | ha
      · exact (Clean.number _).join (Clean.preIdent i)
      · obtain ⟨j, -, rfl⟩ := List.mem_map.mp ha
        exact Clean.preIdent j
    have hglue := filterMap_glue hclean (by simp) b.text (bs.map BuildIdent.text)
    have hdrop : ((toString v.patch.toNat ++ "-" ++ i.text) ::
        is.map PreIdent.text).dropLast.filterMap Text.parseU32 =
          (is.dropLast.map PreIdent.text).filterMap Text.parseU32 := by
      cases is with
      | nil => rfl
      | cons j js =>
        rw [List.map_cons, List.dropLast_cons_cons, List.filterMap_cons_none hjoined,
          ← List.map_cons, List.map_dropLast]
    refine ⟨(is.dropLast.map PreIdent.text ++ bs.map BuildIdent.text).filterMap Text.parseU32,
      ?_, rfl⟩
    rw [List.filterMap_append, ← hdrop, ← hglue]
    exact hfront _

/-- The first three numbers of a version's text. -/
theorem parseVersion_versionText (v : Version) (tag : Bool) :
    parseVersion (versionText v tag) = (v.major, v.minor, third v) := by
  obtain ⟨rest, hpieces, hthird⟩ := filterMap_pieces v
  have hstrip : (Text.stripPrefix (versionText v tag) "v").getD (versionText v tag) = v.render := by
    cases tag with
    | true =>
      have happend := Text.stripPrefix_append "v" v.render
      rw [versionText, if_pos rfl, happend, Option.getD_some]
    | false =>
      obtain ⟨c, hhead, hdigit⟩ := v.head?_render
      have hnone : Text.stripPrefix v.render "v" = none := by
        refine Text.stripPrefix_eq_none (by decide) ?_
        rw [hhead]
        intro hv
        obtain rfl : c = 'v' := Option.some.inj hv
        revert hdigit
        decide
      rw [versionText, if_neg Bool.false_ne_true, hnone, Option.getD_none]
  have hsplit : Text.split v.render '.' = v.pieces := by
    rw [v.render_eq_intercalate]
    exact Text.split_intercalate rfl v.pieces_ne_nil v.notMem_pieces
  unfold parseVersion
  dsimp only
  rw [hstrip, hsplit, hpieces, ← hthird]
  simp [List.head?_eq_getElem?]

/-- A release is newer by the first of the three numbers that differs. -/
theorem isNewer_versionText (current latest : Version) (tag tag' : Bool) :
    isNewer (versionText current tag) (versionText latest tag') = true ↔
      current.major < latest.major ∨ current.major = latest.major ∧
        (current.minor < latest.minor ∨ current.minor = latest.minor ∧
          third current < third latest) := by
  unfold isNewer
  rw [parseVersion_versionText, parseVersion_versionText]
  simp only [Bool.or_eq_true, Bool.and_eq_true, decide_eq_true_eq, beq_iff_eq]

/-- The answer is the precedence exactly if the major or the minor numbers differ, or what stands at
the third places compares as the patch numbers and the pre-release parts do. -/
theorem newer_iff (current latest : Version) (tag tag' : Bool) :
    NewerIsPrecedence current latest tag tag' ↔
      (current.major = latest.major → current.minor = latest.minor →
        (third current < third latest ↔ current.PatchPrecedes latest)) := by
  unfold NewerIsPrecedence
  rw [isNewer_versionText, Version.cmp_eq_lt_iff]
  by_cases hmajor : current.major = latest.major
  · by_cases hminor : current.minor = latest.minor
    · have hnot : ¬ latest.major < latest.major ∧ ¬ latest.minor < latest.minor :=
        ⟨UInt32.lt_irrefl _, UInt32.lt_irrefl _⟩
      simp only [hmajor, hminor, hnot.1, hnot.2, true_and, false_or, forall_const]
    · simp only [hminor, false_and, or_false, false_implies, implies_true]
  · simp only [hmajor, false_and, or_false, false_implies]

/-- For plain versions the answer is the precedence. -/
theorem newer_of_plain {current latest : Version} (h : current.IsPlain) (h' : latest.IsPlain)
    (tag tag' : Bool) : NewerIsPrecedence current latest tag tag' := by
  have hthird : ∀ v : Version, v.IsPlain → third v = v.patch := by
    rintro v ⟨hpre, hbuild⟩
    unfold third
    rw [hpre, hbuild]
  unfold NewerIsPrecedence
  rw [isNewer_versionText, Version.cmp_eq_lt_iff, h.patchPrecedes_iff h', hthird current h,
    hthird latest h']

/-- The version 1.0.0. -/
def release : Version := ⟨1, 0, 0, [], []⟩

/-- The version 1.0.0-rc.1, which comes before it. -/
def candidate : Version :=
  ⟨1, 0, 0, [.alphanumeric "rc" (by decide) (by decide), .numeric 1], []⟩

/-- The release candidate counts as newer than the release. -/
theorem candidate_counts_as_newer : ¬ NewerIsPrecedence release candidate false false := by
  have hnewer : isNewer "1.0.0" "1.0.0-rc.1" = true := by decide +kernel
  have hcurrent : versionText release false = "1.0.0" := by decide +kernel
  have hlatest : versionText candidate false = "1.0.0-rc.1" := by decide +kernel
  have hcmp : release.cmp candidate ≠ .lt := by decide
  unfold NewerIsPrecedence
  rw [hcurrent, hlatest]
  exact fun h => hcmp (h.mp hnewer)

end ZoTunnel
