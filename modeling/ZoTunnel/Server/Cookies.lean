import ZoTunnel.Server.Dashboard

/-!
# The session cookie among others

`extract_session_id` on the cookie headers that a browser sends: a list of pairs, joined with `;`
and with blanks around them. The first pair with the cookie's name and some value is found, unless a
pair before it has a longer name that begins with the cookie's, since the `?` on the second
`strip_prefix` ends the search there.
-/

namespace ZoTunnel

/-- A pair of a cookie header with the blanks around it. The name ends at the first `=`, and neither
the name nor the value contains the separator of the pairs. -/
structure CookiePair where
  before : String
  name : String
  value : String
  after : String
  before_blank : Text.isBlank before = true
  after_blank : Text.isBlank after = true
  name_clean : ∀ c ∈ name.toList, c ≠ ';' ∧ c ≠ '='
  value_clean : ';' ∉ value.toList
  name_trimmed : name.toList.head?.any Text.isWhitespace = false
  value_trimmed : value.toList.getLast?.any Text.isWhitespace = false

namespace CookiePair

/-- The text of the pair. -/
def text (p : CookiePair) : String := p.before ++ (p.name ++ "=" ++ p.value) ++ p.after

/-- The session's pair: it has the cookie's name, and a value. -/
def isSession (p : CookiePair) : Bool := p.name == cookieName && !p.value.isEmpty

/-- The name begins with the cookie's name and goes on. -/
def isLookalike (p : CookiePair) : Bool :=
  p.name != cookieName && cookieName.toList.isPrefixOf p.name.toList

end CookiePair

/-- A cookie header. -/
def cookieText (pairs : List CookiePair) : String := ";".intercalate (pairs.map CookiePair.text)

/-- The session id of a cookie header: the value of the first of the session's pairs. -/
def sessionCookie (pairs : List CookiePair) : Option String :=
  (pairs.find? CookiePair.isSession).map CookiePair.value

/-- There is a pair of the session, and a pair with a longer name stands before the first. -/
def Hidden (pairs : List CookiePair) : Prop :=
  (∃ p ∈ pairs, p.isSession = true) ∧
    ∃ p ∈ pairs.takeWhile (!·.isSession), p.isLookalike = true

instance (pairs : List CookiePair) : Decidable (Hidden pairs) := by
  unfold Hidden
  infer_instance

namespace CookiePair

/-- A blank is no separator. -/
theorem separator_notMem_of_isBlank {s : String} (h : Text.isBlank s = true) : ';' ∉ s.toList := by
  intro hmem
  have hblank := List.all_eq_true.mp h _ hmem
  exact absurd hblank (by decide)

/-- The separator of the pairs is in no pair. -/
theorem separator_notMem_text (p : CookiePair) : ';' ∉ p.text.toList := by
  have hbefore := separator_notMem_of_isBlank p.before_blank
  have hafter := separator_notMem_of_isBlank p.after_blank
  have hname : ';' ∉ p.name.toList := fun hmem => (p.name_clean _ hmem).1 rfl
  have hvalue := p.value_clean
  unfold text
  simp [hbefore, hafter, hname, hvalue]

/-- Trimming a pair takes the blanks off. -/
theorem trim_text (p : CookiePair) : Text.trim p.text = p.name ++ "=" ++ p.value := by
  have hblank : Text.isWhitespace '=' = false := by decide
  have hhead : (p.name ++ "=" ++ p.value).toList.head?.any Text.isWhitespace = false := by
    have h := p.name_trimmed
    simp only [String.toList_append, List.append_assoc, List.head?_append]
    cases hn : p.name.toList.head? with
    | none => simp [hblank]
    | some c => simpa [hn] using h
  have hlast : (p.name ++ "=" ++ p.value).toList.getLast?.any Text.isWhitespace = false := by
    have h := p.value_trimmed
    simp only [String.toList_append, List.getLast?_append]
    cases hv : p.value.toList.getLast? with
    | none => simp [hblank]
    | some c => simpa [hv] using h
  exact Text.trim_append p.before_blank p.after_blank hhead hlast

/-- What the loop of `extract_session_id` does with a pair. -/
theorem sessionIdIn_text (p : CookiePair) (parts : List String) :
    sessionIdIn (p.text :: parts) =
      if p.isLookalike then none else if p.isSession then some p.value else sessionIdIn parts := by
  have heq : ("=" ++ p.value).toList.head? = some '=' := by simp
  rw [sessionIdIn, p.trim_text, String.append_assoc]
  by_cases hstart : cookieName.toList <+: p.name.toList
  · -- The name is the cookie's and a rest, which is empty or begins with something else than `=`.
    obtain ⟨rest, hrest⟩ := hstart
    have hname : p.name = cookieName ++ String.ofList rest := by
      rw [← String.toList_inj, String.toList_append, String.toList_ofList, hrest]
    rw [hname, String.append_assoc, Text.stripPrefix_append]
    dsimp only
    cases rest with
    | nil =>
      have hsame : p.name = cookieName := by simpa using hname
      have hlook : p.isLookalike = false := by simp [isLookalike, hsame]
      have hsession : p.isSession = !p.value.isEmpty := by simp [isSession, hsame]
      rw [String.ofList_nil, String.empty_append, Text.stripPrefix_append, hlook, hsession]
      dsimp only
      cases p.value.isEmpty <;> rfl
    | cons c rest =>
      have hmem : c ∈ p.name.toList := by
        rw [← hrest]
        exact List.mem_append_right _ List.mem_cons_self
      have hhead : (String.ofList (c :: rest) ++ ("=" ++ p.value)).toList.head? ≠
          ("=" : String).toList.head? := by
        have hne := (p.name_clean c hmem).2
        simpa using hne
      have hlook : p.isLookalike = true := by
        unfold isLookalike
        rw [Bool.and_eq_true, bne_iff_ne, List.isPrefixOf_iff_prefix]
        refine ⟨fun hsame => ?_, ⟨_, hrest⟩⟩
        rw [hsame] at hrest
        simpa using congrArg List.length hrest
      rw [Text.stripPrefix_eq_none (by decide) hhead, hlook]
      rfl
  · have hne : p.name ≠ cookieName := fun hsame => hstart (hsame ▸ List.prefix_rfl)
    have hlook : p.isLookalike = false := by
      unfold isLookalike
      rw [Bool.and_eq_false_iff]
      exact .inr (Bool.eq_false_iff.mpr fun h => hstart (List.isPrefixOf_iff_prefix.mp h))
    have hsession : p.isSession = false := by simp [isSession, hne]
    rw [Text.stripPrefix_append_eq_none (by decide) heq hstart, hlook, hsession]
    rfl

end CookiePair

/-- The loop finds the session's pair exactly if no pair with a longer name is in front of it. -/
theorem sessionIdIn_eq_iff (pairs : List CookiePair) :
    sessionIdIn (pairs.map CookiePair.text) = sessionCookie pairs ↔ ¬ Hidden pairs := by
  unfold sessionCookie Hidden
  induction pairs with
  | nil => simp [sessionIdIn]
  | cons p pairs ih =>
    rw [List.map_cons, p.sessionIdIn_text]
    cases hsession : p.isSession with
    | true =>
      have hname : p.name = cookieName := by
        unfold CookiePair.isSession at hsession
        simp only [Bool.and_eq_true, beq_iff_eq] at hsession
        exact hsession.1
      have hlook : p.isLookalike = false := by simp [CookiePair.isLookalike, hname]
      simp [hsession, hlook]
    | false =>
      cases hlook : p.isLookalike with
      | true =>
        have hnone : none = (pairs.find? CookiePair.isSession).map CookiePair.value ↔
            ∀ q ∈ pairs, ¬ q.isSession = true := by
          rw [eq_comm, Option.map_eq_none_iff, List.find?_eq_none]
        simp [hsession, hlook, hnone]
      | false => simpa [hsession, hlook] using ih

/-- The parts of a cookie header are its pairs. -/
theorem sessionIdIn_split (pairs : List CookiePair) :
    sessionIdIn (Text.split (cookieText pairs) ';') = sessionIdIn (pairs.map CookiePair.text) := by
  cases pairs with
  | nil => decide
  | cons p pairs =>
    have hpieces : ∀ t ∈ (p :: pairs).map CookiePair.text, ';' ∉ t.toList := by
      intro t ht
      obtain ⟨q, _, rfl⟩ := List.mem_map.mp ht
      exact q.separator_notMem_text
    unfold cookieText
    rw [Text.split_intercalate (by decide) (by simp) hpieces]

/-- The session cookie of a header is found exactly if no pair with a longer name that begins with
the cookie's stands before it. -/
theorem session_cookie_found_iff (headers : Headers) (pairs : List CookiePair)
    (htext : headers.cookie.bind Header.Value.toStr = some (cookieText pairs)) :
    extractSessionId headers = sessionCookie pairs ↔ ¬ Hidden pairs := by
  have hextract : extractSessionId headers = sessionIdIn (Text.split (cookieText pairs) ';') := by
    obtain ⟨cookie, hcookie, hread⟩ := Option.bind_eq_some_iff.mp htext
    unfold extractSessionId
    rw [hcookie, Option.bind_eq_bind, Option.bind_some, hread]
    rfl
  rw [hextract, sessionIdIn_split, sessionIdIn_eq_iff]

/-- A pair with nothing behind it, and no blank but those in front. -/
def CookiePair.ofText (before name value : String) (hbefore : Text.isBlank before = true)
    (hname : ∀ c ∈ name.toList, c ≠ ';' ∧ c ≠ '=') (hvalue : ';' ∉ value.toList)
    (hhead : name.toList.head?.any Text.isWhitespace = false)
    (hlast : value.toList.getLast?.any Text.isWhitespace = false) : CookiePair :=
  ⟨before, name, value, "", hbefore, by decide, hname, hvalue, hhead, hlast⟩

/-- A name without separators. -/
theorem clean_of_notMem {name : String} (hpairs : ';' ∉ name.toList) (heq : '=' ∉ name.toList) :
    ∀ c ∈ name.toList, c ≠ ';' ∧ c ≠ '=' :=
  fun _ hc => ⟨ne_of_mem_of_not_mem hc hpairs, ne_of_mem_of_not_mem hc heq⟩

/-- The session of a browser with the cookie of another service in front of it. -/
def cookiesBehind (name : String) (hname : ∀ c ∈ name.toList, c ≠ ';' ∧ c ≠ '=')
    (hhead : name.toList.head?.any Text.isWhitespace = false) : List CookiePair :=
  [.ofText "" name "1" (by decide) hname (by decide) hhead (by decide),
    .ofText " " cookieName "5f0c" (by decide) (clean_of_notMem (by decide) (by decide)) (by decide)
      (by decide) (by decide)]

/-- The session cookie is found behind a cookie `theme`. -/
theorem session_cookie_found_theme :
    extractSessionId ⟨none, some (.ofText "theme=1; zo-session=5f0c" (by decide) (by decide)
        (by decide)), none⟩ = some "5f0c" :=
  (session_cookie_found_iff _ (cookiesBehind "theme" (clean_of_notMem (by decide) (by decide))
    (by decide)) (by decide)).mpr (by decide)

/-- The session cookie is not found behind a cookie `zo-session-v2`. -/
theorem session_cookie_hidden :
    ¬ ∀ (headers : Headers) (pairs : List CookiePair),
      headers.cookie.bind Header.Value.toStr = some (cookieText pairs) →
        extractSessionId headers = sessionCookie pairs := by
  intro h
  have hfound := h
    ⟨none, some (.ofText "zo-session-v2=1; zo-session=5f0c" (by decide) (by decide) (by decide)),
      none⟩
    (cookiesBehind "zo-session-v2" (clean_of_notMem (by decide) (by decide)) (by decide))
    (by decide)
  revert hfound
  decide

end ZoTunnel
