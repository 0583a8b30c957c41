import ZoTunnel.Lib.CookieJar
import ZoTunnel.Server.Cookies

/-!
# The session cookie in a browser

What a browser makes of the `Set-Cookie` headers of the dashboard, and what the dashboard makes of
the `Cookie` headers of a browser: `build_session_cookie` and `build_clear_cookie` write headers
that every browser reads alike, and `extract_session_id` finds the session cookie among those of
other applications, unless one with a longer name of the same beginning stands in front of it.
-/

namespace ZoTunnel

open CookieJar

/-- A character of a uuid. -/
def isUuidChar (c : Char) : Bool :=
  let n := c.toNat
  (48 ≤ n ∧ n ≤ 57) ∨ (97 ≤ n ∧ n ≤ 102) ∨ n = 45

/-- The id of a session: a uuid, as text. -/
structure SessionId where
  text : String
  length_eq : text.length = 36
  valid : ∀ c ∈ text.toList, isUuidChar c = true

namespace SessionId

variable (id : SessionId)

/-- An id is not empty. -/
theorem text_ne : id.text ≠ "" := by
  intro hempty
  have hlength := id.length_eq
  rw [hempty] at hlength
  exact absurd hlength (by decide)

/-- A character of an id may stand in the value of a cookie. -/
theorem isOctet_of_mem {c : Char} (hc : c ∈ id.text.toList) : isOctet c = true := by
  have hvalid := id.valid c hc
  unfold isUuidChar at hvalid
  unfold isOctet
  dsimp only at hvalid ⊢
  rw [decide_eq_true_eq] at hvalid ⊢
  omega

/-- A character of an id is visible, and neither blank nor a separator. -/
theorem char_facts {c : Char} (hc : c ∈ id.text.toList) :
    Header.isVisible c = true ∧ Text.isWhitespace c = false ∧ c ≠ ';' := by
  have hvalid := id.valid c hc
  unfold isUuidChar at hvalid
  dsimp only at hvalid
  rw [decide_eq_true_eq] at hvalid
  refine ⟨?_, ?_, ?_⟩
  · simp only [Header.isVisible, Bool.or_eq_true, Bool.and_eq_true, decide_eq_true_eq, beq_iff_eq]
    omega
  · unfold Text.isWhitespace
    dsimp only
    rw [decide_eq_false_iff_not]
    omega
  · rintro rfl
    have hnat : ';'.toNat = 59 := rfl
    omega

/-- An id has no separator in it. -/
theorem separator_notMem : ';' ∉ id.text.toList := fun hmem => (id.char_facts hmem).2.2 rfl

end SessionId

/-! ## `Set-Cookie` -/

/-- The cookie of the dashboard, with a value and an age. -/
def sessionSetCookie (value : String) (maxAgeSecs : ℕ) (tlsEnabled : Bool) : SetCookie :=
  ⟨cookieName, value, [.path "/", .httpOnly, .sameSite, .maxAge maxAgeSecs] ++
    if tlsEnabled then [.secure] else []⟩

/-- `build_session_cookie` writes the header of it. -/
theorem buildSessionCookie_eq (sessionId : String) (maxAgeSecs : ℕ) (tlsEnabled : Bool) :
    buildSessionCookie sessionId maxAgeSecs tlsEnabled =
      (sessionSetCookie sessionId maxAgeSecs tlsEnabled).text := by
  unfold buildSessionCookie sessionSetCookie SetCookie.text
  cases tlsEnabled <;>
    simp [← String.toList_inj, String.intercalate_cons_cons, Attribute.text, cookieName]

/-- `build_clear_cookie` writes the header of it with no value and the age 0. -/
theorem buildClearCookie_eq : buildClearCookie = (sessionSetCookie "" 0 false).text := by
  decide

/-- The attributes of the cookie, as a browser reads them. -/
theorem sessionSetCookie_attributes (value : String) (maxAgeSecs : ℕ) (tlsEnabled : Bool) :
    let c := sessionSetCookie value maxAgeSecs tlsEnabled
    c.path? = some "/" ∧ c.maxAge = some maxAgeSecs ∧ c.secure = tlsEnabled ∧ c.strict = true := by
  cases tlsEnabled <;> exact ⟨rfl, rfl, rfl, rfl⟩

/-- Every browser takes the cookie as it is, when its age is not beyond the limit. -/
theorem sessionSetCookie_valid {value : String} {maxAgeSecs : ℕ} (tlsEnabled : Bool)
    (hvalue : ∀ c ∈ value.toList, isOctet c = true) (hshort : value.length ≤ 36)
    (hage : maxAgeSecs ≤ ageLimit) : (sessionSetCookie value maxAgeSecs tlsEnabled).Valid where
  name_ne := by
    show cookieName ≠ ""
    decide
  name := by
    have hname : cookieName.toList.all (fun c => isOctet c && c ≠ '=') = true := by decide
    intro c hc
    have hc := List.all_eq_true.mp hname c hc
    rwa [Bool.and_eq_true, decide_eq_true_eq] at hc
  plain := by
    show ¬ "__".toList <+: cookieName.toList
    decide
  value := hvalue
  short := by
    have hname : cookieName.length = 10 := by decide
    show cookieName.length + value.length ≤ 4096
    omega
  attributes := by
    have hpath : (Attribute.path "/").Valid :=
      ⟨by decide, by decide, fun c hc => List.all_eq_true.mp (by decide) c hc⟩
    intro a ha
    rcases List.mem_append.mp ha with ha | ha
    · simp only [List.mem_cons, List.not_mem_nil, or_false] at ha
      rcases ha with rfl | rfl | rfl | rfl
      · exact hpath
      · trivial
      · trivial
      · exact hage
    · split_ifs at ha
      · rw [List.mem_singleton.mp ha]
        trivial
      · cases ha

/-- The cookie of a session, and its end, are such cookies. -/
theorem SessionId.setCookie_valid (id : SessionId) {ttlSecs : ℕ} (tlsEnabled : Bool)
    (hage : ttlSecs ≤ ageLimit) : (sessionSetCookie id.text ttlSecs tlsEnabled).Valid :=
  sessionSetCookie_valid tlsEnabled (fun _ hc => id.isOctet_of_mem hc) id.length_eq.le hage

/-- The end of a session's cookie, too. -/
theorem clearCookie_valid : (sessionSetCookie "" 0 false).Valid :=
  sessionSetCookie_valid false nofun (by decide) (by decide)

/-! ## `Cookie` -/

/-- A cookie of the session. -/
structure OfSession (c : Cookie) : Prop where
  name : c.name = cookieName
  value : ∃ id : SessionId, c.value = id.text

/-- A cookie of another application on the same host. It can be sent in a header, and has another
name than the session cookie. -/
structure OfOther (c : Cookie) : Prop where
  visible : ∀ d ∈ c.text.toList, Header.isVisible d = true
  name_clean : ∀ d ∈ c.name.toList, d ≠ ';' ∧ d ≠ '='
  value_clean : ';' ∉ c.value.toList
  name_trimmed : c.name.toList.head?.any Text.isWhitespace = false
  value_trimmed : c.value.toList.getLast?.any Text.isWhitespace = false
  name_ne : c.name ≠ cookieName

/-- The name of a cookie is longer than the session cookie's, and begins with it. -/
def isLookalike (c : Cookie) : Bool :=
  c.name != cookieName && cookieName.toList.isPrefixOf c.name.toList

/-- A cookie that the browser may have for the dashboard. -/
def Proper (c : Cookie) : Prop := OfSession c ∨ OfOther c

section

variable {c : Cookie}

/-- The facts of a cookie's text. -/
theorem Proper.facts (h : Proper c) :
    (∀ d ∈ c.text.toList, Header.isVisible d = true) ∧
      (∀ d ∈ c.name.toList, d ≠ ';' ∧ d ≠ '=') ∧ ';' ∉ c.value.toList ∧
        c.name.toList.head?.any Text.isWhitespace = false ∧
          c.value.toList.getLast?.any Text.isWhitespace = false := by
  rcases h with h | h
  · obtain ⟨id, hid⟩ := h.value
    unfold Cookie.text
    rw [h.name, hid]
    refine ⟨fun d hd => ?_, clean_of_notMem (by decide) (by decide), id.separator_notMem, by decide,
      ?_⟩
    · rw [String.toList_append, List.mem_append] at hd
      rcases hd with hd | hd
      · have hall : (cookieName ++ "=").toList.all Header.isVisible = true := by decide
        exact List.all_eq_true.mp hall d hd
      · exact (id.char_facts hd).1
    · rw [Option.any_eq_false]
      intro d hd
      exact (id.char_facts (List.mem_of_getLast? hd)).2.1
  · exact ⟨h.visible, h.name_clean, h.value_clean, h.name_trimmed, h.value_trimmed⟩

/-- Nothing is blank. -/
theorem isBlank_empty : Text.isBlank "" = true := rfl

/-- The cookie as a pair of a header. -/
def Proper.pair (h : Proper c) (before : String) (hbefore : Text.isBlank before = true) :
    CookiePair where
  before := before
  name := c.name
  value := c.value
  after := ""
  before_blank := hbefore
  after_blank := isBlank_empty
  name_clean := h.facts.2.1
  value_clean := h.facts.2.2.1
  name_trimmed := h.facts.2.2.2.1
  value_trimmed := h.facts.2.2.2.2

/-- The text of the pair. -/
theorem Proper.pair_text (h : Proper c) (before : String) (hbefore : Text.isBlank before = true) :
    (h.pair before hbefore).text = before ++ c.text := by
  unfold CookiePair.text Proper.pair Cookie.text
  exact String.append_empty

/-- The loop of `extract_session_id` takes the value of the session's cookie, ends at one with a
longer name, and goes past the others. -/
theorem Proper.sessionIdIn (h : Proper c) (before : String) (hbefore : Text.isBlank before = true)
    (parts : List String) : ZoTunnel.sessionIdIn ((before ++ c.text) :: parts) =
      if isLookalike c then none
      else if c.name = cookieName then some c.value else ZoTunnel.sessionIdIn parts := by
  rw [← h.pair_text before hbefore, CookiePair.sessionIdIn_text]
  have hlook : (h.pair before hbefore).isLookalike = isLookalike c := rfl
  have hsession : (h.pair before hbefore).isSession = decide (c.name = cookieName) := by
    show (c.name == cookieName && !c.value.isEmpty) = _
    by_cases hname : c.name = cookieName
    · -- The session's cookie has a value.
      have hne : c.value ≠ "" := by
        rcases h with h | h
        · obtain ⟨id, hid⟩ := h.value
          rw [hid]
          exact id.text_ne
        · exact absurd hname h.name_ne
      simp [hname, hne]
    · simp [hname]
  rw [hlook, hsession]
  simp only [decide_eq_true_eq]
  rfl

end

/-- The session id among the cookies of a request: the first cookie whose name begins with the
session cookie's decides. -/
def sessionOf : List Cookie → Option String
  | [] => none
  | c :: cookies =>
    if isLookalike c then none
    else if c.name = cookieName then some c.value else sessionOf cookies

/-- The session id is the value of a session cookie. -/
theorem sessionOf_eq_some {l : List Cookie} {id : String} (h : sessionOf l = some id) :
    ∃ c ∈ l, c.name = cookieName ∧ c.value = id := by
  induction l with
  | nil => cases h
  | cons c l ih =>
    unfold sessionOf at h
    split_ifs at h with hlook hname
    · exact ⟨c, List.mem_cons_self, hname, Option.some.inj h⟩
    · obtain ⟨d, hd, hfound⟩ := ih h
      exact ⟨d, List.mem_cons_of_mem _ hd, hfound⟩

/-- A session cookie is found among cookies none of which has a longer name, when all session
cookies have its value. -/
theorem sessionOf_of_mem {l : List Cookie} {c : Cookie} (hc : c ∈ l) (hname : c.name = cookieName)
    (honly : ∀ d ∈ l, d.name = cookieName → d.value = c.value)
    (hlook : ∀ d ∈ l, isLookalike d = false) : sessionOf l = some c.value := by
  induction l with
  | nil => cases hc
  | cons d l ih =>
    unfold sessionOf
    rw [hlook d List.mem_cons_self, if_neg Bool.false_ne_true]
    by_cases hd : d.name = cookieName
    · rw [if_pos hd, honly d List.mem_cons_self hd]
    · have hmem : c ∈ l := by
        rcases List.mem_cons.mp hc with rfl | hmem
        · exact absurd hname hd
        · exact hmem
      rw [if_neg hd]
      exact ih hmem (fun e he => honly e (List.mem_cons_of_mem _ he))
        fun e he => hlook e (List.mem_cons_of_mem _ he)

/-- A cookie's text is not empty, and it can be sent in a header. -/
theorem Proper.plain {c : Cookie} (h : Proper c) : c.text ≠ "" ∧ Header.Plain c.text := by
  obtain ⟨hvisible, -, -, hhead, hlast⟩ := h.facts
  have htext : c.text.toList = c.name.toList ++ '=' :: c.value.toList := by
    unfold Cookie.text
    simp
  have hblank : ∀ d, Text.isWhitespace d = false → Header.isBlank d = false := by
    intro d hd
    unfold Text.isWhitespace at hd
    dsimp only at hd
    rw [decide_eq_false_iff_not] at hd
    simp only [Header.isBlank, Bool.or_eq_false_iff, beq_eq_false_iff_ne]
    omega
  refine ⟨fun hempty => ?_, hvisible, fun d hd => hblank d ?_⟩
  · rw [hempty] at htext
    simp at htext
  · rw [htext] at hd
    rcases hd with hd | hd
    · cases hname : c.name.toList with
      | nil =>
        rw [hname] at hd
        obtain rfl : '=' = d := Option.some.inj hd
        decide
      | cons a as =>
        rw [hname] at hd hhead
        obtain rfl : a = d := Option.some.inj hd
        exact hhead
    · rw [List.getLast?_append_of_ne_nil _ (by simp)] at hd
      rcases List.eq_nil_or_concat c.value.toList with hvalue | ⟨as, a, hvalue⟩
      · rw [hvalue] at hd
        obtain rfl : '=' = d := Option.some.inj hd
        decide
      · rw [hvalue, List.concat_eq_append] at hd hlast
        rw [← List.cons_append, List.getLast?_concat] at hd
        rw [List.getLast?_concat] at hlast
        obtain rfl : a = d := Option.some.inj hd
        exact hlast

/-- The session id is read off the pieces of a header. -/
theorem sessionIdIn_cookies {l : List Cookie} (h : ∀ c ∈ l, Proper c) :
    sessionIdIn (l.map fun c => " " ++ c.text) = sessionOf l := by
  induction l with
  | nil => rfl
  | cons c l ih =>
    have hrest := ih fun d hd => h d (List.mem_cons_of_mem _ hd)
    rw [List.map_cons, (h c List.mem_cons_self).sessionIdIn " " (by decide), hrest]
    rfl

/-- The id that the dashboard reads in a request with these cookies. -/
theorem extractSessionId_cookieHeader {sent : List Cookie} (h : ∀ c ∈ sent, Proper c)
    (host xForwardedProto : Option Header.Value) :
    extractSessionId ⟨host, cookieHeader sent, xForwardedProto⟩ = sessionOf sent := by
  unfold cookieHeader
  cases sent with
  | nil =>
    rw [if_pos rfl]
    rfl
  | cons c l =>
    have hplain : Header.Plain ("; ".intercalate ((c :: l).map Cookie.text)) := by
      have hsep : ("; " : String).toList.all Header.isVisible = true := by decide
      refine Header.plain_intercalate (List.all_eq_true.mp hsep) fun s hs => ?_
      obtain ⟨d, hd, rfl⟩ := List.mem_map.mp hs
      exact (h d hd).plain
    obtain ⟨v, hv, hread⟩ := Header.toStr_ofText? hplain
    have hclean : ∀ s ∈ c.text :: l.map Cookie.text, ';' ∉ s.toList := by
      rw [← List.map_cons]
      intro s hs
      obtain ⟨d, hd, rfl⟩ := List.mem_map.mp hs
      obtain ⟨-, hname, hvalue, -⟩ := (h d hd).facts
      have hname : ';' ∉ d.name.toList := fun hmem => (hname _ hmem).1 rfl
      unfold Cookie.text
      simp [hname, hvalue]
    have hextract : extractSessionId ⟨host, some v, xForwardedProto⟩ =
        sessionIdIn (Text.split ("; ".intercalate ((c :: l).map Cookie.text)) ';') := by
      unfold extractSessionId
      rw [Option.bind_eq_bind, Option.bind_some, hread]
      rfl
    have hfirst := (h c List.mem_cons_self).sessionIdIn "" (by decide)
      (l.map fun c => " " ++ c.text)
    rw [String.empty_append] at hfirst
    rw [if_neg (List.cons_ne_nil c l), hv, hextract, List.map_cons, split_pieces hclean,
      List.map_map]
    rw [show ((fun s => " " ++ s) ∘ Cookie.text) = fun c : Cookie => " " ++ c.text from rfl, hfirst,
      sessionIdIn_cookies fun d hd => h d (List.mem_cons_of_mem _ hd)]
    rfl

end ZoTunnel
