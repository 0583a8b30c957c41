import ZoTunnel.Lib.Header
import ZoTunnel.Lib.Text

/-!
# The cookies of a browser

What RFC 6265 and its successor say of a browser's cookies for one host. A `Store` is some browser:
what its jars hold, what becomes of them when a response sets a cookie, and which header goes with a
request. `Store.Lawful` is what can be relied on: a cookie that a response sets with a path is
stored in the place of the one of its name and path, or refused, and the header has the cookies that
match the request, in some order.

`Store.Lawful.received` says which cookies of a name are there after a response. `listStore` is a
store that is a list of cookies.
-/

namespace CookieJar

/-! ## `Set-Cookie` -/

/-- An attribute of a cookie. -/
inductive Attribute where
  | path (path : String)
  /-- In seconds. -/
  | maxAge (seconds : ℕ)
  | secure
  | httpOnly
  /-- `SameSite=Strict`. -/
  | sameSite
  deriving DecidableEq, Repr

/-- The text of an attribute. -/
def Attribute.text : Attribute → String
  | .path p => "Path=" ++ p
  | .maxAge seconds => "Max-Age=" ++ toString seconds
  | .secure => "Secure"
  | .httpOnly => "HttpOnly"
  | .sameSite => "SameSite=Strict"

/-- A cookie that a response sets. -/
structure SetCookie where
  name : String
  value : String
  attributes : List Attribute
  deriving DecidableEq, Repr

/-- A character of a cookie's value. -/
def isOctet (c : Char) : Bool :=
  let n := c.toNat
  n = 0x21 ∨ (0x23 ≤ n ∧ n ≤ 0x2B) ∨ (0x2D ≤ n ∧ n ≤ 0x3A) ∨ (0x3C ≤ n ∧ n ≤ 0x5B) ∨
    (0x5D ≤ n ∧ n ≤ 0x7E)

/-- The age that a browser may limit cookies to: 400 days. -/
def ageLimit : ℕ := 34560000

/-- An attribute that every browser takes as it is. -/
def Attribute.Valid : Attribute → Prop
  | .path p => p.toList.head? = some '/' ∧ p.length ≤ 1024 ∧ ∀ c ∈ p.toList, isOctet c = true
  | .maxAge seconds => seconds ≤ ageLimit
  | .secure | .httpOnly | .sameSite => True

namespace SetCookie

variable (c : SetCookie)

/-- The header. -/
def text : String :=
  "; ".intercalate ((c.name ++ "=" ++ c.value) :: c.attributes.map Attribute.text)

/-- A cookie that every browser takes as it is. Names that begin with two underscores have rules of
their own. -/
structure Valid : Prop where
  name_ne : c.name ≠ ""
  name : ∀ d ∈ c.name.toList, isOctet d = true ∧ d ≠ '='
  plain : ¬ "__".toList <+: c.name.toList
  value : ∀ d ∈ c.value.toList, isOctet d = true
  short : c.name.length + c.value.length ≤ 4096
  attributes : ∀ a ∈ c.attributes, a.Valid

/-- The path that the cookie is set with. -/
def path? : Option String :=
  (c.attributes.filterMap fun a => match a with | .path p => some p | _ => none).getLast?

/-- The age that the cookie is set with. -/
def maxAge : Option ℕ :=
  (c.attributes.filterMap fun a => match a with | .maxAge n => some n | _ => none).getLast?

/-- The cookie is for requests over TLS. -/
def secure : Bool := c.attributes.contains .secure

/-- The cookie is for requests from the same site. -/
def strict : Bool := c.attributes.contains .sameSite

end SetCookie

/-! ## Stores -/

/-- A cookie that is stored. Times are in nanoseconds. -/
structure Cookie where
  name : String
  value : String
  path : String
  expires : Option ℕ
  secure : Bool
  strict : Bool
  deriving DecidableEq, Repr

/-- What is stored of a cookie. -/
def SetCookie.stored (c : SetCookie) (path : String) (now : ℕ) : Cookie :=
  ⟨c.name, c.value, path, c.maxAge.map fun s => now + s * 1000000000, c.secure, c.strict⟩

/-- Where a request comes from and goes to. -/
structure Context where
  /-- It goes over TLS. -/
  secure : Bool
  /-- It comes from a page of the same site. -/
  sameSite : Bool
  path : String
  deriving DecidableEq, Repr

/-- The path of a request is the one of a cookie, or below it. -/
def pathMatches (cookiePath path : String) : Bool :=
  cookiePath = path ||
    cookiePath.toList.isPrefixOf path.toList &&
      (cookiePath.toList.getLast? = some '/' ||
        (path.toList.drop cookiePath.toList.length).head? = some '/')

/-- The cookie is sent with a request. -/
def Cookie.isSent (c : Cookie) (ctx : Context) (now : ℕ) : Bool :=
  c.expires.all (now < ·) && (!c.secure || ctx.secure) && (!c.strict || ctx.sameSite) &&
    pathMatches c.path ctx.path

/-- The text of a cookie in a request. -/
def Cookie.text (c : Cookie) : String := c.name ++ "=" ++ c.value

/-- The `Cookie` header with these cookies, unless there are none, or none that can be sent in a
header. -/
def cookieHeader (sent : List Cookie) : Option Header.Value :=
  if sent = [] then none else Header.Value.ofText? ("; ".intercalate (sent.map Cookie.text))

/-- A reply that does not come over TLS neither sets a secure cookie nor replaces one. -/
def Refuses (cookies : List Cookie) (ctx : Context) (c : SetCookie) (path : String) : Prop :=
  ctx.secure = false ∧ (c.secure = true ∨
    ∃ old ∈ cookies, old.secure = true ∧ old.name = c.name ∧ pathMatches old.path path = true)

instance (cookies : List Cookie) (ctx : Context) (c : SetCookie) (path : String) :
    Decidable (Refuses cookies ctx c path) := by
  unfold Refuses
  infer_instance

/-- The cookies `after` are those `before`, with the cookie in the place of the one of its name and
path, or without that one when the cookie has ended. -/
def Replaces (before after : List Cookie) (c : SetCookie) (path : String) (now : ℕ) : Prop :=
  ∀ old, old ∈ after ↔ old ∈ before ∧ ¬ (old.name = c.name ∧ old.path = path) ∨
    c.maxAge ≠ some 0 ∧ old = c.stored path now

/-- A browser's cookies for one host. -/
structure Store (Jar : Type*) where
  empty : Jar
  cookies : Jar → List Cookie
  /-- The jar when the response to a request has a `Set-Cookie` header, at a time. -/
  receive : Jar → Context → String → ℕ → Jar
  /-- The `Cookie` header of a request, at a time. -/
  header : Jar → Context → ℕ → Option Header.Value
  /-- The jar when a script or another response sets a cookie. -/
  put : Jar → Cookie → Jar
  /-- The jar when a cookie is removed. -/
  remove : Jar → Cookie → Jar

/-- What can be relied on of a browser. -/
structure Store.Lawful {Jar : Type*} (B : Store Jar) : Prop where
  empty : B.cookies B.empty = []
  refused : ∀ {jar : Jar} {ctx : Context} {c : SetCookie} {path : String} (now : ℕ), c.Valid →
    c.path? = some path → Refuses (B.cookies jar) ctx c path →
      ∀ old, old ∈ B.cookies (B.receive jar ctx c.text now) ↔ old ∈ B.cookies jar
  /-- The response to a request from another site may set no cookie. -/
  replaced : ∀ {jar : Jar} {ctx : Context} {c : SetCookie} {path : String} (now : ℕ), c.Valid →
    c.path? = some path → ¬ Refuses (B.cookies jar) ctx c path →
      Replaces (B.cookies jar) (B.cookies (B.receive jar ctx c.text now)) c path now ∨
        ctx.sameSite = false ∧
          ∀ old, old ∈ B.cookies (B.receive jar ctx c.text now) ↔ old ∈ B.cookies jar
  header : ∀ (jar : Jar) (ctx : Context) (now : ℕ), ∃ sent : List Cookie,
    sent.Perm ((B.cookies jar).filter (·.isSent ctx now)) ∧ B.header jar ctx now = cookieHeader sent
  put : ∀ {jar : Jar} {c old : Cookie}, old ∈ B.cookies (B.put jar c) →
    old ∈ B.cookies jar ∨ old = c
  remove : ∀ {jar : Jar} {c old : Cookie}, old ∈ B.cookies (B.remove jar c) → old ∈ B.cookies jar

namespace Store.Lawful

variable {Jar : Type*} {B : Store Jar} {jar : Jar} {ctx : Context} {c : SetCookie} {path : String}

/-- After a response, the cookies are the same, or one of a name and path has been replaced. -/
theorem receive (h : B.Lawful) (now : ℕ) (hc : c.Valid) (hpath : c.path? = some path) :
    (∀ old, old ∈ B.cookies (B.receive jar ctx c.text now) ↔ old ∈ B.cookies jar) ∨
      Replaces (B.cookies jar) (B.cookies (B.receive jar ctx c.text now)) c path now := by
  by_cases hrefuses : Refuses (B.cookies jar) ctx c path
  · exact .inl (h.refused now hc hpath hrefuses)
  · rcases h.replaced now hc hpath hrefuses with hreplaces | ⟨-, hsame⟩
    · exact .inr hreplaces
    · exact .inl hsame

/-- When all cookies of a name have the path of the one that a response of the site sets, that one
is the only one afterwards, or there is none when it has ended. -/
theorem received (h : B.Lawful) (now : ℕ) (hc : c.Valid) (hpath : c.path? = some path)
    (hsite : ctx.sameSite = true) (haccepts : ¬ Refuses (B.cookies jar) ctx c path)
    (hpaths : ∀ old ∈ B.cookies jar, old.name = c.name → old.path = path) (old : Cookie) :
    old ∈ B.cookies (B.receive jar ctx c.text now) ∧ old.name = c.name ↔
      c.maxAge ≠ some 0 ∧ old = c.stored path now := by
  have hreplaces : Replaces (B.cookies jar) (B.cookies (B.receive jar ctx c.text now)) c path now :=
    (h.replaced now hc hpath haccepts).resolve_right fun hcross => by simp [hsite] at hcross
  rw [hreplaces old]
  constructor
  · rintro ⟨⟨hold, hother⟩ | hnew, hname⟩
    · exact absurd ⟨hname, hpaths old hold hname⟩ hother
    · exact hnew
  · rintro ⟨hage, rfl⟩
    exact ⟨.inr ⟨hage, rfl⟩, rfl⟩

end Store.Lawful

/-! ## Headers -/

/-- A header of cookies, by its pieces. -/
theorem intercalate_pieces (piece : String) (pieces : List String) :
    "; ".intercalate (piece :: pieces) =
      ";".intercalate (piece :: pieces.map fun piece => " " ++ piece) := by
  induction pieces generalizing piece with
  | nil => rfl
  | cons next pieces ih =>
    have hsep : ("; " : String) = ";" ++ " " := rfl
    calc "; ".intercalate (piece :: next :: pieces)
      _ = piece ++ "; " ++ "; ".intercalate (next :: pieces) := String.intercalate_cons_cons
      _ = piece ++ ";" ++ (" " ++ ";".intercalate (next :: pieces.map fun s => " " ++ s)) := by
        rw [ih, hsep, ← String.append_assoc, ← String.append_assoc]
      _ = piece ++ ";" ++ ";".intercalate ((" " ++ next) :: pieces.map fun s => " " ++ s) := by
        rw [String.intercalate_cons_append]
      _ = _ := String.intercalate_cons_cons.symm

/-- The pieces of a header of cookies, when none of them has a separator. -/
theorem split_pieces {piece : String} {pieces : List String}
    (hclean : ∀ s ∈ piece :: pieces, ';' ∉ s.toList) :
    Text.split ("; ".intercalate (piece :: pieces)) ';' =
      piece :: pieces.map fun piece => " " ++ piece := by
  rw [intercalate_pieces, Text.split_intercalate (by decide) (by simp)]
  intro s hs
  rcases List.mem_cons.mp hs with rfl | hs
  · exact hclean s List.mem_cons_self
  · obtain ⟨t, ht, rfl⟩ := List.mem_map.mp hs
    have ht := hclean t (List.mem_cons_of_mem _ ht)
    simpa using ht

/-! ## A store that is a list -/

/-- Read an attribute. -/
def Attribute.read (s : String) : Option Attribute :=
  if s = "Secure" then some .secure
  else if s = "HttpOnly" then some .httpOnly
  else if s = "SameSite=Strict" then some .sameSite
  else
    match Text.stripPrefix s "Path=" with
    | some p => some (.path p)
    | none =>
      (Text.stripPrefix s "Max-Age=").map fun digits =>
        .maxAge (Nat.ofDigitChars 10 digits.toList 0)

/-- Read a `Set-Cookie` header. -/
def SetCookie.read (s : String) : Option SetCookie :=
  match Text.split s ';' with
  | [] => none
  | pair :: attributes =>
    some ⟨Text.beforeChar '=' pair, Text.afterChar '=' pair,
      attributes.filterMap fun s => (Text.stripPrefix s " ").bind Attribute.read⟩

/-- No separator is among the characters of a cookie's value. -/
theorem separator_notMem {s : String} (h : ∀ c ∈ s.toList, isOctet c = true) : ';' ∉ s.toList :=
  fun hmem => absurd (h _ hmem) (by decide)

/-- No separator is in the text of an attribute. -/
theorem Attribute.Valid.separator_notMem {a : Attribute} (h : a.Valid) : ';' ∉ a.text.toList := by
  cases a with
  | path p =>
    have hpath := CookieJar.separator_notMem h.2.2
    unfold text
    simp [hpath]
  | maxAge n =>
    have hdigits : ';' ∉ Nat.toDigits 10 n := fun hmem =>
      absurd (Nat.isDigit_of_mem_toDigits (by decide) (by decide) hmem) (by decide)
    unfold text
    simp [hdigits]
  | secure | httpOnly | sameSite => decide

end CookieJar
