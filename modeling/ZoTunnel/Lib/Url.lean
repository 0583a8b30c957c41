import ZoTunnel.Lib.Text

/-!
# The parts of a URL

`Url.read` takes an absolute `http` or `https` URL apart, as RFC 3986 says: the authority ends at
the first `/`, `?` or `#`, the host and the port stand behind the last `@` of it, the path ends at
the first `?` or `#`, and the query at the first `#`. `read_append_query` and `read_append` say what
text behind a URL is to it.
-/

/-- What a URL says: where it points to, and what it asks for there. -/
structure Url where
  https : Bool
  host : String
  /-- The port, when the URL gives it. -/
  port : Option UInt16
  path : String
  query : Option String
  deriving DecidableEq, Repr

namespace Url

/-- The port that the URL denotes. -/
def effectivePort (url : Url) : UInt16 := url.port.getD (if url.https then 443 else 80)

/-- Whether the scheme is `https`, and the text behind `://`. -/
def splitScheme (s : List Char) : Option (Bool × List Char) :=
  if "https://".toList <+: s.map Char.toLower then some (true, s.drop 8)
  else if "http://".toList <+: s.map Char.toLower then some (false, s.drop 7)
  else none

/-- Whether a character is part of the authority. -/
def inAuthority (c : Char) : Bool := c ≠ '/' && c ≠ '?' && c ≠ '#'

/-- Whether a character is part of the path. -/
def inPath (c : Char) : Bool := c ≠ '?' && c ≠ '#'

/-- Whether a text, from its end, may be a host: only an address in brackets has colons. -/
def isHost (reversed : List Char) : Bool :=
  !reversed.contains ':' || reversed.head? == some ']' && reversed.getLast? == some '['

/-- The host and the port of an authority, unless the port is no number of 16 bits. -/
def hostPort (authority : List Char) : Option (String × Option UInt16) :=
  let reversed := authority.reverse.takeWhile (· ≠ '@')
  let digits := (reversed.takeWhile Char.isDigit).reverse
  match reversed.dropWhile Char.isDigit with
  | ':' :: host =>
    let n := Nat.ofDigitChars 10 digits 0
    if !isHost host then none
    else if digits = [] then some (String.ofList host.reverse, none)
    else if n < 2^16 then some (String.ofList host.reverse, some (.ofNat n))
    else none
  | _ => if isHost reversed then some (String.ofList reversed.reverse, none) else none

example : hostPort "localhost:check".toList = none := by decide

/-- The query at the end of a path. -/
def readQuery : List Char → Option String
  | '?' :: query => some (String.ofList (query.takeWhile (· ≠ '#')))
  | _ => none

/-- The parts of an absolute URL. -/
def read (s : String) : Option Url := do
  let (https, rest) ← splitScheme s.toList
  let (host, port) ← hostPort (rest.takeWhile inAuthority)
  let tail := rest.dropWhile inAuthority
  if host = "" then none
  else some ⟨https, host, port, String.ofList (tail.takeWhile inPath),
    readQuery (tail.dropWhile inPath)⟩

/-- A text is cut where it was, when something is put behind it, if it is cut or what is put behind
it begins with a place to cut. -/
theorem span_append {p : Char → Bool} {l t : List Char}
    (h : (∃ c ∈ l, p c = false) ∨ ∃ c rest, t = c :: rest ∧ p c = false) :
    (l ++ t).takeWhile p = l.takeWhile p ∧ (l ++ t).dropWhile p = l.dropWhile p ++ t := by
  induction l with
  | nil =>
    rcases h with ⟨c, hc, -⟩ | ⟨c, rest, rfl, hc⟩
    · cases hc
    · rw [List.nil_append, List.takeWhile_cons_of_neg (by simp [hc]),
        List.dropWhile_cons_of_neg (by simp [hc])]
      exact ⟨rfl, rfl⟩
  | cons d l ih =>
    rw [List.cons_append]
    cases hd : p d with
    | false => simp [hd]
    | true =>
      have hrec : (∃ c ∈ l, p c = false) ∨ ∃ c rest, t = c :: rest ∧ p c = false := by
        rcases h with ⟨c, hc, hfalse⟩ | h
        · rcases List.mem_cons.mp hc with rfl | hc
          · rw [hd] at hfalse
            cases hfalse
          · exact .inl ⟨c, hc, hfalse⟩
        · exact .inr h
      obtain ⟨htake, hdrop⟩ := ih hrec
      simp [hd, htake, hdrop]

/-- The scheme is the same with more text behind it, and has no other character than its letters,
the colon and the slashes. -/
theorem splitScheme_append {s rest : List Char} {https : Bool}
    (h : splitScheme s = some (https, rest)) (t : List Char) :
    splitScheme (s ++ t) = some (https, rest ++ t) ∧
      ∃ front, s = front ++ rest ∧ '?' ∉ front ∧ '#' ∉ front := by
  -- A scheme that matches in any case has no `?` and no `#` in it.
  have hfront : ∀ scheme : String, '?' ∉ scheme.toList → '#' ∉ scheme.toList →
      scheme.toList <+: s.map Char.toLower →
      scheme.toList.length ≤ s.length ∧
        '?' ∉ s.take scheme.toList.length ∧ '#' ∉ s.take scheme.toList.length := by
    intro scheme hq hf hstart
    have htake := List.prefix_iff_eq_take.mp hstart
    rw [← List.map_take] at htake
    have hlen := hstart.length_le
    rw [List.length_map] at hlen
    refine ⟨hlen, fun hmem => hq ?_, fun hmem => hf ?_⟩
    · rw [htake]
      exact List.mem_map.mpr ⟨_, hmem, by decide⟩
    · rw [htake]
      exact List.mem_map.mpr ⟨_, hmem, by decide⟩
  unfold splitScheme at h ⊢
  split_ifs at h with hhttps hhttp
  · obtain ⟨rfl, rfl⟩ : true = https ∧ s.drop 8 = rest := by simpa using h
    obtain ⟨hlen, hq, hf⟩ := hfront _ (by decide) (by decide) hhttps
    have hlen' : 8 ≤ s.length := hlen
    refine ⟨?_, s.take 8, (List.take_append_drop 8 s).symm, hq, hf⟩
    rw [List.map_append, if_pos (hhttps.trans (List.prefix_append _ _)),
      List.drop_append_of_le_length hlen']
  · obtain ⟨rfl, rfl⟩ : false = https ∧ s.drop 7 = rest := by simpa using h
    obtain ⟨hlen, hq, hf⟩ := hfront _ (by decide) (by decide) hhttp
    have hlong : "http://".toList <+: s.map Char.toLower ++ t.map Char.toLower :=
      hhttp.trans (List.prefix_append _ _)
    -- The scheme stays the shorter one, whatever follows.
    have hnot : ¬ "https://".toList <+: s.map Char.toLower ++ t.map Char.toLower := by
      intro hstart
      have hboth := List.prefix_of_prefix_length_le hlong hstart (by decide)
      exact absurd hboth (by decide)
    have hlen' : 7 ≤ s.length := hlen
    refine ⟨?_, s.take 7, (List.take_append_drop 7 s).symm, hq, hf⟩
    rw [List.map_append, if_neg hnot, if_pos hlong, List.drop_append_of_le_length hlen']

/-- A text with a place to cut keeps it behind the cut. -/
theorem mem_dropWhile {p : Char → Bool} {l : List Char} {c : Char} (hc : c ∈ l)
    (h : p c = false) : c ∈ l.dropWhile p := by
  rw [← List.takeWhile_append_dropWhile (p := p) (l := l), List.mem_append] at hc
  rcases hc with hc | hc
  · have hall : (l.takeWhile p).all p = true := List.all_takeWhile
    rw [List.all_eq_true.mp hall c hc] at h
    cases h
  · exact hc

/-- The parts of a URL are those of its text behind the scheme. -/
theorem read_eq_some_iff {s : String} {url : Url} :
    read s = some url ↔ ∃ rest, splitScheme s.toList = some (url.https, rest) ∧
      hostPort (rest.takeWhile inAuthority) = some (url.host, url.port) ∧ url.host ≠ "" ∧
      url.path = String.ofList ((rest.dropWhile inAuthority).takeWhile inPath) ∧
      url.query = readQuery ((rest.dropWhile inAuthority).dropWhile inPath) := by
  unfold read
  simp only [Option.bind_eq_bind, Option.bind_eq_some_iff]
  constructor
  · rintro ⟨⟨https, rest⟩, hscheme, ⟨host, port⟩, hhost, h⟩
    dsimp only at hhost h
    split_ifs at h with hempty
    obtain rfl := Option.some.inj h
    exact ⟨rest, hscheme, hhost, hempty, rfl, rfl⟩
  · rintro ⟨rest, hscheme, hhost, hempty, hpath, hquery⟩
    refine ⟨_, hscheme, _, hhost, ?_⟩
    dsimp only
    rw [if_neg hempty, ← hpath, ← hquery]

/-- The path has no question mark. -/
theorem notMem_path {s : String} {url : Url} (h : read s = some url) : '?' ∉ url.path.toList := by
  obtain ⟨rest, -, -, -, hpath, -⟩ := read_eq_some_iff.mp h
  rw [hpath, String.toList_ofList]
  intro hmem
  have hall : ((rest.dropWhile inAuthority).takeWhile inPath).all inPath = true :=
    List.all_takeWhile
  exact absurd (List.all_eq_true.mp hall _ hmem) (by decide)

/-- A query behind a URL without one is cut at the first `#`, and the rest is the same. -/
theorem read_append_query {s : String} {url : Url} (h : read s = some url) (hq : '?' ∉ s.toList)
    (hf : '#' ∉ s.toList) (query : String) :
    url.query = none ∧
      read (s ++ "?" ++ query) = some { url with query := some (Text.beforeChar '#' query) } := by
  obtain ⟨rest, hscheme, hhost, hempty, hpath, hquery⟩ := read_eq_some_iff.mp h
  obtain ⟨hscheme', front, hfront, -, -⟩ := splitScheme_append hscheme ('?' :: query.toList)
  have hsub : ∀ c ∈ rest.dropWhile inAuthority, inPath c = true := by
    intro c hc
    have hmem : c ∈ s.toList := by
      rw [hfront]
      exact List.mem_append_right _ (List.dropWhile_subset _ hc)
    have hne : c ≠ '?' ∧ c ≠ '#' := ⟨fun heq => hq (heq ▸ hmem), fun heq => hf (heq ▸ hmem)⟩
    simpa [inPath] using hne
  have hdrop : (rest.dropWhile inAuthority).dropWhile inPath = [] :=
    List.dropWhile_eq_nil_iff.mpr hsub
  obtain ⟨hauth, hrest⟩ := span_append (p := inAuthority) (l := rest) (t := '?' :: query.toList)
    (.inr ⟨_, _, rfl, by decide⟩)
  obtain ⟨hpath', hquery'⟩ := span_append (p := inPath) (l := rest.dropWhile inAuthority)
    (t := '?' :: query.toList) (.inr ⟨_, _, rfl, by decide⟩)
  refine ⟨by rw [hquery, hdrop]; rfl, read_eq_some_iff.mpr ⟨rest ++ '?' :: query.toList, ?_⟩⟩
  have hlist : (s ++ "?" ++ query).toList = s.toList ++ '?' :: query.toList := by simp
  rw [hlist, hauth, hrest, hpath', hquery', hdrop]
  exact ⟨hscheme', hhost, hempty, hpath, rfl⟩

/-- A text behind a URL with a query goes on with the query, up to the first `#`. -/
theorem read_append {s : String} {url : Url} (h : read s = some url) (hq : '?' ∈ s.toList)
    (hf : '#' ∉ s.toList) (t : String) :
    ∃ query, url.query = some query ∧
      read (s ++ t) = some { url with query := some (query ++ Text.beforeChar '#' t) } := by
  obtain ⟨rest, hscheme, hhost, hempty, hpath, hquery⟩ := read_eq_some_iff.mp h
  obtain ⟨hscheme', front, hfront, hfrontq, -⟩ := splitScheme_append hscheme t.toList
  have hqrest : '?' ∈ rest := by
    rw [hfront, List.mem_append] at hq
    exact hq.resolve_left hfrontq
  have hqtail : '?' ∈ rest.dropWhile inAuthority := mem_dropWhile hqrest (by decide)
  obtain ⟨hauth, hrest⟩ := span_append (p := inAuthority) (l := rest) (t := t.toList)
    (.inl ⟨_, hqrest, by decide⟩)
  obtain ⟨hpath', hquery'⟩ := span_append (p := inPath) (l := rest.dropWhile inAuthority)
    (t := t.toList) (.inl ⟨_, hqtail, by decide⟩)
  -- What is behind the path begins with the question mark, since there is no fragment.
  obtain ⟨c, query, hbehind⟩ :
      ∃ c query, (rest.dropWhile inAuthority).dropWhile inPath = c :: query :=
    List.exists_cons_of_ne_nil (List.ne_nil_of_mem (mem_dropWhile hqtail (by decide)))
  have hsub : ∀ d ∈ c :: query, d ≠ '#' := by
    intro d hd heq
    apply hf
    rw [← heq, hfront]
    rw [← hbehind] at hd
    exact List.mem_append_right _ (List.dropWhile_subset _ (List.dropWhile_subset _ hd))
  obtain rfl : c = '?' := by
    have hhead := List.head?_dropWhile_not inPath (rest.dropWhile inAuthority)
    rw [hbehind] at hhead
    have hne := hsub c List.mem_cons_self
    simpa [inPath, hne] using hhead
  have hkeep : query.takeWhile (· ≠ '#') = query :=
    List.takeWhile_eq_self_iff.mpr fun d hd => by simpa using hsub d (List.mem_cons_of_mem _ hd)
  refine ⟨String.ofList query, ?_, read_eq_some_iff.mpr ⟨rest ++ t.toList, ?_⟩⟩
  · rw [hquery, hbehind, readQuery, hkeep]
  · have hall : ∀ d ∈ query, decide (d ≠ '#') = true :=
      fun d hd => decide_eq_true (hsub d (List.mem_cons_of_mem _ hd))
    rw [String.toList_append, hauth, hrest, hpath', hquery', hbehind]
    refine ⟨hscheme', hhost, hempty, hpath, ?_⟩
    rw [List.cons_append, readQuery, List.takeWhile_append_of_pos hall, String.ofList_append]
    rfl

end Url
