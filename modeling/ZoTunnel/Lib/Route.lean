import ZoTunnel.Lib.Percent

/-!
# Routes

A table of routes, each a pattern for paths, a method, and a handler. A segment of a pattern that
begins with `:` is a parameter and takes one segment of a path, which is percent-decoded; the other
segments stand for themselves.

A router is a parameter of what is proved with it. `Router.Serves` is what its documentation says
about a table: only a route that takes a request answers it, and one that has no rival does, unless
the path is too long. It does not say which of two patterns wins, nor whether a parameter takes an
empty segment. `tableRouter_serves` has such a router.
-/

namespace Route

open Percent (decode? segments)

/-! ## Patterns -/

/-- A segment of a pattern. -/
inductive Segment where
  | lit (s : String)
  | param
  deriving DecidableEq, Repr

/-- A segment of a pattern, from its text. -/
def segment (s : String) : Segment := if s.toList.head? = some ':' then .param else .lit s

/-- A pattern, from its text. -/
def pattern (s : String) : List Segment := (segments s).map segment

/-- What the parameters of a pattern take from the segments of a path, if it takes the path. -/
def match? : List Segment → List String → Option (List String)
  | [], [] => some []
  | .lit s :: pattern, t :: rest => if s = t then match? pattern rest else none
  | .param :: pattern, t :: rest => (match? pattern rest).map (t :: ·)
  | _, _ => none

/-! ## Routers -/

/-- Why a request does not arrive. -/
inductive Miss where
  | notFound
  | methodNotAllowed
  /-- A parameter is not UTF-8. -/
  | invalidPath
  deriving DecidableEq, Repr

variable {M H : Type*}

/-- The routes of a service, each with the text of its pattern. -/
abbrev Table (M H : Type*) := List (String × M × H)

/-- What answers a request for a path, and the texts of its parameters. -/
abbrev Router (M H : Type*) := M → String → Except Miss (H × List String)

/-- A route takes a request: it has the method, its pattern takes the segments, and the parameters
stand for these texts. -/
def Takes (route : String × M × H) (method : M) (l texts : List String) : Prop :=
  route.2.1 = method ∧
    ∃ params, match? (pattern route.1) l = some params ∧ params.mapM decode? = some texts

/-- A route has no rival: the patterns of the others do not take the segments, and no other has its
pattern and its method. -/
def Unrivalled (routes : Table M H) (route : String × M × H) (l : List String) : Prop :=
  ∀ other ∈ routes, (match? (pattern other.1) l).isSome →
    other.1 = route.1 ∧ (other.2.1 = route.2.1 → other.2.2 = route.2.2)

/-- What a router says about the routes that it has, and about paths up to a length in bytes. -/
structure Router.Serves (limit : ℕ) (routes : Table M H) (router : Router M H) : Prop where
  /-- What answers is a route that takes the request. -/
  sound : ∀ method requested handler texts, router method requested = .ok (handler, texts) →
    ∃ route ∈ routes, route.2.2 = handler ∧ Takes route method (segments requested) texts
  /-- A route without rivals answers what it takes, when no segment is empty. -/
  complete : ∀ route ∈ routes, ∀ requested texts, requested.utf8ByteSize ≤ limit →
    "" ∉ segments requested → Takes route route.2.1 (segments requested) texts →
    Unrivalled routes route (segments requested) →
    router route.2.1 requested = .ok (route.2.2, texts)

/-! ## What takes a path -/

/-- The routes that take the segments of a path, each with what its parameters take. -/
def hits (routes : Table M H) (l : List String) : List ((String × M × H) × List String) :=
  (routes.map fun route => (pattern route.1, route)).filterMap fun (pattern, route) =>
    (match? pattern l).map (route, ·)

/-- They are the routes whose patterns take the segments. -/
theorem mem_hits {routes : Table M H} {l : List String} {route : String × M × H}
    {params : List String} :
    (route, params) ∈ hits routes l ↔
      route ∈ routes ∧ match? (pattern route.1) l = some params := by
  unfold hits
  rw [List.filterMap_map, List.mem_filterMap]
  constructor
  · rintro ⟨other, hmem, hother⟩
    obtain ⟨taken, htaken, hpair⟩ := Option.map_eq_some_iff.mp hother
    obtain ⟨rfl, rfl⟩ := Prod.mk.inj hpair
    exact ⟨hmem, htaken⟩
  · rintro ⟨hmem, htaken⟩
    exact ⟨route, hmem, Option.map_eq_some_iff.mpr ⟨params, htaken, rfl⟩⟩

variable {limit : ℕ} {routes : Table M H} {router : Router M H} {requested : String}

/-- What answers is one of them. -/
theorem Router.Serves.exists_hit (h : router.Serves limit routes) {method : M} {handler : H}
    {texts : List String} (hok : router method requested = .ok (handler, texts)) :
    ∃ hit ∈ hits routes (segments requested),
      hit.1.2 = (method, handler) ∧ hit.2.mapM decode? = some texts := by
  obtain ⟨route, hmem, rfl, rfl, params, htaken, hdecode⟩ := h.sound _ _ _ _ hok
  exact ⟨(route, params), mem_hits.mpr ⟨hmem, htaken⟩, rfl, hdecode⟩

/-- If they have one pattern, and each method once, every one answers. -/
theorem Router.Serves.eq_ok (h : router.Serves limit routes)
    (hlimit : requested.utf8ByteSize ≤ limit) (hfull : "" ∉ segments requested)
    {hit : (String × M × H) × List String} {texts : List String}
    (hmem : hit ∈ hits routes (segments requested))
    (honly : ∀ other ∈ hits routes (segments requested),
      other.1.1 = hit.1.1 ∧ (other.1.2.1 = hit.1.2.1 → other.1.2.2 = hit.1.2.2))
    (hdecode : hit.2.mapM decode? = some texts) :
    router hit.1.2.1 requested = .ok (hit.1.2.2, texts) := by
  obtain ⟨route, params⟩ := hit
  obtain ⟨hroute, htaken⟩ := mem_hits.mp hmem
  refine h.complete route hroute requested texts hlimit hfull ⟨rfl, params, htaken, hdecode⟩ ?_
  intro other hother hsome
  obtain ⟨taken, htaken⟩ := Option.isSome_iff_exists.mp hsome
  exact honly (other, taken) (mem_hits.mpr ⟨hother, htaken⟩)

/-! ## A router -/

variable [DecidableEq M]

/-- What answers, and the texts as they stand in the path. -/
def find? (routes : Table M H) (method : M) (l : List String) : Option (H × List String) :=
  routes.findSome? fun route =>
    if route.2.1 = method then (match? (pattern route.1) l).map (route.2.2, ·) else none

/-- A router in which the first route that takes a request answers it. -/
def tableRouter (routes : Table M H) : Router M H := fun method requested =>
  match find? routes method (segments requested) with
  | none =>
    if routes.any fun route => (match? (pattern route.1) (segments requested)).isSome then
      .error .methodNotAllowed
    else .error .notFound
  | some (handler, params) =>
    match params.mapM decode? with
    | none => .error .invalidPath
    | some texts => .ok (handler, texts)

/-- What is found is a route of the table. -/
theorem mem_of_find? {routes : Table M H} {method : M} {l params : List String} {handler : H}
    (h : find? routes method l = some (handler, params)) :
    ∃ route ∈ routes, route.2.2 = handler ∧ route.2.1 = method ∧
      match? (pattern route.1) l = some params := by
  obtain ⟨route, hmem, hroute⟩ := List.exists_of_findSome?_eq_some h
  split_ifs at hroute with hmethod
  obtain ⟨taken, htaken, hpair⟩ := Option.map_eq_some_iff.mp hroute
  obtain ⟨rfl, rfl⟩ := Prod.mk.inj hpair
  exact ⟨route, hmem, rfl, hmethod, htaken⟩

/-- A route without rivals is found. -/
theorem find?_eq {routes : Table M H} {route : String × M × H} {l params : List String}
    (hmem : route ∈ routes) (htakes : match? (pattern route.1) l = some params)
    (h : Unrivalled routes route l) :
    find? routes route.2.1 l = some (route.2.2, params) := by
  cases hfound : find? routes route.2.1 l with
  | none =>
    have hnone := List.findSome?_eq_none_iff.mp hfound route hmem
    rw [if_pos rfl, htakes] at hnone
    cases hnone
  | some found =>
    obtain ⟨other, hother, hhandler, hmethod, htaken⟩ := mem_of_find? hfound
    obtain ⟨hpattern, hsame⟩ := h other hother (by rw [htaken]; rfl)
    rw [hpattern, htakes] at htaken
    rw [Option.some.inj htaken, ← hsame hmethod, hhandler]

/-- Such a router says of its routes what a router has to say. -/
theorem tableRouter_serves (limit : ℕ) (routes : Table M H) :
    (tableRouter routes).Serves limit routes where
  sound := by
    intro method requested handler texts h
    unfold tableRouter at h
    cases hfound : find? routes method (segments requested) with
    | none =>
      rw [hfound] at h
      dsimp only at h
      split_ifs at h
    | some found =>
      obtain ⟨answer, params⟩ := found
      rw [hfound] at h
      dsimp only at h
      obtain ⟨route, hmem, hhandler, hmethod, htaken⟩ := mem_of_find? hfound
      cases hdecode : params.mapM decode? with
      | none =>
        rw [hdecode] at h
        cases h
      | some decoded =>
        rw [hdecode] at h
        obtain ⟨rfl, rfl⟩ := Prod.mk.inj (Except.ok.inj h)
        exact ⟨route, hmem, hhandler, hmethod, params, htaken, hdecode⟩
  complete := by
    rintro route hmem requested texts - - ⟨-, params, htaken, hdecode⟩ h
    unfold tableRouter
    rw [find?_eq hmem htaken h]
    dsimp only
    rw [hdecode]

end Route
