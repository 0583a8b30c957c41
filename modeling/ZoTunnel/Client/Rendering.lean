import ZoTunnel.Client.TunnelCards
import ZoTunnel.Lib.Reconcile
import ZoTunnel.Lib.Run

/-!
# Rendering the tunnels

The client's page asks for the list of the tunnels every two seconds, and `renderTunnels` brings the
cards up to date: a keyed reconciliation with `buildTunnelCard` and `updateTunnelCard`.
`rendering_iff` says in which runs the cards are always those that would be built from scratch.

When the list has a tunnel whose id is the name of a member of `Object.prototype`, the member is
taken for a card: its class is set, and the search in it throws. Where the member is
`Object.prototype` itself (`__proto__`), every object has a `className` from then on.
-/

namespace ZoTunnel.ClientPage

open Dom Reconcile Transition

/-- The children of the container that are cards. -/
def isCard (n : Node Click) : Bool := n.root.any (·.hasClass "tunnel-card")

/-- The id by which a card is found. -/
def cardId (n : Node Click) : Option String :=
  if isCard n then n.root.bind fun e => truthy e.dataId else none

/-- How the tunnels are shown. -/
def tunnelView : View TunnelInfo (Node Click) where
  key t := t.id
  build := buildTunnelCard
  update := updateTunnelCard
  counts := isCard
  keyOf := cardId

/-- The container of the cards. -/
structure Page where
  container : Parent (Node Click)
  /-- Whether `Object.prototype` has got a `className`. -/
  polluted : Bool

/-- The names that an object inherits, with those that an element has. -/
def inherited (elementMembers : String → Bool) (polluted : Bool) : Inherited where
  object name := objectMembers.contains name || polluted && name == "className"
  element name :=
    elementMembers name || objectMembers.contains name || polluted && name == "className"
  proto := by cases polluted <;> decide
  notEmpty := by cases polluted <;> decide

/-- The element that is shown when there are no tunnels. -/
def newEmptyState : Node Click :=
  let es := (createEl "div" ["empty-state"] "").set ({ · with id := "empty-state" })
  let icon := createEl "div" ["empty-icon"] "🚇"
  let title := createEl "h2" ["empty-title"] "No tunnels yet"
  let desc := createEl "p" ["empty-desc"]
    "Add your first tunnel to expose a local service to the internet"
  let btn := (createEl "button" ["btn", "btn-primary"] "").set ({ · with id := "btn-add-first" })
  let btn := btn.appendChild (createEl "span" [] "+")
  let btn := btn.appendChild (.text " Add Tunnel")
  let btn := btn.set ({ · with onClick := some .openAddModal })
  (((es.appendChild icon).appendChild title).appendChild desc).appendChild btn

/-- The page at the start. -/
def Page.initial : Page := ⟨⟨[0], List.nodup_singleton 0, fun _ => newEmptyState⟩, false⟩

/-- It is the element with that id. -/
def isEmptyState (n : Node Click) : Bool := n.root.any (·.id == "empty-state")

/-- `el.style.display = value`. -/
def setDisplay (value : String) (p : Parent (Node Click)) (r : ℕ) : Parent (Node Click) :=
  p.setNode r ((p.node r).set ({ · with display := value }))

/-- The cards are brought up to date. -/
def renderTunnels (elementMembers : String → Bool) (page : Page) (data : List TunnelInfo) : Page :=
  let container := page.container
  let emptyState := container.children.find? fun r => isEmptyState (container.node r)
  if data = [] then
    -- Remove existing tunnel cards
    let container := (container.refs isCard).foldl Parent.remove container
    match emptyState with
    | none => { page with container := container.append newEmptyState }
    | some r => { page with container := setDisplay "" container r }
  else
    let container := match emptyState with
      | some r => setDisplay "none" container r
      | none => container
    match tunnelView.reconcile (inherited elementMembers page.polluted) container data with
    | .ok container => { page with container }
    -- The class of the member is set before the search throws.
    | .error (key, container) => ⟨container, page.polluted || key == "__proto__"⟩

/-- The reconciliation relies on this. -/
theorem tunnelView_lawful : tunnelView.Lawful where
  counts_of_key := by
    intro n key h
    exact (Option.ite_none_right_eq_some.mp h).1
  keyOf_ne_empty := by
    intro n h
    obtain ⟨-, hroot⟩ := Option.ite_none_right_eq_some.mp h
    obtain ⟨e, -, htruthy⟩ := Option.bind_eq_some_iff.mp hroot
    unfold truthy at htruthy
    split at htruthy
    · obtain ⟨hne, heq⟩ := Option.ite_none_left_eq_some.mp htruthy
      exact hne (Option.some.inj heq)
    · cases htruthy
  counts_build t := by
    show isCard (buildTunnelCard t) = true
    rw [buildTunnelCard_eq]
    rfl
  keyOf_build t := by
    show cardId (buildTunnelCard t) = _
    rw [buildTunnelCard_eq]
    rfl
  keyOf_update := by
    intro n key t h
    obtain ⟨-, hroot⟩ := Option.ite_none_right_eq_some.mp h
    obtain ⟨e, he, htruthy⟩ := Option.bind_eq_some_iff.mp hroot
    have hupdated : (updateTunnelCard n t).root =
        some { e with className := ["tunnel-card", t.status.state.word] } := by
      rw [root_updateTunnelCard, he]
      rfl
    show cardId (updateTunnelCard n t) = some key
    unfold cardId isCard
    rw [hupdated]
    exact htruthy

/-! ## Runs -/

/-- A list of tunnels with distinct ids. -/
structure TunnelList where
  tunnels : List TunnelInfo
  distinct : (tunnels.map (·.id)).Nodup

/-- The page, and the list that it has been given last. -/
structure Rendering where
  page : Page
  tunnels : List TunnelInfo

/-- The page at the start. -/
def Rendering.initial : Rendering := ⟨.initial, []⟩

/-- A list arrives. -/
def renderStep (elementMembers : String → Bool) (s : Rendering) (data : TunnelList) :
    Option Rendering :=
  some ⟨renderTunnels elementMembers s.page data.tunnels, data.tunnels⟩

/-- The cards are those that would be built for the list. -/
def Rendering.ShowsAll (s : Rendering) : Prop :=
  s.page.container.items isCard = s.tunnels.map buildTunnelCard

/-- The list is empty; or its ids are no names of members of `Object.prototype`, the list before had
no empty id, and a tunnel that was in it has the name that it had. -/
def KeepsNames (s : Rendering) (data : TunnelList) : Prop :=
  data.tunnels = [] ∨ (∀ t ∈ data.tunnels, t.id ∉ objectMembers) ∧ (∀ t ∈ s.tunnels, t.id ≠ "") ∧
    ∀ t ∈ s.tunnels, ∀ t' ∈ data.tunnels, t.id = t'.id → t.clientId = t'.clientId

/-- The page shows the list, and no id is the name of a member. -/
structure Rendering.Sound (s : Rendering) : Prop where
  shows : s.ShowsAll
  clean : s.page.polluted = false
  distinct : (s.tunnels.map (·.id)).Nodup
  plain : ∀ t ∈ s.tunnels, t.id ∉ objectMembers

/-- A card is found by the tunnel's id, if that is not empty. -/
theorem cardId_build (t : TunnelInfo) :
    cardId (buildTunnelCard t) = if t.id = "" then none else some t.id :=
  tunnelView_lawful.keyOf_build t

/-- A card is not the element for no tunnels. -/
theorem isEmptyState_build (t : TunnelInfo) : isEmptyState (buildTunnelCard t) = false := by
  rw [buildTunnelCard_eq]
  rfl

/-- What is shown or hidden is a card as before, or none. -/
theorem refs_setDisplay (value : String) (p : Parent (Node Click)) (r : ℕ) :
    (setDisplay value p r).refs isCard = p.refs isCard := by
  refine List.filter_congr fun s _ => ?_
  show isCard (Function.update p.node r _ s) = isCard (p.node s)
  by_cases hs : s = r
  · rw [hs, Function.update_self]
    unfold isCard
    cases p.node r <;> rfl
  · rw [Function.update_of_ne hs]

/-- Another element is shown or hidden, and the cards stay. -/
theorem items_setDisplay (value : String) {p : Parent (Node Click)} {r : ℕ}
    (h : r ∉ p.refs isCard) : (setDisplay value p r).items isCard = p.items isCard := by
  unfold Parent.items
  rw [refs_setDisplay]
  refine List.map_congr_left fun s hs => Function.update_of_ne ?_ _ _
  rintro rfl
  exact h hs

/-- The cards are removed. -/
theorem refs_removed (p : Parent (Node Click)) :
    ((p.refs isCard).foldl Parent.remove p).refs isCard = [] := by
  obtain ⟨hnode, hchildren⟩ := View.foldl_remove (p.refs isCard) p
  rw [Parent.refs, hnode, hchildren, List.filter_filter, List.filter_eq_nil_iff]
  intro r hr
  simp [Parent.refs, hr]

/-- A new child that is no card changes no card. -/
theorem refs_append {p : Parent (Node Click)} {n : Node Click} (h : isCard n = false) :
    (p.append n).refs isCard = p.refs isCard := by
  have hold : p.children.filter (fun r => isCard (Function.update p.node p.fresh n r)) =
      p.refs isCard := by
    refine List.filter_congr fun s hs => ?_
    have hne : s ≠ p.fresh := by
      rintro rfl
      exact p.fresh_notMem hs
    rw [Function.update_of_ne hne]
  show (p.children ++ [p.fresh]).filter (fun r => isCard (Function.update p.node p.fresh n r)) = _
  rw [List.filter_append, hold, List.filter_cons_of_neg (by simp [h]), List.filter_nil,
    List.append_nil]

/-- An empty list removes all cards. -/
theorem renderTunnels_nil (elementMembers : String → Bool) (page : Page) :
    (renderTunnels elementMembers page []).container.items isCard = [] ∧
      (renderTunnels elementMembers page []).polluted = page.polluted := by
  have hremoved := refs_removed page.container
  have hitems : ∀ {p : Parent (Node Click)}, p.refs isCard = [] → p.items isCard = [] := by
    intro p h
    rw [Parent.items, h, List.map_nil]
  unfold renderTunnels
  rw [if_pos rfl]
  dsimp only
  split
  · exact ⟨hitems ((refs_append rfl).trans hremoved), rfl⟩
  · exact ⟨hitems ((refs_setDisplay ..).trans hremoved), rfl⟩

/-- Any other list is reconciled with the same cards. -/
theorem renderTunnels_ne_nil (elementMembers : String → Bool) {page : Page}
    {data : List TunnelInfo} (hdata : data ≠ [])
    (hcards : ∀ n ∈ page.container.items isCard, ∃ t, n = buildTunnelCard t) :
    ∃ p : Parent (Node Click), p.items isCard = page.container.items isCard ∧
      (renderTunnels elementMembers page data).container =
        tunnelView.reconciled (inherited elementMembers page.polluted) p data ∧
      ((∀ t ∈ data, t.id ≠ "__proto__") →
        (renderTunnels elementMembers page data).polluted = page.polluted) := by
  let hidden :=
    match page.container.children.find? fun r => isEmptyState (page.container.node r) with
    | some r => setDisplay "none" page.container r
    | none => page.container
  -- What is hidden is the element for no tunnels, which is no card.
  have hitems : hidden.items isCard = page.container.items isCard := by
    show (match page.container.children.find? fun r => isEmptyState (page.container.node r) with
      | some r => setDisplay "none" page.container r
      | none => page.container).items isCard = _
    cases hfind : page.container.children.find? fun r => isEmptyState (page.container.node r) with
    | none => rfl
    | some r =>
      refine items_setDisplay "none" fun hr => ?_
      obtain ⟨t, ht⟩ := hcards _ (List.mem_map_of_mem hr)
      have hempty : isEmptyState (page.container.node r) = true := by
        simpa using List.find?_some hfind
      rw [ht, isEmptyState_build] at hempty
      cases hempty
  have hrender : renderTunnels elementMembers page data =
      match tunnelView.reconcile (inherited elementMembers page.polluted) hidden data with
      | .ok container => { page with container }
      | .error (key, container) => ⟨container, page.polluted || key == "__proto__"⟩ :=
    if_neg hdata
  refine ⟨hidden, hitems, ?_, fun hproto => ?_⟩
  · rw [hrender]
    unfold View.reconciled
    cases tunnelView.reconcile (inherited elementMembers page.polluted) hidden data <;> rfl
  · rw [hrender]
    -- The member that is found is not `Object.prototype` itself.
    cases herror : tunnelView.reconcile (inherited elementMembers page.polluted) hidden data with
    | ok container => rfl
    | error e =>
      obtain ⟨t, ht, hkey⟩ := View.key_of_error herror
      have hne : (e.1 == "__proto__") = false := by
        rw [← hkey]
        exact beq_eq_false_iff_ne.mpr (hproto t ht)
      show (page.polluted || e.1 == "__proto__") = page.polluted
      rw [hne, Bool.or_false]

/-- Which names are members of a plain object's prototype. -/
theorem object_eq_false_iff {elementMembers : String → Bool} {name : String} :
    (inherited elementMembers false).object name = false ↔ name ∉ objectMembers := by
  show (objectMembers.contains name || false && name == "className") = false ↔ _
  simp

/-- The cards have been built. -/
theorem Rendering.Sound.built {s : Rendering} (h : s.Sound) :
    ∀ n ∈ s.page.container.items isCard, ∃ t, n = buildTunnelCard t := by
  intro n hn
  rw [h.shows] at hn
  obtain ⟨t, -, rfl⟩ := List.mem_map.mp hn
  exact ⟨t, rfl⟩

/-- The cards are found by their ids. -/
theorem Rendering.Sound.keyed (elementMembers : String → Bool) {s : Rendering} (h : s.Sound)
    {p : Parent (Node Click)} (hitems : p.items isCard = s.page.container.items isCard) :
    tunnelView.Keyed (inherited elementMembers s.page.polluted) p := by
  have hcards : p.items isCard = s.tunnels.map buildTunnelCard := hitems.trans h.shows
  rw [h.clean]
  refine View.keyed_of_items ?_ ?_
  · have hids : (p.items isCard).filterMap cardId =
        (s.tunnels.map (·.id)).filterMap fun id => if id = "" then none else some id := by
      rw [hcards, List.filterMap_map, List.filterMap_map]
      exact List.filterMap_congr fun t _ => cardId_build t
    show ((p.items isCard).filterMap cardId).Nodup
    rw [hids]
    exact View.nodup_filled h.distinct
  · intro n hn key hkey
    change n ∈ p.items isCard at hn
    rw [hcards] at hn
    obtain ⟨t, ht, rfl⟩ := List.mem_map.mp hn
    obtain ⟨-, heq⟩ := Option.ite_none_left_eq_some.mp ((cardId_build t).symm.trans hkey)
    rw [← Option.some.inj heq]
    exact object_eq_false_iff.mpr (h.plain t ht)

/-- A list is shown by the cards that would be built for it, exactly if it keeps the names. -/
theorem Rendering.Sound.shows_iff {elementMembers : String → Bool} {s s' : Rendering}
    {data : TunnelList} (h : s.Sound) (hstep : renderStep elementMembers s data = some s') :
    s'.ShowsAll ↔ KeepsNames s data := by
  obtain rfl := Option.some.inj hstep
  by_cases hdata : data.tunnels = []
  · refine iff_of_true ?_ (.inl hdata)
    unfold Rendering.ShowsAll
    rw [hdata]
    exact (renderTunnels_nil elementMembers s.page).1
  · obtain ⟨p, hitems, hcontainer, -⟩ := renderTunnels_ne_nil elementMembers hdata h.built
    have hiff := View.reconcile_eq_build_iff tunnelView_lawful
      (h.keyed elementMembers hitems) data.distinct
    have hitems' : p.items tunnelView.counts = s.tunnels.map buildTunnelCard :=
      hitems.trans h.shows
    rw [← hcontainer, hitems', h.clean] at hiff
    refine Iff.trans hiff ?_
    simp only [List.forall_mem_map, object_eq_false_iff]
    -- A card has no key exactly if the tunnel's id is empty.
    have hkeyless : (∀ t ∈ s.tunnels, cardId (buildTunnelCard t) ≠ none) ↔
        ∀ t ∈ s.tunnels, t.id ≠ "" := by
      refine forall₂_congr fun t _ => ?_
      rw [cardId_build]
      by_cases hid : t.id = "" <;> simp [hid]
    constructor
    · rintro ⟨hplain, hkeys, hupdate⟩
      have hids := hkeyless.mp hkeys
      refine .inr ⟨hplain, hids, fun t ht t' ht' heq => ?_⟩
      refine (updateTunnelCard_eq_iff heq).mp (hupdate t' ht' t ht ?_)
      show cardId (buildTunnelCard t) = some t'.id
      rw [cardId_build, if_neg (hids t ht), heq]
    · rintro (hnil | ⟨hplain, hids, hnames⟩)
      · exact absurd hnil hdata
      · refine ⟨hplain, hkeyless.mpr hids, fun t' ht' t ht hkey => ?_⟩
        obtain ⟨-, heq⟩ := Option.ite_none_left_eq_some.mp ((cardId_build t).symm.trans hkey)
        have hid : t.id = t'.id := Option.some.inj heq
        exact (updateTunnelCard_eq_iff hid).mpr (hnames t ht t' ht' hid)

/-- What is known of the page stays known. -/
theorem Rendering.Sound.step {elementMembers : String → Bool} {s s' : Rendering}
    {data : TunnelList} (h : s.Sound) (hkeeps : KeepsNames s data)
    (hstep : renderStep elementMembers s data = some s') : s'.Sound := by
  have hshows := (h.shows_iff hstep).mpr hkeeps
  obtain rfl := Option.some.inj hstep
  have hplain : ∀ t ∈ data.tunnels, t.id ∉ objectMembers := by
    rcases hkeeps with hdata | ⟨hplain, -, -⟩
    · rw [hdata]
      exact fun _ => nofun
    · exact hplain
  have hclean : (renderTunnels elementMembers s.page data.tunnels).polluted = s.page.polluted := by
    by_cases hdata : data.tunnels = []
    · rw [hdata]
      exact (renderTunnels_nil elementMembers s.page).2
    · obtain ⟨p, -, -, hpolluted⟩ := renderTunnels_ne_nil elementMembers hdata h.built
      refine hpolluted fun t ht heq => hplain t ht ?_
      rw [heq]
      decide
  exact ⟨hshows, hclean.trans h.clean, data.distinct, hplain⟩

/-- What is known of the page at the start. -/
theorem Rendering.sound_initial : Rendering.initial.Sound where
  shows := rfl
  clean := rfl
  distinct := List.nodup_nil
  plain := nofun

/-- The cards are always those that would be built for the last list, exactly in the runs in which
every list keeps the names. -/
theorem rendering_iff (elementMembers : String → Bool) (lists : List TunnelList) :
    Visits (renderStep elementMembers) Rendering.ShowsAll .initial lists ↔
      Meets (renderStep elementMembers) KeepsNames .initial lists :=
  visits_iff_meets (fun _ _ _ h hkeeps hstep => h.step hkeeps hstep) (fun _ h => h.shows)
    (fun _ _ _ h hkeeps hstep hshows => hkeeps ((h.shows_iff hstep).mp hshows))
    Rendering.sound_initial lists

/-- A tunnel. -/
def tunnelNamed (clientId : String) : TunnelList where
  tunnels := [⟨"7f3c", clientId, "localhost:3000", true, ⟨.stopped, none, none, none, true⟩⟩]
  distinct := List.nodup_singleton _

/-- A tunnel gets another name, and its card keeps the old one. -/
theorem renamed_tunnel_keeps_name : ¬ ∀ (elementMembers : String → Bool) (lists : List TunnelList),
    Visits (renderStep elementMembers) Rendering.ShowsAll .initial lists := by
  intro h
  have hfirst : KeepsNames .initial (tunnelNamed "app") := by
    refine .inr ⟨?_, nofun, nofun⟩
    simp only [tunnelNamed, List.mem_singleton, forall_eq]
    decide
  have hshows := ((h (fun _ => false) [tunnelNamed "app", tunnelNamed "web"]).2 _ rfl).2 _ rfl
  rcases ((Rendering.sound_initial.step hfirst rfl).shows_iff rfl).mp hshows with hnil | hkeeps
  · cases hnil
  · have hname := hkeeps.2.2 _ List.mem_cons_self _ List.mem_cons_self rfl
    revert hname
    decide

end ZoTunnel.ClientPage
