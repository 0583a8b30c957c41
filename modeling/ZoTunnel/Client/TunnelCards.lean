import ZoTunnel.Lib.Dom

/-!
# The cards of the tunnels

The client's page (`web/client/app.js`) shows a card for each tunnel. `buildTunnelCard` builds one,
and `updateTunnelCard` patches one that is there already to what it would be for a tunnel: each part
is looked up in the card and is set, inserted or removed. Of a card that `buildTunnelCard` has built
it leaves nothing as it was but the id and the name (`updateTunnelCard_build`).
-/

namespace ZoTunnel.ClientPage

open Dom

/-- Server connection state. -/
inductive TunnelState where
  | connected
  | connecting
  | error
  | stopped
  deriving DecidableEq, Repr

/-- The word for a state, which the API gives and the classes contain. -/
def TunnelState.word : TunnelState → String
  | .connected => "connected"
  | .connecting => "connecting"
  | .error => "error"
  | .stopped => "stopped"

/-- Serializable status for the API. -/
structure TunnelStatusInfo where
  state : TunnelState
  route : Option String
  connectedSinceSecs : Option ℕ
  error : Option String
  /-- Whether the local service is reachable. -/
  localReachable : Bool
  deriving DecidableEq, Repr

/-- Info returned by the API for each tunnel. -/
structure TunnelInfo where
  id : String
  clientId : String
  localAddr : String
  enabled : Bool
  status : TunnelStatusInfo
  deriving DecidableEq, Repr

/-- What a click can do. -/
inductive Click where
  | openAddModal
  | openEditModal (t : TunnelInfo)
  | openDeleteModal (t : TunnelInfo)
  | actionTunnel (id action : String)
  deriving DecidableEq, Repr

/-- A duration in words. -/
def formatDuration : Option ℕ → String
  | none => "—"
  | some secs =>
    if secs < 60 then toString secs ++ "s"
    else if secs < 3600 then toString (secs / 60) ++ "m " ++ toString (secs % 60) ++ "s"
    else
      let h := secs / 3600
      let m := secs % 3600 / 60
      toString h ++ "h " ++ toString m ++ "m"

/-- The label of a state. -/
def stateLabel : TunnelState → String
  | .connected => "Online"
  | .connecting => "Connecting"
  | .error => "Error"
  | .stopped => "Stopped"

/-- A text that is neither missing nor empty. -/
def truthy : Option String → Option String
  | some s => if s = "" then none else some s
  | none => none

/-- The text of a card's uptime, if it shows one. -/
def uptimeText (t : TunnelInfo) : Option String :=
  if t.status.state = .connected ∧ t.status.connectedSinceSecs ≠ none then
    some ("⏱ " ++ formatDuration t.status.connectedSinceSecs)
  else none

/-- The text of a card's error, if it shows one. -/
def errorText (t : TunnelInfo) : Option String :=
  if t.status.state = .error then truthy t.status.error else none

/-- A button with a class, a text and what a click does. -/
def button (className : List String) (text : String) (click : Click) : Node Click :=
  (createEl "button" className text).set ({ · with onClick := some click })

/-- The local address, in its element. -/
def localAddress (localAddr : String) : Nodes Click :=
  (createEl "span" ["tunnel-local-arrow"] "→").before (.text (" " ++ localAddr) .nil)

/-- The uptime. -/
def newMeta (text : String) : Node Click :=
  (createEl "div" ["tunnel-meta"] "").appendChild (createEl "span" ["tunnel-meta-item"] text)

/-- The dual status tags, in their element. -/
def dualTags (state : TunnelState) (localOk : Bool) : Nodes Click :=
  let serverTag := createEl "span" ["tunnel-status-tag", state.word] ""
  let serverTag := serverTag.appendChild (createEl "span" ["status-dot", state.word] "")
  let serverTag := serverTag.appendChild (.text ("Server: " ++ stateLabel state))
  let localClass := if localOk then "local-up" else "local-down"
  let localTag := createEl "span" ["tunnel-status-tag", localClass] ""
  let localTag := localTag.appendChild (createEl "span" ["status-dot", localClass] "")
  let localTag := localTag.appendChild (.text ("Local: " ++ if localOk then "Up" else "Down"))
  serverTag.before (localTag.before .nil)

/-- The buttons, in their element. -/
def actions (t : TunnelInfo) : Nodes Click :=
  let state := t.status.state
  let btnEdit := button ["btn", "btn-secondary", "btn-sm"] "✏️ Edit" (.openEditModal t)
  let btnDel := button ["btn", "btn-danger", "btn-sm"] "🗑 Delete" (.openDeleteModal t)
  if state = .connected ∨ state = .connecting then
    let btnStop := button ["btn", "btn-warning", "btn-sm"] "⏹ Stop" (.actionTunnel t.id "stop")
    let btnRestart :=
      button ["btn", "btn-secondary", "btn-sm"] "🔄 Restart" (.actionTunnel t.id "restart")
    btnEdit.before (btnStop.before (btnRestart.before (btnDel.before .nil)))
  else
    let btnStart := button ["btn", "btn-success", "btn-sm"] "▶ Start" (.actionTunnel t.id "start")
    btnEdit.before (btnStart.before (btnDel.before .nil))

/-- The card of a tunnel. -/
def buildTunnelCard (t : TunnelInfo) : Node Click :=
  let state := t.status.state
  let localOk := t.status.localReachable
  let card := (createEl "div" ["tunnel-card", state.word] "").set ({ · with dataId := some t.id })
  let top := createEl "div" ["tunnel-card-top"] ""
  let info := createEl "div" ["tunnel-info"] ""
  -- Name row
  let nameRow := createEl "div" ["tunnel-name"] ""
  let nameRow := nameRow.appendChild (createEl "span" ["status-dot", state.word] "")
  let nameRow := nameRow.appendChild (.text t.clientId)
  let info := info.appendChild nameRow
  -- Route
  let info := match truthy t.status.route with
    | some route => info.appendChild (createEl "div" ["tunnel-route"] route)
    | none => info
  -- Local address
  let localEl := createEl "div" ["tunnel-local"] ""
  let info := info.appendChild (localEl.appendChildren (localAddress t.localAddr))
  -- Uptime
  let info := match uptimeText t with
    | some text => info.appendChild (newMeta text)
    | none => info
  -- Error
  let info := match errorText t with
    | some error => info.appendChild (createEl "div" ["tunnel-error"] error)
    | none => info
  let top := top.appendChild info
  -- Dual status tags
  let statusTags := createEl "div" ["status-tags"] ""
  let top := top.appendChild (statusTags.appendChildren (dualTags state localOk))
  let card := card.appendChild top
  -- Actions
  let bottom := createEl "div" ["tunnel-card-bottom"] ""
  card.appendChild (bottom.appendChildren (actions t))

/-! ## The patches -/

/-- The route is set, inserted before the local address, or removed. -/
def updateRoute (card : Node Click) : Option String → Node Click
  | some route =>
    match card.modifyClass "tunnel-route" (setText route) with
    | some card => card
    | none => card.patch "tunnel-local" (insertedBefore (createEl "div" ["tunnel-route"] route))
  | none => card.patch "tunnel-route" removed

/-- The uptime is set, inserted behind the local address, or removed. -/
def updateMeta (card : Node Click) : Option String → Node Click
  | some text =>
    let setItem : Element Click → Nodes Click → Nodes Click → Nodes Click := fun e cs next =>
      .element e ((cs.modifyClass "tunnel-meta-item" (setText text)).getD cs) next
    match card.modifyClass "tunnel-meta" setItem with
    | some card => card
    | none => card.patch "tunnel-local" (insertedAfter (newMeta text))
  | none => card.patch "tunnel-meta" removed

/-- The error is set, inserted behind the uptime or the local address, or removed. -/
def updateError (card : Node Click) : Option String → Node Click
  | some error =>
    match card.modifyClass "tunnel-error" (setText error) with
    | some card => card
    | none =>
      let newError := createEl "div" ["tunnel-error"] error
      match card.modifyClass "tunnel-meta" (insertedAfter newError) with
      | some card => card
      | none => card.patch "tunnel-local" (insertedAfter newError)
  | none => card.patch "tunnel-error" removed

/-- The card that is there, patched for a tunnel. -/
def updateTunnelCard (card : Node Click) (t : TunnelInfo) : Node Click :=
  let state := t.status.state
  let localOk := t.status.localReachable
  let card := card.set ({ · with className := ["tunnel-card", state.word] })
  let card := card.patchInside "tunnel-name" (·.hasClass "status-dot")
    (setClass ["status-dot", state.word])
  let card := updateRoute card (truthy t.status.route)
  let card := card.patch "tunnel-local" (setChildren (localAddress t.localAddr))
  let card := updateMeta card (uptimeText t)
  let card := updateError card (errorText t)
  let card := card.patch "status-tags" (setChildren (dualTags state localOk))
  card.patch "tunnel-card-bottom" (setChildren (actions t))

/-- The patches of the route leave the card's own element as it is. -/
theorem root_updateRoute (card : Node Click) (route : Option String) :
    (updateRoute card route).root = card.root := by
  unfold updateRoute
  split
  · split
    · rename_i h
      exact root_of_modifyClass h
    · exact root_patch card
  · exact root_patch card

/-- So do those of the uptime. -/
theorem root_updateMeta (card : Node Click) (uptime : Option String) :
    (updateMeta card uptime).root = card.root := by
  unfold updateMeta
  split
  · dsimp only
    split
    · rename_i h
      exact root_of_modifyClass h
    · exact root_patch card
  · exact root_patch card

/-- So do those of the error. -/
theorem root_updateError (card : Node Click) (error : Option String) :
    (updateError card error).root = card.root := by
  unfold updateError
  split
  · split
    · rename_i h
      exact root_of_modifyClass h
    · dsimp only
      split
      · rename_i h
        exact root_of_modifyClass h
      · exact root_patch card
  · exact root_patch card

/-- Of the card's own element only the classes change. -/
theorem root_updateTunnelCard (card : Node Click) (t : TunnelInfo) :
    (updateTunnelCard card t).root = card.root.map fun e =>
      { e with className := ["tunnel-card", t.status.state.word] } := by
  unfold updateTunnelCard
  dsimp only
  rw [root_patch, root_patch, root_updateError, root_updateMeta, root_patch, root_updateRoute,
    root_patchInside]
  cases card <;> rfl

/-! ## The parts of a card -/

/-- What a card shows. -/
structure CardParts where
  id : String
  name : String
  /-- The state in the class of the card, of the dot, and of the tags. -/
  state : TunnelState
  dot : TunnelState
  tags : TunnelState
  localOk : Bool
  route : Option String
  localAddr : String
  uptime : Option String
  error : Option String
  /-- The tunnel that the buttons are for. -/
  owner : TunnelInfo

/-- A node in front of others, if it is there. -/
def optional (n : String → Node Click) (text : Option String) (next : Nodes Click) : Nodes Click :=
  match text with
  | some text => (n text).before next
  | none => next

/-- A node that is not there. -/
theorem optional_none (n : String → Node Click) (next : Nodes Click) :
    optional n none next = next := rfl

/-- The row with the dot and the name. -/
def CardParts.nameRow (c : CardParts) : Nodes Click :=
  .element { tag := "span", className := ["status-dot", c.dot.word] } .nil (.text c.name .nil)

/-- What stands behind the local address. -/
def CardParts.behindLocal (c : CardParts) : Nodes Click :=
  optional newMeta c.uptime (optional (createEl "div" ["tunnel-error"]) c.error .nil)

/-- The name, the route, the local address, and what stands behind it. -/
def CardParts.info (c : CardParts) : Nodes Click :=
  .element { tag := "div", className := ["tunnel-name"] } c.nameRow
    (optional (createEl "div" ["tunnel-route"]) c.route
      (.element { tag := "div", className := ["tunnel-local"] } (localAddress c.localAddr)
        c.behindLocal))

/-- The card around these. -/
def CardParts.around (c : CardParts) (info : Nodes Click) : Node Click :=
  let tags := Nodes.element { tag := "div", className := ["status-tags"] }
    (dualTags c.tags c.localOk) .nil
  let bottom := Nodes.element { tag := "div", className := ["tunnel-card-bottom"] }
    (ClientPage.actions c.owner) .nil
  .element { tag := "div", className := ["tunnel-card", c.state.word], dataId := some c.id }
    (.element { tag := "div", className := ["tunnel-card-top"] }
      (.element { tag := "div", className := ["tunnel-info"] } info tags) bottom)

/-- The card with these parts. -/
def CardParts.card (c : CardParts) : Node Click := c.around c.info

/-- The parts of the card of a tunnel. -/
def TunnelInfo.parts (t : TunnelInfo) : CardParts where
  id := t.id
  name := t.clientId
  state := t.status.state
  dot := t.status.state
  tags := t.status.state
  localOk := t.status.localReachable
  route := truthy t.status.route
  localAddr := t.localAddr
  uptime := uptimeText t
  error := errorText t
  owner := t

/-- The card that is built has these parts. -/
theorem buildTunnelCard_eq (t : TunnelInfo) : buildTunnelCard t = t.parts.card := by
  unfold buildTunnelCard CardParts.card CardParts.info CardParts.behindLocal TunnelInfo.parts
  dsimp only
  cases truthy t.status.route <;> cases uptimeText t <;> cases errorText t <;> rfl

/-! ## Where the parts are found -/

/-- The classes that the patches look for, but for those of the name and the uptime's text. -/
def partClasses : List String :=
  ["tunnel-route", "tunnel-local", "tunnel-meta", "tunnel-error", "status-tags",
    "tunnel-card-bottom"]

/-- None of these is a class inside of the name, the local address, the tags or the buttons. -/
theorem partClasses_inside (c : CardParts) : ∀ part ∈ partClasses,
    part ∉ c.nameRow.classes ∧ part ∉ (localAddress c.localAddr).classes ∧
      part ∉ (dualTags c.tags c.localOk).classes ∧ part ∉ (ClientPage.actions c.owner).classes := by
  have hname : c.nameRow.classes = ["status-dot", c.dot.word] := rfl
  have hlocal : (localAddress c.localAddr).classes = ["tunnel-local-arrow"] := rfl
  have htags : ∀ part ∈ partClasses, part ∉ (dualTags c.tags c.localOk).classes := by
    cases c.tags <;> cases c.localOk <;> decide
  have hdot : ∀ part ∈ partClasses, part ∉ ["status-dot", c.dot.word] := by
    cases c.dot <;> decide
  have hactions : ∀ part ∈ partClasses, part ∉ (ClientPage.actions c.owner).classes := by
    have hstopped : ∀ part ∈ partClasses, part ∉ ["btn", "btn-secondary", "btn-sm", "btn",
      "btn-success", "btn-sm", "btn", "btn-danger", "btn-sm"] := by decide
    have hrunning : ∀ part ∈ partClasses, part ∉ ["btn", "btn-secondary", "btn-sm", "btn",
      "btn-warning", "btn-sm", "btn", "btn-secondary", "btn-sm", "btn", "btn-danger",
      "btn-sm"] := by decide
    unfold ClientPage.actions
    dsimp only
    split
    · exact hrunning
    · exact hstopped
  have hlocal' : ∀ part ∈ partClasses, part ∉ ["tunnel-local-arrow"] := by decide
  rw [hname, hlocal]
  exact fun part hpart =>
    ⟨hdot part hpart, hlocal' part hpart, htags part hpart, hactions part hpart⟩

section

variable {part : String} {f : Element Click → Nodes Click → Nodes Click → Nodes Click}

/-- The search goes past an element with a text and another class. -/
theorem modifyClass_optional {tag : String} {className : List String} (h : part ∉ className)
    (text : Option String) (next : Nodes Click) :
    (optional (createEl tag className) text next).modifyClass part f =
      (next.modifyClass part f).map (optional (createEl tag className) text) := by
  cases text with
  | none => exact Option.map_id'.symm
  | some text =>
    refine modifyClass_of_next h (modifyClass_of_notMem ?_)
    rw [classes_ofText]
    exact List.not_mem_nil

/-- It goes past the uptime. -/
theorem modifyClass_optional_meta (h : part ∉ ["tunnel-meta", "tunnel-meta-item"])
    (text : Option String) (next : Nodes Click) :
    (optional newMeta text next).modifyClass part f =
      (next.modifyClass part f).map (optional newMeta text) := by
  rw [List.mem_cons, not_or] at h
  cases text with
  | none => exact Option.map_id'.symm
  | some text =>
    refine modifyClass_of_next (by simpa using h.1) (modifyClass_of_notMem ?_)
    show part ∉ ["tunnel-meta-item"] ++ ((Nodes.ofText text).classes ++ [])
    rw [classes_ofText]
    simpa using h.2

/-- The classes around the parts are none of theirs. -/
theorem partClasses_outside : ∀ part ∈ partClasses,
    part ∉ ["tunnel-card-top"] ∧ part ∉ ["tunnel-info"] ∧ part ∉ ["tunnel-name"] := by
  decide

/-- The search goes past the name. -/
theorem modifyClass_info (c : CardParts) (hpart : part ∈ partClasses) (next : Nodes Click) :
    (Nodes.element { tag := "div", className := ["tunnel-name"] } c.nameRow next).modifyClass
      part f = (next.modifyClass part f).map
        (.element { tag := "div", className := ["tunnel-name"] } c.nameRow) :=
  modifyClass_of_next (partClasses_outside part hpart).2.2
    (modifyClass_of_notMem (partClasses_inside c part hpart).1)

/-- It goes past the local address. -/
theorem modifyClass_local (c : CardParts) (hpart : part ∈ partClasses)
    (hlocal : part ≠ "tunnel-local") (next : Nodes Click) :
    (Nodes.element { tag := "div", className := ["tunnel-local"] } (localAddress c.localAddr)
      next).modifyClass part f = (next.modifyClass part f).map
        (.element { tag := "div", className := ["tunnel-local"] } (localAddress c.localAddr)) :=
  modifyClass_of_next (by simpa using hlocal)
    (modifyClass_of_notMem (partClasses_inside c part hpart).2.1)

/-- The tags and the buttons are not among the parts. -/
theorem modifyClass_info_none (c : CardParts) (hpart : part ∈ partClasses)
    (hother : part ∉ ["tunnel-route", "tunnel-local", "tunnel-meta", "tunnel-meta-item",
      "tunnel-error"]) : c.info.modifyClass part f = none := by
  simp only [List.mem_cons, List.not_mem_nil, or_false, not_or] at hother
  obtain ⟨hroute, hlocal, hmeta, hitem, herror⟩ := hother
  unfold CardParts.info CardParts.behindLocal
  rw [modifyClass_info c hpart, modifyClass_optional (by simpa using hroute),
    modifyClass_local c hpart hlocal, modifyClass_optional_meta (by simp [hmeta, hitem]),
    modifyClass_optional (by simpa using herror)]
  rfl

/-- What is found in the parts is found in the card. -/
theorem modifyClass_card {c : CardParts} (hpart : part ∈ partClasses) {info : Nodes Click}
    (h : c.info.modifyClass part f = some info) :
    c.card.modifyClass part f = some (c.around info) := by
  obtain ⟨htop, hinfo, -⟩ := partClasses_outside part hpart
  exact congrArg (Option.map _) (modifyClass_of_children htop (modifyClass_of_children hinfo h))

/-- A part that is not among them is not found. -/
theorem modifyClass_card_none {c : CardParts} (hpart : part ∈ partClasses)
    (htags : part ≠ "status-tags") (hbottom : part ≠ "tunnel-card-bottom")
    (h : c.info.modifyClass part f = none) : c.card.modifyClass part f = none := by
  obtain ⟨htop, hinfo, -⟩ := partClasses_outside part hpart
  obtain ⟨-, -, hinTags, hinBottom⟩ := partClasses_inside c part hpart
  have hnil : (Nodes.nil : Nodes Click).modifyClass part f = none := rfl
  show Option.map _ _ = none
  rw [Option.map_eq_none_iff, modifyClass_of_next htop, modifyClass_of_next (by simpa using hbottom)
    (modifyClass_of_notMem hinBottom), hnil]
  · rfl
  · rw [modifyClass_of_next hinfo h, modifyClass_of_next (by simpa using htags)
      (modifyClass_of_notMem hinTags), hnil]
    rfl

end

section

variable (c : CardParts) (f : Element Click → Nodes Click → Nodes Click → Nodes Click)

/-- Where the local address is found. -/
theorem modifyClass_tunnelLocal : c.card.modifyClass "tunnel-local" f = some (c.around
    (.element { tag := "div", className := ["tunnel-name"] } c.nameRow
      (optional (createEl "div" ["tunnel-route"]) c.route
        (f { tag := "div", className := ["tunnel-local"] } (localAddress c.localAddr)
          c.behindLocal)))) := by
  have hpart : "tunnel-local" ∈ partClasses := by decide
  refine modifyClass_card hpart ?_
  unfold CardParts.info
  rw [modifyClass_info c hpart, modifyClass_optional (by decide), modifyClass_of_mem (by simp)]
  rfl

/-- Where the route is found, if there is one. -/
theorem modifyClass_tunnelRoute : c.card.modifyClass "tunnel-route" f = c.route.map fun route =>
    c.around (.element { tag := "div", className := ["tunnel-name"] } c.nameRow
      (f { tag := "div", className := ["tunnel-route"] } (.ofText route)
        (.element { tag := "div", className := ["tunnel-local"] } (localAddress c.localAddr)
          c.behindLocal))) := by
  have hpart : "tunnel-route" ∈ partClasses := by decide
  cases hroute : c.route with
  | some route =>
    refine modifyClass_card hpart ?_
    unfold CardParts.info
    rw [modifyClass_info c hpart, hroute]
    exact congrArg (Option.map _) (modifyClass_of_mem List.mem_cons_self)
  | none =>
    refine modifyClass_card_none hpart (by decide) (by decide) ?_
    unfold CardParts.info CardParts.behindLocal
    rw [modifyClass_info c hpart, hroute, optional_none, modifyClass_local c hpart (by decide),
      modifyClass_optional_meta (by decide), modifyClass_optional (by decide)]
    rfl

/-- Where the uptime is found, if there is one. -/
theorem modifyClass_tunnelMeta : c.card.modifyClass "tunnel-meta" f = c.uptime.map fun uptime =>
    c.around (.element { tag := "div", className := ["tunnel-name"] } c.nameRow
      (optional (createEl "div" ["tunnel-route"]) c.route
        (.element { tag := "div", className := ["tunnel-local"] } (localAddress c.localAddr)
          (f { tag := "div", className := ["tunnel-meta"] }
            ((createEl "span" ["tunnel-meta-item"] uptime).before .nil)
            (optional (createEl "div" ["tunnel-error"]) c.error .nil))))) := by
  have hpart : "tunnel-meta" ∈ partClasses := by decide
  have hlocal (next : Nodes Click) := @modifyClass_local _ f c hpart (by decide) next
  cases huptime : c.uptime with
  | some uptime =>
    refine modifyClass_card hpart ?_
    unfold CardParts.info CardParts.behindLocal
    rw [modifyClass_info c hpart, modifyClass_optional (by decide), hlocal, huptime]
    show Option.map _ (Option.map _ (Option.map _ (Nodes.modifyClass _ _ (.element _ _ _)))) = _
    rw [modifyClass_of_mem (by simp)]
    rfl
  | none =>
    refine modifyClass_card_none hpart (by decide) (by decide) ?_
    unfold CardParts.info CardParts.behindLocal
    rw [modifyClass_info c hpart, modifyClass_optional (by decide), hlocal, huptime, optional_none,
      modifyClass_optional (by decide)]
    rfl

/-- Where the error is found, if there is one. -/
theorem modifyClass_tunnelError : c.card.modifyClass "tunnel-error" f = c.error.map fun error =>
    c.around (.element { tag := "div", className := ["tunnel-name"] } c.nameRow
      (optional (createEl "div" ["tunnel-route"]) c.route
        (.element { tag := "div", className := ["tunnel-local"] } (localAddress c.localAddr)
          (optional newMeta c.uptime
            (f { tag := "div", className := ["tunnel-error"] } (.ofText error) .nil))))) := by
  have hpart : "tunnel-error" ∈ partClasses := by decide
  have hlocal (next : Nodes Click) := @modifyClass_local _ f c hpart (by decide) next
  cases herror : c.error with
  | some error =>
    refine modifyClass_card hpart ?_
    unfold CardParts.info CardParts.behindLocal
    rw [modifyClass_info c hpart, modifyClass_optional (by decide), hlocal,
      modifyClass_optional_meta (by decide), herror]
    show Option.map _ (Option.map _ (Option.map _ (Option.map _
      (Nodes.modifyClass _ _ (.element _ _ _))))) = _
    rw [modifyClass_of_mem (by simp)]
    rfl
  | none =>
    refine modifyClass_card_none hpart (by decide) (by decide) ?_
    unfold CardParts.info CardParts.behindLocal
    rw [modifyClass_info c hpart, modifyClass_optional (by decide), hlocal,
      modifyClass_optional_meta (by decide), herror]
    rfl

/-- Where the tags are found. -/
theorem modifyClass_statusTags : c.card.modifyClass "status-tags" f = some (.element
    { tag := "div", className := ["tunnel-card", c.state.word], dataId := some c.id }
    (.element { tag := "div", className := ["tunnel-card-top"] }
      (.element { tag := "div", className := ["tunnel-info"] } c.info
        (f { tag := "div", className := ["status-tags"] } (dualTags c.tags c.localOk) .nil))
      (.element { tag := "div", className := ["tunnel-card-bottom"] } (ClientPage.actions c.owner)
        .nil))) := by
  have hpart : "status-tags" ∈ partClasses := by decide
  have hinfo : c.info.modifyClass "status-tags" f = none :=
    modifyClass_info_none c hpart (by decide)
  refine congrArg (Option.map _) (modifyClass_of_children (by decide) ?_)
  rw [modifyClass_of_next (by decide) hinfo, modifyClass_of_mem (by simp)]
  rfl

/-- Where the buttons are found. -/
theorem modifyClass_cardBottom : c.card.modifyClass "tunnel-card-bottom" f = some (.element
    { tag := "div", className := ["tunnel-card", c.state.word], dataId := some c.id }
    (.element { tag := "div", className := ["tunnel-card-top"] }
      (.element { tag := "div", className := ["tunnel-info"] } c.info
        (.element { tag := "div", className := ["status-tags"] } (dualTags c.tags c.localOk) .nil))
      (f { tag := "div", className := ["tunnel-card-bottom"] } (ClientPage.actions c.owner)
        .nil))) := by
  have hpart : "tunnel-card-bottom" ∈ partClasses := by decide
  have hnil : (Nodes.nil : Nodes Click).modifyClass "tunnel-card-bottom" f = none := rfl
  have hinfo : c.info.modifyClass "tunnel-card-bottom" f = none :=
    modifyClass_info_none c hpart (by decide)
  show Option.map _ _ = _
  rw [modifyClass_of_next (by decide), modifyClass_of_mem (by simp)]
  · rfl
  · rw [modifyClass_of_next (by decide) hinfo, modifyClass_of_next (by decide)
      (modifyClass_of_notMem (partClasses_inside c _ hpart).2.2.1), hnil]
    rfl

end

/-! ## What the patches do -/

/-- The route of a card changes, and nothing else. -/
theorem updateRoute_card (c : CardParts) (new : Option String) :
    updateRoute c.card new = { c with route := new }.card := by
  cases new with
  | some route =>
    unfold updateRoute Node.patch
    dsimp only
    rw [modifyClass_tunnelRoute, modifyClass_tunnelLocal]
    obtain ⟨id, name, state, dot, tags, localOk, old, localAddr, uptime, error, owner⟩ := c
    cases old <;> rfl
  | none =>
    unfold updateRoute Node.patch
    dsimp only
    rw [modifyClass_tunnelRoute]
    obtain ⟨id, name, state, dot, tags, localOk, old, localAddr, uptime, error, owner⟩ := c
    cases old <;> rfl

/-- The uptime changes, and nothing else. -/
theorem updateMeta_card (c : CardParts) (new : Option String) :
    updateMeta c.card new = { c with uptime := new }.card := by
  cases new with
  | some uptime =>
    unfold updateMeta Node.patch
    dsimp only
    rw [modifyClass_tunnelMeta, modifyClass_tunnelLocal]
    obtain ⟨id, name, state, dot, tags, localOk, route, localAddr, old, error, owner⟩ := c
    cases old <;> rfl
  | none =>
    unfold updateMeta Node.patch
    dsimp only
    rw [modifyClass_tunnelMeta]
    obtain ⟨id, name, state, dot, tags, localOk, route, localAddr, old, error, owner⟩ := c
    cases old <;> rfl

/-- The error changes, and nothing else. -/
theorem updateError_card (c : CardParts) (new : Option String) :
    updateError c.card new = { c with error := new }.card := by
  cases new with
  | some error =>
    unfold updateError Node.patch
    dsimp only
    rw [modifyClass_tunnelError, modifyClass_tunnelMeta, modifyClass_tunnelLocal]
    obtain ⟨id, name, state, dot, tags, localOk, route, localAddr, uptime, old, owner⟩ := c
    cases old with
    | some old => rfl
    | none => cases uptime <;> rfl
  | none =>
    unfold updateError Node.patch
    dsimp only
    rw [modifyClass_tunnelError]
    obtain ⟨id, name, state, dot, tags, localOk, route, localAddr, uptime, old, owner⟩ := c
    cases old <;> rfl

/-- A card is patched to what would be built, but for the id and the name. -/
theorem updateTunnelCard_card (c : CardParts) (t : TunnelInfo) :
    updateTunnelCard c.card t = { t.parts with id := c.id, name := c.name }.card := by
  let s := t.status.state
  have hclass : c.card.set ({ · with className := ["tunnel-card", s.word] }) =
      { c with state := s }.card := rfl
  -- One fact for each patch, in their order.
  have hdot (c : CardParts) : c.card.patchInside "tunnel-name" (·.hasClass "status-dot")
      (setClass ["status-dot", s.word]) = { c with dot := s }.card := by
    obtain ⟨id, name, state, dot, tags, localOk, route, localAddr, uptime, error, owner⟩ := c
    cases state <;> rfl
  have hlocal (c : CardParts) :
      c.card.patch "tunnel-local" (setChildren (localAddress t.localAddr)) =
        { c with localAddr := t.localAddr }.card := by
    unfold Node.patch
    rw [modifyClass_tunnelLocal]
    rfl
  have htags (c : CardParts) : c.card.patch "status-tags"
      (setChildren (dualTags s t.status.localReachable)) =
        { c with tags := s, localOk := t.status.localReachable }.card := by
    unfold Node.patch
    rw [modifyClass_statusTags]
    rfl
  have hbottom (c : CardParts) : c.card.patch "tunnel-card-bottom"
      (setChildren (ClientPage.actions t)) = { c with owner := t }.card := by
    unfold Node.patch
    rw [modifyClass_cardBottom]
    rfl
  unfold updateTunnelCard
  dsimp only
  rw [hclass, hdot, updateRoute_card, hlocal, updateMeta_card, updateError_card, htags, hbottom]
  rfl

/-- A card that has been built for a tunnel is patched to what would be built for another one, but
for the id and the name. -/
theorem updateTunnelCard_build (t t' : TunnelInfo) : updateTunnelCard (buildTunnelCard t) t' =
    { t'.parts with id := t.id, name := t.clientId }.card := by
  rw [buildTunnelCard_eq, updateTunnelCard_card]
  rfl

/-- The same cards show the same name: it is the text behind the dot. -/
theorem name_eq_of_card {c c' : CardParts} (h : c.card = c'.card) : c.name = c'.name := by
  obtain ⟨-, hchildren⟩ := Node.element.inj h
  obtain ⟨-, htop, -⟩ := Nodes.element.inj hchildren
  obtain ⟨-, hinfo, -⟩ := Nodes.element.inj htop
  obtain ⟨-, hrow, -⟩ := Nodes.element.inj hinfo
  obtain ⟨-, -, hname⟩ := Nodes.element.inj hrow
  exact (Nodes.text.inj hname).1

/-- A card that is patched for a tunnel of the same id is the one that would be built for it,
exactly if the name is the same. -/
theorem updateTunnelCard_eq_iff {t t' : TunnelInfo} (h : t.id = t'.id) :
    updateTunnelCard (buildTunnelCard t) t' = buildTunnelCard t' ↔ t.clientId = t'.clientId := by
  rw [updateTunnelCard_build, buildTunnelCard_eq]
  constructor
  · exact name_eq_of_card
  · intro hname
    rw [h, hname]
    rfl

end ZoTunnel.ClientPage
