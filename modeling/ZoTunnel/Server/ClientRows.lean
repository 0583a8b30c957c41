import ZoTunnel.Lib.Dom
import ZoTunnel.Lib.Reconcile

/-!
# The clients table of the dashboard

The dashboard's page (`web/app.js`) shows the connected clients in a table. `refresh` brings the
rows up to date when a list has arrived: a keyed reconciliation with `buildClientRow` and
`updateClientRow`. `clients_shown_iff` says which lists the table shows, whatever lists have arrived
before.

The rows are kept in a plain object under the clients' names. A client with the name of a member of
`Object.prototype` finds that member where there is no row, and the refresh ends there.
-/

namespace ZoTunnel.DashboardPage

open Dom Reconcile

/-- One client of the list. -/
structure ClientItem where
  clientId : String
  tcpPort : Option ℕ
  connectedAtSecs : ℕ
  totalRequests : ℕ
  activeStreams : ℕ
  bytesIn : ℕ
  bytesOut : ℕ
  deriving DecidableEq, Repr

/-- How JavaScript writes numbers. -/
structure Numbers where
  toLocaleString : ℕ → String
  /-- `Math.floor(Math.log(bytes) / Math.log(1024))`. -/
  logFloor : ℕ → ℕ
  /-- `parseFloat((bytes / Math.pow(1024, i)).toFixed(1))`. -/
  scaled : ℕ → ℕ → String

/-- A number of bytes in words. -/
def formatBytes (N : Numbers) (bytes : ℕ) : String :=
  if bytes = 0 then "0 B"
  else
    let sizes := ["B", "KB", "MB", "GB", "TB"]
    let i := N.logFloor bytes
    N.scaled bytes i ++ " " ++ sizes[i]?.getD "undefined"

/-- A duration in words. -/
def formatDuration (secs : ℕ) : String :=
  if secs < 60 then toString secs ++ "s"
  else if secs < 3600 then toString (secs / 60) ++ "m " ++ toString (secs % 60) ++ "s"
  else
    let h := secs / 3600
    let m := secs % 3600 / 60
    toString h ++ "h " ++ toString m ++ "m"

/-- A number with separators. -/
def formatNumber (N : Numbers) (n : ℕ) : String := N.toLocaleString n

/-- The color and the text of a client's mode. -/
def modeText (c : ClientItem) : String × String :=
  match c.tcpPort with
  | some (port + 1) => ("var(--orange)", "TCP:" ++ toString (port + 1))
  | _ => ("var(--green)", "HTTP")

/-- The row that is there, patched for a client. -/
def updateClientRow (N : Numbers) (tr : Node Empty) (c : ClientItem) : Node Empty :=
  -- Mode
  let tr := tr.patchInside "client-mode" (·.tag == "span") fun e _ next =>
    .element { e with color := (modeText c).1 } (.ofText (modeText c).2) next
  -- Connected
  let tr := tr.patch "client-connected" (setText (formatDuration c.connectedAtSecs ++ " ago"))
  -- Requests
  let tr := tr.patch "client-requests" (setText (formatNumber N c.totalRequests))
  -- Active
  let tr := tr.patch "client-active" (setText (toString c.activeStreams))
  -- Data In
  let tr := tr.patch "client-in" (setText (formatBytes N c.bytesIn))
  -- Data Out
  tr.patch "client-out" (setText (formatBytes N c.bytesOut))

/-- The row of a client. -/
def buildClientRow (N : Numbers) (c : ClientItem) : Node Empty :=
  let tr := (createEl "tr" [] "").set ({ · with dataId := some c.clientId })
  -- Client ID
  let tr := tr.appendChild (createEl "td" ["client-id"] c.clientId)
  -- Mode
  let modeSpan := createEl "span" [] ""
  let tr := tr.appendChild ((createEl "td" ["client-mode"] "").appendChild modeSpan)
  -- Connected
  let tr := tr.appendChild (createEl "td" ["client-connected"] "")
  -- Requests
  let tr := tr.appendChild (createEl "td" ["client-requests"] "")
  -- Active
  let tr := tr.appendChild (createEl "td" ["client-active"] "")
  -- Data In
  let tr := tr.appendChild (createEl "td" ["client-in"] "")
  -- Data Out
  let tr := tr.appendChild (createEl "td" ["client-out"] "")
  updateClientRow N tr c

/-! ## The cells of a row -/

/-- What a row shows. -/
structure RowParts where
  id : String
  name : String
  color : String
  mode : String
  connected : String
  requests : String
  active : String
  bytesIn : String
  bytesOut : String

/-- A cell in front of others. -/
def cell (className text : String) (next : Nodes Empty) : Nodes Empty :=
  .element { tag := "td", className := [className] } (.ofText text) next

/-- The cell of the mode, in front of others. -/
def modeCell (color text : String) (next : Nodes Empty) : Nodes Empty :=
  .element { tag := "td", className := ["client-mode"] }
    (.element { tag := "span", color } (.ofText text) .nil) next

/-- The row with these parts. -/
def RowParts.row (r : RowParts) : Node Empty :=
  .element { tag := "tr", dataId := some r.id }
    (cell "client-id" r.name (modeCell r.color r.mode (cell "client-connected" r.connected
      (cell "client-requests" r.requests (cell "client-active" r.active
        (cell "client-in" r.bytesIn (cell "client-out" r.bytesOut .nil)))))))

/-- What the row of a client shows. -/
def ClientItem.parts (N : Numbers) (c : ClientItem) : RowParts where
  id := c.clientId
  name := c.clientId
  color := (modeText c).1
  mode := (modeText c).2
  connected := formatDuration c.connectedAtSecs ++ " ago"
  requests := formatNumber N c.totalRequests
  active := toString c.activeStreams
  bytesIn := formatBytes N c.bytesIn
  bytesOut := formatBytes N c.bytesOut

section

variable {part : String} {f : Element Empty → Nodes Empty → Nodes Empty → Nodes Empty}

/-- A search for another cell goes past a cell. -/
@[simp]
theorem modifyClass_cell {className : String} (h : part ≠ className) (text : String)
    (next : Nodes Empty) : (cell className text next).modifyClass part f =
      (next.modifyClass part f).map (cell className text) := by
  refine modifyClass_of_next (by simpa using h) (modifyClass_of_notMem ?_)
  rw [classes_ofText]
  exact List.not_mem_nil

/-- So it does past the cell of the mode. -/
@[simp]
theorem modifyClass_modeCell (h : part ≠ "client-mode") (color text : String) (next : Nodes Empty) :
    (modeCell color text next).modifyClass part f =
      (next.modifyClass part f).map (modeCell color text) := by
  refine modifyClass_of_next (by simpa using h) (modifyClass_of_notMem ?_)
  show part ∉ [] ++ ((Nodes.ofText text).classes ++ [])
  rw [classes_ofText]
  exact List.not_mem_nil

/-- The cell is found. -/
@[simp]
theorem modifyClass_self (text new : String) (next : Nodes Empty) :
    (cell part text next).modifyClass part (setText new) = some (cell part new next) :=
  modifyClass_of_mem List.mem_cons_self

end

/-- The cell of the mode is patched. -/
theorem patchInside_mode (r : RowParts) (color mode : String) :
    r.row.patchInside "client-mode" (·.tag == "span") (fun e _ next =>
      .element { e with color } (.ofText mode) next) = { r with color, mode }.row := by
  have hname (f : Element Empty → Nodes Empty → Nodes Empty → Nodes Empty) (next : Nodes Empty) :
      (cell "client-id" r.name next).modify (·.hasClass "client-mode") (·.tag == "span") f false =
        (next.modify (·.hasClass "client-mode") (·.tag == "span") f false).map
          (cell "client-id" r.name) := by
    unfold cell
    rw [Nodes.modify]
    simp [modify_ofText, Element.hasClass]
  unfold RowParts.row Node.patchInside
  dsimp only
  rw [show Element.hasClass _ "client-mode" = false from rfl, hname]
  rfl

/-- A row is patched to show what the client's would show, but for the id and the name. -/
theorem updateClientRow_row (N : Numbers) (r : RowParts) (c : ClientItem) :
    updateClientRow N r.row c = { c.parts N with id := r.id, name := r.name }.row := by
  have hconnected (r : RowParts) (text : String) : r.row.patch "client-connected" (setText text) =
      { r with connected := text }.row := by
    simp [RowParts.row, Node.patch, Node.modifyClass]
  have hrequests (r : RowParts) (text : String) : r.row.patch "client-requests" (setText text) =
      { r with requests := text }.row := by
    simp [RowParts.row, Node.patch, Node.modifyClass]
  have hactive (r : RowParts) (text : String) : r.row.patch "client-active" (setText text) =
      { r with active := text }.row := by
    simp [RowParts.row, Node.patch, Node.modifyClass]
  have hin (r : RowParts) (text : String) : r.row.patch "client-in" (setText text) =
      { r with bytesIn := text }.row := by
    simp [RowParts.row, Node.patch, Node.modifyClass]
  have hout (r : RowParts) (text : String) : r.row.patch "client-out" (setText text) =
      { r with bytesOut := text }.row := by
    simp [RowParts.row, Node.patch, Node.modifyClass]
  unfold updateClientRow
  dsimp only
  rw [patchInside_mode, hconnected, hrequests, hactive, hin, hout]
  rfl

/-- The row that is built shows the client. -/
theorem buildClientRow_eq (N : Numbers) (c : ClientItem) :
    buildClientRow N c = (c.parts N).row := by
  have hblank : buildClientRow N c =
      updateClientRow N (RowParts.mk c.clientId c.clientId "" "" "" "" "" "" "").row c := by
    unfold buildClientRow
    congr 1
  rw [hblank, updateClientRow_row]
  rfl

/-- The row of a client is patched to what would be built for another one of its name. -/
theorem updateClientRow_build (N : Numbers) (c c' : ClientItem) :
    updateClientRow N (buildClientRow N c) c' =
      buildClientRow N { c' with clientId := c.clientId } := by
  rw [buildClientRow_eq, updateClientRow_row, buildClientRow_eq]
  rfl

/-! ## The table -/

/-- The name by which a row is found. -/
def rowId (n : Node Empty) : Option String :=
  match n.root with
  | some e => if e.tag = "tr" ∧ e.dataId ≠ some "" then e.dataId else none
  | none => none

/-- How the clients are shown. Whatever stands in the table counts as a sibling. -/
def clientView (N : Numbers) : View ClientItem (Node Empty) where
  key c := c.clientId
  build := buildClientRow N
  update := updateClientRow N
  counts _ := true
  keyOf := rowId

/-- The names that an object inherits, with those that an element has. -/
def inherited (elementMembers : String → Bool) : Inherited where
  object name := objectMembers.contains name
  element name := elementMembers name || objectMembers.contains name
  proto := by decide
  notEmpty := by decide

/-- The row that says that there are no clients. -/
def emptyRow : Node Empty :=
  (createEl "tr" [] "").appendChild
    ((createEl "td" ["empty"] "No clients connected").set ({ · with colSpan := 7 }))

/-- `querySelector("tr td.empty")` finds something in the node. -/
def hasEmptyCell (n : Node Empty) : Bool :=
  match n with
  | .text _ => false
  | .element e cs =>
    (cs.modify (·.tag == "tr") (fun m => m.tag == "td" && m.hasClass "empty") removed
      (e.tag == "tr")).isSome

/-- The table has the row that says that there are no clients. -/
def hasEmptyRow (tbody : Parent (Node Empty)) : Bool :=
  tbody.children.any fun r => hasEmptyCell (tbody.node r)

/-- `replaceChildren`, and then `appendChild` of each of the new children. -/
def replaceChildren (children : List (Node Empty)) : Parent (Node Empty) where
  children := List.range children.length
  nodup := List.nodup_range
  node r := children[r]?.getD (.text "")

/-- The table of the page: its one row, with the blanks around it. -/
def initialBody : Parent (Node Empty) where
  children := [0, 1, 2]
  nodup := by decide
  node
    | 0 => .text "\n                        "
    | 1 => emptyRow
    | _ => .text "\n                    "

/-- The table when `refresh` has received the list of the clients. -/
def refresh (N : Numbers) (elementMembers : String → Bool) (tbody : Parent (Node Empty))
    (clients : List ClientItem) : Parent (Node Empty) :=
  if clients = [] then replaceChildren [emptyRow]
  else
    -- Remove the empty row if it exists
    let tbody := if hasEmptyRow tbody then replaceChildren [] else tbody
    (clientView N).reconciled (inherited elementMembers) tbody clients

/-- The reconciliation relies on this. -/
theorem clientView_lawful (N : Numbers) : (clientView N).Lawful where
  counts_of_key _ := rfl
  keyOf_ne_empty := by
    intro n h
    change rowId n = some "" at h
    unfold rowId at h
    split at h
    · obtain ⟨⟨-, hne⟩, heq⟩ := Option.ite_none_right_eq_some.mp h
      exact hne heq
    · cases h
  counts_build _ := rfl
  keyOf_build c := by
    show rowId (buildClientRow N c) = _
    rw [buildClientRow_eq]
    show (if _ ∧ some c.clientId ≠ some "" then some c.clientId else none) = _
    by_cases h : c.clientId = "" <;> simp [clientView, h]
  keyOf_update := by
    intro n key c h
    have hroot : (updateClientRow N n c).root = n.root := by
      unfold updateClientRow
      dsimp only
      rw [root_patch, root_patch, root_patch, root_patch, root_patch, root_patchInside]
    show rowId (updateClientRow N n c) = some key
    unfold rowId
    rw [hroot]
    exact h

/-! ## What the table shows -/

/-- A list of clients with distinct names. -/
structure ClientList where
  clients : List ClientItem
  distinct : (clients.map (·.clientId)).Nodup

/-- What stands in the table. -/
def bodyNodes (tbody : Parent (Node Empty)) : List (Node Empty) := tbody.children.map tbody.node

/-- The table shows the clients, one row each, or says that there are none. -/
def ShowsClients (N : Numbers) (tbody : Parent (Node Empty)) (clients : List ClientItem) : Prop :=
  bodyNodes tbody = if clients = [] then [emptyRow] else clients.map (buildClientRow N)

/-- There are no clients; or none has the name of a member of `Object.prototype`, and no row of the
table has the empty name. -/
def NamesFree (tbody : Parent (Node Empty)) (clients : List ClientItem) : Prop :=
  clients = [] ∨ (∀ c ∈ clients, c.clientId ∉ objectMembers) ∧
    (hasEmptyRow tbody = true ∨ ∀ n ∈ bodyNodes tbody, n.root.bind (·.dataId) ≠ some "")

/-- Everything in a table counts. -/
theorem items_eq_bodyNodes (N : Numbers) (tbody : Parent (Node Empty)) :
    tbody.items (clientView N).counts = bodyNodes tbody := by
  have hrefs : tbody.refs (clientView N).counts = tbody.children :=
    List.filter_eq_self.mpr fun _ _ => rfl
  unfold Parent.items
  rw [hrefs]
  rfl

/-- A table says that there are no clients, or it has rows of clients, found by their names. -/
def BodySound (N : Numbers) (elementMembers : String → Bool) (tbody : Parent (Node Empty)) : Prop :=
  hasEmptyRow tbody = true ∨ (∀ n ∈ bodyNodes tbody, ∃ c, n = buildClientRow N c) ∧
    (clientView N).Keyed (inherited elementMembers) tbody

variable {N : Numbers} {elementMembers : String → Bool} {tbody : Parent (Node Empty)}
  {clients : List ClientItem}

/-- The table that is reconciled has rows of clients. -/
theorem BodySound.cleared (h : BodySound N elementMembers tbody) :
    let cleared := if hasEmptyRow tbody then replaceChildren [] else tbody
    (∀ n ∈ bodyNodes cleared, ∃ c, n = buildClientRow N c) ∧
      (clientView N).Keyed (inherited elementMembers) cleared := by
  dsimp only
  split_ifs with hempty
  · exact ⟨nofun, List.nodup_nil, nofun⟩
  · exact h.resolve_left hempty

/-- A refresh leaves such a table. -/
theorem BodySound.refresh (h : BodySound N elementMembers tbody)
    (hdistinct : (clients.map (·.clientId)).Nodup) :
    BodySound N elementMembers (refresh N elementMembers tbody clients) := by
  obtain ⟨hrows, hkeyed⟩ := h.cleared
  unfold DashboardPage.refresh
  by_cases hnil : clients = []
  · rw [if_pos hnil]
    exact .inl rfl
  · rw [if_neg hnil]
    have hupdate : ∀ n c, (∃ c, n = buildClientRow N c) →
        ∃ c', updateClientRow N n c = buildClientRow N c' := by
      rintro _ c ⟨c, rfl⟩
      exact ⟨_, updateClientRow_build N ..⟩
    have hall := View.reconciled_forall (fun c => ⟨c, rfl⟩) hupdate (clientView_lawful N) hkeyed
      hdistinct (by rwa [items_eq_bodyNodes])
    rw [items_eq_bodyNodes] at hall
    exact .inr ⟨hall, View.reconciled_keyed (clientView_lawful N) hkeyed hdistinct⟩

/-- A row is found by the client's name, if that is not empty. -/
theorem rowId_build (c : ClientItem) :
    rowId (buildClientRow N c) = if c.clientId = "" then none else some c.clientId :=
  (clientView_lawful N).keyOf_build c

/-- The row of a client has the client's name. -/
theorem dataId_build (c : ClientItem) :
    (buildClientRow N c).root.bind (·.dataId) = some c.clientId := by
  rw [buildClientRow_eq]
  rfl

/-- A list is shown exactly if its names are free. -/
theorem BodySound.shows_iff (h : BodySound N elementMembers tbody)
    (hdistinct : (clients.map (·.clientId)).Nodup) :
    ShowsClients N (DashboardPage.refresh N elementMembers tbody clients) clients ↔
      NamesFree tbody clients := by
  obtain ⟨hrows, hkeyed⟩ := h.cleared
  unfold ShowsClients DashboardPage.refresh
  by_cases hnil : clients = []
  · rw [if_pos hnil, if_pos hnil]
    exact iff_of_true rfl (.inl hnil)
  · rw [if_neg hnil, if_neg hnil]
    have hiff := View.reconcile_eq_build_iff (clientView_lawful N) hkeyed hdistinct
    rw [items_eq_bodyNodes, items_eq_bodyNodes] at hiff
    -- A row that is found is patched to what would be built.
    have hupdate : ∀ c ∈ clients, ∀ n ∈ bodyNodes
        (if hasEmptyRow tbody then replaceChildren [] else tbody),
        rowId n = some c.clientId → updateClientRow N n c = buildClientRow N c := by
      intro c _ n hn hkey
      obtain ⟨c', rfl⟩ := hrows n hn
      rw [rowId_build] at hkey
      obtain ⟨-, hname⟩ := Option.ite_none_left_eq_some.mp hkey
      rw [updateClientRow_build, Option.some.inj hname]
    have hkeyless : (∀ n ∈ bodyNodes (if hasEmptyRow tbody then replaceChildren [] else tbody),
        rowId n ≠ none) ↔
        (hasEmptyRow tbody = true ∨ ∀ n ∈ bodyNodes tbody, n.root.bind (·.dataId) ≠ some "") := by
      by_cases hempty : hasEmptyRow tbody = true
      · rw [if_pos hempty]
        exact iff_of_true nofun (.inl hempty)
      · rw [if_neg hempty] at hrows ⊢
        rw [or_iff_right hempty]
        refine forall₂_congr fun n hn => not_congr ?_
        obtain ⟨c, rfl⟩ := hrows n hn
        rw [rowId_build, dataId_build]
        simp
    have hplain : (∀ c ∈ clients, (inherited elementMembers).object c.clientId = false) ↔
        ∀ c ∈ clients, c.clientId ∉ objectMembers := by
      refine forall₂_congr fun c _ => ?_
      show objectMembers.contains c.clientId = false ↔ _
      simp
    calc bodyNodes ((clientView N).reconciled (inherited elementMembers) _ clients) =
          clients.map (buildClientRow N)
      _ ↔ _ := hiff
      _ ↔ (∀ c ∈ clients, c.clientId ∉ objectMembers) ∧
          (hasEmptyRow tbody = true ∨ ∀ n ∈ bodyNodes tbody, n.root.bind (·.dataId) ≠ some "") :=
        and_congr hplain ((and_iff_left hupdate).trans hkeyless)
      _ ↔ NamesFree tbody clients := (or_iff_right hnil).symm

/-- The lists that have arrived leave a table that says that there are no clients, or has rows of
clients. -/
theorem bodySound_foldl (before : List ClientList) (h : BodySound N elementMembers tbody) :
    BodySound N elementMembers
      (before.foldl (fun tbody l => refresh N elementMembers tbody l.clients) tbody) := by
  induction before generalizing tbody with
  | nil => exact h
  | cons l before ih => exact ih (h.refresh l.distinct)

/-- Whatever lists have arrived before, the table shows the next one exactly if its names are
free. -/
theorem clients_shown_iff (N : Numbers) (elementMembers : String → Bool) (before : List ClientList)
    (l : ClientList) :
    let tbody := before.foldl (fun tbody l => refresh N elementMembers tbody l.clients) initialBody
    ShowsClients N (refresh N elementMembers tbody l.clients) l.clients ↔
      NamesFree tbody l.clients :=
  (bodySound_foldl before (.inl rfl)).shows_iff l.distinct

/-- A client that is connected under a name. -/
def clientNamed (name : String) : ClientList where
  clients := [⟨name, none, 5, 0, 0, 0, 0⟩]
  distinct := List.nodup_singleton _

/-- A client with the name of a member of `Object.prototype` is not shown. -/
theorem constructor_not_shown : ¬ ∀ (N : Numbers) (elementMembers : String → Bool)
    (before : List ClientList) (l : ClientList),
    let tbody := before.foldl (fun tbody l => refresh N elementMembers tbody l.clients) initialBody
    ShowsClients N (refresh N elementMembers tbody l.clients) l.clients := by
  intro h
  let N : Numbers := ⟨toString, fun _ => 0, fun n _ => toString n⟩
  have hshows := h N (fun _ => false) [] (clientNamed "constructor")
  have hsound : BodySound N (fun _ => false) initialBody := .inl rfl
  rcases (hsound.shows_iff (clientNamed "constructor").distinct).mp hshows with hnil | ⟨hplain, -⟩
  · cases hnil
  · refine hplain _ List.mem_cons_self ?_
    decide

end ZoTunnel.DashboardPage
