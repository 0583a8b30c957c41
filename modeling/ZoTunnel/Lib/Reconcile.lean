import Mathlib.Data.List.AList
import Mathlib.Logic.Function.Basic

/-!
# Keyed reconciliation

A list of items is shown as the children of a parent. To show a new list, the children that show an
item of the list already are updated and moved to their place, the others are built, and those that
show no item of the list are removed. The children are found by a key, through a plain JavaScript
object, which inherits members from `Object.prototype`: a key that is the name of one of these finds
a member, and what is done to it throws.

`reconcile_eq_build_iff` says when the children are those that would be built for the new list.
-/

namespace Reconcile

/-! ## The order of the children -/

/-- The next child behind `last` that counts, or the first one. -/
def sibling (counts : ℕ → Bool) (children : List ℕ) : Option ℕ → Option ℕ
  | some last => ((children.dropWhile (· ≠ last)).drop 1).find? counts
  | none => children.find? counts

/-- `insertBefore`: the child is taken from where it was, if it was there, and put before the
reference, or behind the others. -/
def insertBefore (children : List ℕ) (child : ℕ) (reference : Option ℕ) : List ℕ :=
  let others := children.filter (· ≠ child)
  match reference with
  | some r => others.takeWhile (· ≠ r) ++ child :: others.dropWhile (· ≠ r)
  | none => others ++ [child]

/-- The child is put behind `last`, unless it is there. -/
def place (counts : ℕ → Bool) (children : List ℕ) (last : Option ℕ) (child : ℕ) : List ℕ :=
  let current := sibling counts children last
  if current = some child then children else insertBefore children child current

variable {counts : ℕ → Bool} {children : List ℕ} {child : ℕ}

/-- An element of a list without repetitions is not on either side of it. -/
theorem notMem_sides {front back : List ℕ} {r : ℕ} (h : (front ++ r :: back).Nodup) :
    r ∉ front ∧ r ∉ back := by
  have hboth := (List.nodup_cons.mp (List.nodup_middle.mp h)).1
  rwa [List.mem_append, not_or] at hboth

/-- A list is cut in front of the first place where it has an element. -/
theorem cut_at {front back : List ℕ} {r : ℕ} (h : r ∉ front) :
    (front ++ r :: back).dropWhile (· ≠ r) = r :: back ∧
      (front ++ r :: back).takeWhile (· ≠ r) = front := by
  have hfront : ∀ a ∈ front, decide (a ≠ r) = true := fun a ha =>
    decide_eq_true fun heq => h (heq ▸ ha)
  constructor
  · rw [List.dropWhile_append_of_pos hfront, List.dropWhile_cons_of_neg (by simp)]
  · rw [List.takeWhile_append_of_pos hfront, List.takeWhile_cons_of_neg (by simp), List.append_nil]

/-- A list without an element stays when the element is filtered out. -/
theorem filter_ne_of_notMem {l : List ℕ} {r : ℕ} (h : r ∉ l) : l.filter (· ≠ r) = l := by
  refine List.filter_eq_self.mpr fun a ha => decide_eq_true ?_
  rintro rfl
  exact h ha

/-- The sibling of the last child placed is the first one not placed yet. -/
theorem sibling_eq_head? {placed rest : List ℕ} (hnodup : children.Nodup)
    (hitems : children.filter counts = placed ++ rest) :
    sibling counts children placed.getLast? = rest.head? := by
  rcases List.eq_nil_or_concat placed with rfl | ⟨front, last, rfl⟩
  · show children.find? counts = _
    rw [← List.head?_filter, hitems, List.nil_append]
  · rw [List.concat_eq_append, List.append_assoc, List.singleton_append] at hitems
    have hmem : last ∈ children.filter counts := by simp [hitems]
    obtain ⟨hlast, hcounts⟩ := List.mem_filter.mp hmem
    obtain ⟨before, after, rfl⟩ := List.append_of_mem hlast
    have hsides := hnodup.filter counts
    rw [List.filter_append, List.filter_cons_of_pos hcounts] at hitems hsides
    obtain ⟨hbefore, hafter⟩ := notMem_sides hsides
    obtain ⟨-, -, hrest⟩ := (List.append_cons_inj_of_notMem hbefore hafter).mp hitems
    rw [List.concat_eq_append, List.getLast?_concat]
    show (List.drop 1 _).find? counts = _
    rw [(cut_at (notMem_sides hnodup).1).1, List.drop_one, List.tail_cons, ← List.head?_filter,
      hrest]

/-- The child that is placed stands behind those placed before, and before the others. -/
theorem place_filter {placed rest : List ℕ} (hnodup : children.Nodup)
    (hitems : children.filter counts = placed ++ rest) (hcounts : counts child = true)
    (hchild : child ∉ placed) :
    (place counts children placed.getLast? child).filter counts =
      placed ++ child :: rest.filter (· ≠ child) := by
  have hall := hnodup.filter counts
  rw [hitems] at hall
  have hothers : (children.filter (· ≠ child)).filter counts =
      placed ++ rest.filter (· ≠ child) := by
    rw [List.filter_comm, hitems, List.filter_append, filter_ne_of_notMem hchild]
  unfold place
  rw [sibling_eq_head? hnodup hitems]
  cases rest with
  | nil =>
    have hinsert : insertBefore children child none = children.filter (· ≠ child) ++ [child] := rfl
    rw [List.head?_nil, if_neg nofun, hinsert, List.filter_append, hothers]
    simp [hcounts]
  | cons r rest =>
    rw [List.head?_cons]
    by_cases hr : r = child
    · subst hr
      rw [if_pos rfl, hitems, List.filter_cons_of_neg (by simp),
        filter_ne_of_notMem (notMem_sides hall).2]
    · rw [if_neg fun heq => hr (Option.some.inj heq)]
      rw [List.filter_cons_of_pos (by simpa using hr)] at hothers ⊢
      -- The reference is one of the others, and they fall in two at it.
      have hmem : r ∈ (children.filter (· ≠ child)).filter counts := by
        rw [hothers]
        simp
      obtain ⟨hmem, hr'⟩ := List.mem_filter.mp hmem
      obtain ⟨before, after, hsplit⟩ := List.append_of_mem hmem
      have hsides := hnodup.filter (· ≠ child)
      rw [hsplit] at hsides hothers
      have hinsert : insertBefore children child (some r) = before ++ child :: r :: after := by
        obtain ⟨hdrop, htake⟩ := @cut_at before after r (notMem_sides hsides).1
        unfold insertBefore
        simp only [hsplit, hdrop, htake]
      have hfilter := hsides.filter counts
      rw [List.filter_append, List.filter_cons_of_pos hr'] at hothers hfilter
      obtain ⟨hbefore, hafter⟩ := notMem_sides hfilter
      obtain ⟨hfront, -, hback⟩ := (List.append_cons_inj_of_notMem hbefore hafter).mp hothers
      rw [hinsert, List.filter_append, List.filter_cons_of_pos hcounts, List.filter_cons_of_pos hr',
        hfront, hback]

/-- A child that is placed is there, and all others stay. -/
theorem place_nodup (last : Option ℕ) (hnodup : children.Nodup) :
    (place counts children last child).Nodup := by
  have hothers := hnodup.filter (· ≠ child)
  have hchild : child ∉ children.filter (· ≠ child) := by simp
  unfold place
  dsimp only
  split_ifs
  · exact hnodup
  · unfold insertBefore
    cases sibling counts children last with
    | none =>
      refine List.nodup_append.mpr ⟨hothers, List.nodup_singleton child, fun a ha b hb => ?_⟩
      rw [List.mem_singleton.mp hb]
      rintro rfl
      exact hchild ha
    | some r =>
      have hcut := List.takeWhile_append_dropWhile (p := (· ≠ r)) (l := children.filter (· ≠ child))
      rw [← hcut] at hothers hchild
      exact List.nodup_middle.mpr (List.nodup_cons.mpr ⟨hchild, hothers⟩)

/-! ## The object -/

/-- The names of the members of `Object.prototype`. -/
def objectMembers : List String :=
  ["constructor", "__defineGetter__", "__defineSetter__", "hasOwnProperty", "__lookupGetter__",
    "__lookupSetter__", "isPrototypeOf", "propertyIsEnumerable", "toString", "valueOf",
    "__proto__", "toLocaleString"]

/-- The names that an object inherits. -/
structure Inherited where
  /-- From `Object.prototype`. -/
  object : String → Bool
  /-- From an element that is the object's prototype. -/
  element : String → Bool
  proto : object "__proto__" = true
  notEmpty : object "" = false

/-- A plain JavaScript object. -/
structure PlainObject (V : Type) where
  own : AList fun _ : String => V
  /-- What has been assigned to `__proto__`: it is the prototype then. -/
  proto : Option V

/-- What a lookup finds. -/
inductive Found (V : Type) where
  | value (v : V)
  /-- An inherited member. -/
  | member
  | undefined

namespace PlainObject

variable {V : Type}

/-- `{}`. -/
def empty : PlainObject V := ⟨∅, none⟩

/-- `o[key] = v`. -/
def set (o : PlainObject V) (key : String) (v : V) : PlainObject V :=
  if key = "__proto__" then { o with proto := some v } else { o with own := o.own.insert key v }

/-- `delete o[key]`. -/
def delete (o : PlainObject V) (key : String) : PlainObject V := { o with own := o.own.erase key }

/-- `o[key]`. -/
def get (I : Inherited) (o : PlainObject V) (key : String) : Found V :=
  match o.own.lookup key, o.proto with
  | some v, _ => .value v
  | none, none => if I.object key then .member else .undefined
  | none, some v =>
    if key = "__proto__" then .value v else if I.element key then .member else .undefined

/-- What a lookup finds in an object that still has its prototype. -/
theorem get_of_proto {I : Inherited} {o : PlainObject V} (h : o.proto = none) (key : String) :
    o.get I key = match o.own.lookup key with
      | some v => .value v
      | none => if I.object key then .member else .undefined := by
  unfold get
  rw [h]
  cases o.own.lookup key <;> rfl

end PlainObject

/-! ## The children and what they show -/

/-- The children of a parent, each with what it is. -/
structure Parent (N : Type) where
  children : List ℕ
  nodup : children.Nodup
  node : ℕ → N

namespace Parent

variable {N : Type}

/-- A child that is not there yet. -/
def fresh (p : Parent N) : ℕ := p.children.foldr max 0 + 1

/-- It is not there yet. -/
theorem fresh_notMem (p : Parent N) : p.fresh ∉ p.children := by
  have hle : ∀ {l : List ℕ}, ∀ r ∈ l, r ≤ l.foldr max 0 := by
    intro l
    induction l with
    | nil => nofun
    | cons a l ih =>
      intro r hr
      rw [List.foldr_cons]
      rcases List.mem_cons.mp hr with rfl | hr
      · exact le_max_left _ _
      · exact le_trans (ih r hr) (le_max_right _ _)
  intro hmem
  have hlt := hle p.fresh hmem
  unfold fresh at hlt
  omega

/-- A child becomes something else. -/
def setNode (p : Parent N) (r : ℕ) (n : N) : Parent N :=
  { p with node := Function.update p.node r n }

/-- A child is placed behind `last`. -/
def place (counts : N → Bool) (p : Parent N) (last : Option ℕ) (r : ℕ) : Parent N where
  children := Reconcile.place (fun s => counts (p.node s)) p.children last r
  nodup := place_nodup last p.nodup
  node := p.node

/-- A child is removed. -/
def remove (p : Parent N) (r : ℕ) : Parent N where
  children := p.children.filter (· ≠ r)
  nodup := p.nodup.filter _
  node := p.node

/-- `appendChild`, of a child that is new. -/
def append (p : Parent N) (n : N) : Parent N where
  children := p.children ++ [p.fresh]
  nodup := by
    refine List.nodup_append.mpr ⟨p.nodup, List.nodup_singleton _, fun a ha b hb => ?_⟩
    rw [List.mem_singleton.mp hb]
    rintro rfl
    exact p.fresh_notMem ha
  node := Function.update p.node p.fresh n

/-- The children that count. -/
def refs (counts : N → Bool) (p : Parent N) : List ℕ := p.children.filter fun r => counts (p.node r)

/-- What they are. -/
def items (counts : N → Bool) (p : Parent N) : List N := (p.refs counts).map p.node

end Parent

/-- How items are shown. -/
structure View (Item N : Type) where
  key : Item → String
  build : Item → N
  update : N → Item → N
  /-- The children that count. -/
  counts : N → Bool
  /-- The key by which a child is found, if it has one. -/
  keyOf : N → Option String

/-- A pass over the items. -/
structure Pass (N : Type) where
  parent : Parent N
  /-- The children that show no item yet. -/
  existing : PlainObject ℕ
  /-- The child placed last. -/
  last : Option ℕ

namespace View

variable {Item N : Type}

/-- The children with a key. -/
def gather (V : View Item N) (p : Parent N) : PlainObject ℕ :=
  (p.refs V.counts).foldl (fun o r => match V.keyOf (p.node r) with
    | some key => o.set key r
    | none => o) .empty

/-- A child shows the next item. -/
def put (V : View Item N) (pass : Pass N) (r : ℕ) (n : N) : Pass N :=
  { pass with
    parent := (pass.parent.setNode r n).place V.counts pass.last r
    last := some r }

/-- The next item is shown. What is done to a member throws, and leaves the parent as it is. -/
def showItem (V : View Item N) (I : Inherited) (pass : Pass N) (item : Item) :
    Except (String × Parent N) (Pass N) :=
  match pass.existing.get I (V.key item) with
  | .value r =>
    let pass' := V.put pass r (V.update (pass.parent.node r) item)
    .ok { pass' with existing := pass.existing.delete (V.key item) }
  | .member => .error (V.key item, pass.parent)
  | .undefined => .ok (V.put pass pass.parent.fresh (V.build item))

/-- The items are shown one after the other, and then the children that show none are removed. An
error has the key that found a member, and the parent as it is then. -/
def reconcile (V : View Item N) (I : Inherited) (p : Parent N) (items : List Item) :
    Except (String × Parent N) (Parent N) :=
  match items.foldlM (V.showItem I) ⟨p, V.gather p, none⟩ with
  | .error e => .error e
  | .ok pass => .ok ((pass.existing.own.entries.map Sigma.snd).foldl Parent.remove pass.parent)

/-- The parent after that. -/
def reconciled (V : View Item N) (I : Inherited) (p : Parent N) (items : List Item) : Parent N :=
  match V.reconcile I p items with
  | .error e => e.2
  | .ok p' => p'

/-! ## What a pass does -/

/-- The keys that are not empty are distinct, if all keys are. -/
theorem nodup_filled {keys : List String} (h : keys.Nodup) :
    (keys.filterMap fun key => if key = "" then none else some key).Nodup := by
  refine h.filterMap fun a a' b ha ha' => ?_
  simp only [Option.mem_def] at ha ha'
  split_ifs at ha ha'
  rw [Option.some.inj ha, Option.some.inj ha']

/-- What a pass relies on. -/
structure Lawful (V : View Item N) : Prop where
  counts_of_key : ∀ {n key}, V.keyOf n = some key → V.counts n = true
  keyOf_ne_empty : ∀ n, V.keyOf n ≠ some ""
  counts_build : ∀ item, V.counts (V.build item) = true
  keyOf_build : ∀ item, V.keyOf (V.build item) =
    if V.key item = "" then none else some (V.key item)
  keyOf_update : ∀ {n key} item, V.keyOf n = some key → V.keyOf (V.update n item) = some key

/-- The children are found by their keys. -/
structure Keyed (V : View Item N) (I : Inherited) (p : Parent N) : Prop where
  distinct : ((p.refs V.counts).filterMap fun r => V.keyOf (p.node r)).Nodup
  /-- No key is the name of a member. -/
  plain : ∀ r ∈ p.refs V.counts, ∀ key, V.keyOf (p.node r) = some key → I.object key = false

/-- The children are found by their keys, if what they are says so. -/
theorem keyed_of_items {V : View Item N} {I : Inherited} {p : Parent N}
    (hdistinct : ((p.items V.counts).filterMap V.keyOf).Nodup)
    (hplain : ∀ n ∈ p.items V.counts, ∀ key, V.keyOf n = some key → I.object key = false) :
    V.Keyed I p where
  distinct := by
    rwa [Parent.items, List.filterMap_map] at hdistinct
  plain r hr := hplain _ (List.mem_map_of_mem hr)

/-- What an item is shown as. -/
def target (V : View Item N) (p : Parent N) (item : Item) : N :=
  match (p.refs V.counts).find? fun r => V.keyOf (p.node r) = some (V.key item) with
  | some r => V.update (p.node r) item
  | none => V.build item

variable {V : View Item N} {I : Inherited} {p : Parent N}

/-- One child has the key. -/
theorem Keyed.eq_of_key (h : V.Keyed I p) {r r' : ℕ} {key : String} (hr : r ∈ p.refs V.counts)
    (hr' : r' ∈ p.refs V.counts) (hkey : V.keyOf (p.node r) = some key)
    (hkey' : V.keyOf (p.node r') = some key) : r = r' := by
  by_contra hne
  have hsymm : Std.Symm fun a b => ∀ k, V.keyOf (p.node a) = some k →
      ∀ k', V.keyOf (p.node b) = some k' → k ≠ k' :=
    ⟨fun a b hab k hk k' hk' heq => hab k' hk' k hk heq.symm⟩
  have hpairs := (List.pairwise_filterMap.mp h.distinct).forall hr hr' hne
  exact hpairs key hkey key hkey' rfl

/-- The child that shows an item already is updated. -/
theorem Keyed.target_of_key (h : V.Keyed I p) {r : ℕ} {item : Item} (hr : r ∈ p.refs V.counts)
    (hkey : V.keyOf (p.node r) = some (V.key item)) :
    V.target p item = V.update (p.node r) item := by
  unfold target
  cases hfind : (p.refs V.counts).find? fun r => V.keyOf (p.node r) = some (V.key item) with
  | none => exact absurd hkey (by simpa using List.find?_eq_none.mp hfind r hr)
  | some s =>
    have hs : V.keyOf (p.node s) = some (V.key item) := by simpa using List.find?_some hfind
    rw [h.eq_of_key (List.mem_of_find?_eq_some hfind) hr hs hkey]

/-- An item that no child shows is built. -/
theorem target_of_forall {item : Item}
    (h : ∀ r ∈ p.refs V.counts, V.keyOf (p.node r) ≠ some (V.key item)) :
    V.target p item = V.build item := by
  have hfind : (p.refs V.counts).find? (fun r => V.keyOf (p.node r) = some (V.key item)) = none :=
    List.find?_eq_none.mpr fun r hr => by simpa using h r hr
  unfold target
  rw [hfind]

/-- What an object has after it has got children by their keys. -/
theorem gather_list (f : ℕ → Option String) {l : List ℕ} {o : PlainObject ℕ} (ho : o.proto = none)
    (hdistinct : (l.filterMap f).Nodup)
    (hplain : ∀ r ∈ l, ∀ key, f r = some key → I.object key = false) :
    let o' := l.foldl (fun o r => match f r with
      | some key => o.set key r
      | none => o) o
    o'.proto = none ∧ ∀ key r, o'.own.lookup key = some r ↔
      (r ∈ l ∧ f r = some key) ∨ (o.own.lookup key = some r ∧ ∀ s ∈ l, f s ≠ some key) := by
  induction l generalizing o with
  | nil => exact ⟨ho, fun key r => by simp⟩
  | cons a l ih =>
    have hplain' := fun r hr => hplain r (List.mem_cons_of_mem a hr)
    rw [List.foldl_cons]
    cases ha : f a with
    | none =>
      rw [List.filterMap_cons_none ha] at hdistinct
      obtain ⟨hproto, hlookup⟩ := ih ho hdistinct hplain'
      refine ⟨hproto, fun key r => (hlookup key r).trans ?_⟩
      simp only [List.mem_cons, forall_eq_or_imp, ha]
      constructor
      · rintro (⟨hr, hkey⟩ | ⟨hold, hnone⟩)
        · exact .inl ⟨.inr hr, hkey⟩
        · exact .inr ⟨hold, nofun, hnone⟩
      · rintro (⟨rfl | hr, hkey⟩ | ⟨hold, -, hnone⟩)
        · rw [ha] at hkey
          cases hkey
        · exact .inl ⟨hr, hkey⟩
        · exact .inr ⟨hold, hnone⟩
    | some k =>
      rw [List.filterMap_cons_some ha, List.nodup_cons, List.mem_filterMap] at hdistinct
      obtain ⟨hfirst, hdistinct⟩ := hdistinct
      -- The key is not `__proto__`, so the child is put among the own properties.
      have hset : o.set k a = { o with own := o.own.insert k a } := by
        refine if_neg ?_
        rintro rfl
        have hfalse := hplain a List.mem_cons_self _ ha
        rw [I.proto] at hfalse
        cases hfalse
      dsimp only
      rw [hset]
      obtain ⟨hproto, hlookup⟩ := @ih { o with own := o.own.insert k a } ho hdistinct hplain'
      refine ⟨hproto, fun key r => (hlookup key r).trans ?_⟩
      simp only [List.mem_cons, forall_eq_or_imp, ha]
      by_cases hk : key = k
      · subst hk
        -- No later child has the key, since the keys are distinct.
        rw [AList.lookup_insert]
        constructor
        · rintro (⟨hr, hkey⟩ | ⟨heq, -⟩)
          · exact .inl ⟨.inr hr, hkey⟩
          · obtain rfl := Option.some.inj heq
            exact .inl ⟨.inl rfl, ha⟩
        · rintro (⟨rfl | hr, hkey⟩ | ⟨-, hne, -⟩)
          · exact .inr ⟨rfl, fun s hs hsk => hfirst ⟨s, hs, hsk⟩⟩
          · exact .inl ⟨hr, hkey⟩
          · exact absurd rfl hne
      · rw [AList.lookup_insert_ne hk]
        constructor
        · rintro (⟨hr, hkey⟩ | ⟨hold, hnone⟩)
          · exact .inl ⟨.inr hr, hkey⟩
          · exact .inr ⟨hold, fun heq => hk (Option.some.inj heq).symm, hnone⟩
        · rintro (⟨rfl | hr, hkey⟩ | ⟨hold, -, hnone⟩)
          · exact absurd (Option.some.inj (ha.symm.trans hkey)).symm hk
          · exact .inl ⟨hr, hkey⟩
          · exact .inr ⟨hold, hnone⟩

/-- A pass that has shown the items `done`: the children `placed` show them, and the children `rest`
are as they were. -/
structure Sound (V : View Item N) (I : Inherited) (p : Parent N) (pass : Pass N) (done : List Item)
    (placed rest : List ℕ) : Prop where
  refs : pass.parent.refs V.counts = placed ++ rest
  last : pass.last = placed.getLast?
  nodes : placed.map pass.parent.node = done.map (V.target p)
  mem_rest : ∀ r, r ∈ rest ↔ r ∈ p.refs V.counts ∧
    ∀ item ∈ done, V.keyOf (p.node r) ≠ some (V.key item)
  sublist : rest.Sublist (p.refs V.counts)
  kept : ∀ r ∈ rest, pass.parent.node r = p.node r
  proto : pass.existing.proto = none
  own : ∀ key r, pass.existing.own.lookup key = some r ↔
    r ∈ rest ∧ V.keyOf (p.node r) = some key
  /-- No key of theirs has found a member. -/
  plain : ∀ item ∈ done, I.object (V.key item) = false

/-- A pass that begins. -/
theorem Keyed.sound (h : V.Keyed I p) :
    V.Sound I p ⟨p, V.gather p, none⟩ [] [] (p.refs V.counts) := by
  obtain ⟨hproto, hown⟩ := gather_list (fun r => V.keyOf (p.node r))
    (show PlainObject.empty.proto = none from rfl) h.distinct h.plain
  refine ⟨rfl, rfl, rfl, fun r => by simp, List.Sublist.refl _, fun _ _ => rfl, hproto,
    fun key r => (hown key r).trans ?_, nofun⟩
  have hempty : (PlainObject.empty : PlainObject ℕ).own.lookup key = none := rfl
  rw [hempty]
  simp

/-- The children are listed once. -/
theorem Sound.nodup {pass : Pass N} {done : List Item} {placed rest : List ℕ}
    (h : V.Sound I p pass done placed rest) : (placed ++ rest).Nodup := by
  rw [← h.refs]
  exact pass.parent.nodup.filter _

/-- A child shows the next item. -/
theorem Sound.put {pass : Pass N} {done : List Item} {placed rest : List ℕ} {item : Item} {r : ℕ}
    {n : N} (h : V.Sound I p pass done placed rest) (hr : r ∉ placed)
    (hold : r ∈ pass.parent.children → V.counts (pass.parent.node r) = true)
    (hcounts : V.counts n = true) (htarget : V.target p item = n)
    (hrest : ∀ s ∈ rest, s = r ↔ V.keyOf (p.node s) = some (V.key item))
    (hplain : I.object (V.key item) = false) {existing : PlainObject ℕ}
    (hproto : existing.proto = none)
    (hown : ∀ key s, existing.own.lookup key = some s ↔
      (s ∈ rest ∧ s ≠ r) ∧ V.keyOf (p.node s) = some key) :
    V.Sound I p { V.put pass r n with existing } (done ++ [item]) (placed ++ [r])
      (rest.filter (· ≠ r)) := by
  have hmem : ∀ s, s ∈ rest.filter (· ≠ r) ↔ s ∈ rest ∧ s ≠ r := fun s => by simp
  -- Which children count stays the same, and `r` counts.
  have hitems : pass.parent.children.filter
      (fun s => V.counts (Function.update pass.parent.node r n s)) = placed ++ rest := by
    rw [← h.refs]
    refine List.filter_congr fun s hs => ?_
    by_cases heq : s = r
    · subst heq
      rw [Function.update_self, hcounts, hold hs]
    · rw [Function.update_of_ne heq]
  have hself : V.counts (Function.update pass.parent.node r n r) = true := by
    rw [Function.update_self]
    exact hcounts
  refine ⟨?_, ?_, ?_, ?_, ?_, ?_, hproto, ?_, ?_⟩
  · have hplace := place_filter pass.parent.nodup hitems hself hr
    rw [← h.last] at hplace
    rw [List.append_assoc]
    exact hplace
  · exact (List.getLast?_concat).symm
  · have hplaced : placed.map (Function.update pass.parent.node r n) =
        placed.map pass.parent.node := by
      refine List.map_congr_left fun s hs => Function.update_of_ne ?_ _ _
      rintro rfl
      exact hr hs
    show (placed ++ [r]).map (Function.update pass.parent.node r n) = _
    rw [List.map_append, List.map_append, hplaced, h.nodes, List.map_singleton,
      Function.update_self, ← htarget]
    rfl
  · intro s
    rw [hmem, h.mem_rest]
    simp only [List.mem_append, List.mem_singleton, or_imp, forall_and, forall_eq]
    constructor
    · rintro ⟨⟨hs, hdone⟩, hne⟩
      exact ⟨hs, hdone, fun hkey => hne ((hrest s ((h.mem_rest s).mpr ⟨hs, hdone⟩)).mpr hkey)⟩
    · rintro ⟨hs, hdone, hkey⟩
      exact ⟨⟨hs, hdone⟩, fun heq => hkey ((hrest s ((h.mem_rest s).mpr ⟨hs, hdone⟩)).mp heq)⟩
  · exact (List.filter_sublist).trans h.sublist
  · intro s hs
    obtain ⟨hs, hne⟩ := (hmem s).mp hs
    exact (Function.update_of_ne hne _ _).trans (h.kept s hs)
  · intro key s
    rw [hmem]
    exact hown key s
  · intro i hi
    rcases List.mem_append.mp hi with hi | hi
    · exact h.plain i hi
    · rwa [List.mem_singleton.mp hi]

/-- An item is shown, if its key finds no member. -/
theorem Sound.showItem (hV : V.Lawful) (hp : V.Keyed I p) {pass pass' : Pass N} {done : List Item}
    {placed rest : List ℕ} {item : Item} (h : V.Sound I p pass done placed rest)
    (hnew : ∀ i ∈ done, V.key i ≠ V.key item) (hshow : V.showItem I pass item = .ok pass') :
    ∃ placed' rest', V.Sound I p pass' (done ++ [item]) placed' rest' := by
  have hinRefs : ∀ s ∈ rest, s ∈ pass.parent.refs V.counts := by
    intro s hs
    rw [h.refs]
    exact List.mem_append_right _ hs
  unfold View.showItem at hshow
  rw [PlainObject.get_of_proto h.proto] at hshow
  cases hlookup : pass.existing.own.lookup (V.key item) with
  | some r =>
    rw [hlookup] at hshow
    obtain rfl := Except.ok.inj hshow
    obtain ⟨hr, hkey⟩ := (h.own _ r).mp hlookup
    have hrefs := ((h.mem_rest r).mp hr).1
    refine ⟨_, _, h.put ?_ (fun _ => (List.mem_filter.mp (hinRefs r hr)).2) ?_ ?_ ?_ ?_ h.proto ?_⟩
    · exact fun hplaced => (List.nodup_append.mp h.nodup).2.2 r hplaced r hr rfl
    · rw [h.kept r hr]
      exact hV.counts_of_key (hV.keyOf_update item hkey)
    · rw [h.kept r hr]
      exact hp.target_of_key hrefs hkey
    · intro s hs
      constructor
      · rintro rfl
        exact hkey
      · exact fun hs' => hp.eq_of_key ((h.mem_rest s).mp hs).1 hrefs hs' hkey
    · exact hp.plain r hrefs _ hkey
    · intro key s
      show (pass.existing.own.erase (V.key item)).lookup key = some s ↔ _
      by_cases hk : key = V.key item
      · subst hk
        rw [AList.lookup_erase]
        refine iff_of_false nofun ?_
        rintro ⟨⟨hs, hne⟩, hkey'⟩
        exact hne (hp.eq_of_key ((h.mem_rest s).mp hs).1 hrefs hkey' hkey)
      · rw [AList.lookup_erase_ne hk, h.own]
        constructor
        · rintro ⟨hs, hkey'⟩
          refine ⟨⟨hs, ?_⟩, hkey'⟩
          rintro rfl
          exact hk (Option.some.inj (hkey'.symm.trans hkey))
        · rintro ⟨⟨hs, -⟩, hkey'⟩
          exact ⟨hs, hkey'⟩
  | none =>
    rw [hlookup] at hshow
    dsimp only at hshow
    cases hmember : I.object (V.key item) with
    | true =>
      rw [hmember] at hshow
      cases hshow
    | false =>
      rw [hmember] at hshow
      obtain rfl := Except.ok.inj hshow
      -- No child shows the item, neither among the rest nor among those placed.
      have hnone : ∀ s ∈ rest, V.keyOf (p.node s) ≠ some (V.key item) := by
        intro s hs hkey
        rw [(h.own _ s).mpr ⟨hs, hkey⟩] at hlookup
        cases hlookup
      have hfresh : ∀ s ∈ rest, s ≠ pass.parent.fresh := by
        rintro s hs rfl
        exact pass.parent.fresh_notMem (List.mem_of_mem_filter (hinRefs _ hs))
      refine ⟨_, _, h.put ?_ (fun hmem => absurd hmem pass.parent.fresh_notMem)
        (hV.counts_build item) ?_ ?_ hmember h.proto ?_⟩
      · intro hplaced
        refine pass.parent.fresh_notMem (List.mem_of_mem_filter (p := fun r =>
          V.counts (pass.parent.node r)) ?_)
        show _ ∈ pass.parent.refs V.counts
        rw [h.refs]
        exact List.mem_append_left _ hplaced
      · refine target_of_forall fun s hs hkey => ?_
        refine hnone s ((h.mem_rest s).mpr ⟨hs, fun i hi hkey' => ?_⟩) hkey
        exact hnew i hi (Option.some.inj (hkey'.symm.trans hkey))
      · exact fun s hs => iff_of_false (hfresh s hs) (hnone s hs)
      · intro key s
        refine (h.own key s).trans ?_
        constructor
        · rintro ⟨hs, hkey⟩
          exact ⟨⟨hs, hfresh s hs⟩, hkey⟩
        · rintro ⟨⟨hs, -⟩, hkey⟩
          exact ⟨hs, hkey⟩

/-- The items are shown one after the other, up to one whose key finds a member. -/
theorem Sound.foldlM (hV : V.Lawful) (hp : V.Keyed I p) {pass : Pass N} {done items : List Item}
    {placed rest : List ℕ} (h : V.Sound I p pass done placed rest)
    (hnodup : ((done ++ items).map V.key).Nodup) :
    ∃ pass' done' placed' rest', V.Sound I p pass' done' placed' rest' ∧ done' <+: done ++ items ∧
      (items.foldlM (V.showItem I) pass = .ok pass' ∧ done' = done ++ items ∨
        ∃ item ∈ items, I.object (V.key item) = true ∧
          items.foldlM (V.showItem I) pass = .error (V.key item, pass'.parent)) := by
  induction items generalizing pass done placed rest with
  | nil =>
    refine ⟨pass, done, placed, rest, h, by simp, .inl ⟨rfl, (List.append_nil _).symm⟩⟩
  | cons item items ih =>
    have hnew : ∀ i ∈ done, V.key i ≠ V.key item := by
      rw [List.map_append, List.map_cons] at hnodup
      exact fun i hi => (List.nodup_append.mp hnodup).2.2 _ (List.mem_map_of_mem hi) _
        List.mem_cons_self
    rw [List.foldlM_cons]
    cases hshow : V.showItem I pass item with
    | ok pass₁ =>
      obtain ⟨placed₁, rest₁, h₁⟩ := h.showItem hV hp hnew hshow
      have happend : done ++ item :: items = (done ++ [item]) ++ items := by simp
      rw [happend] at hnodup ⊢
      obtain ⟨pass', done', placed', rest', h', hdoneItems, hend⟩ := ih h₁ hnodup
      refine ⟨pass', done', placed', rest', h', hdoneItems, hend.imp_right ?_⟩
      rintro ⟨i, hi, hmember, herror⟩
      exact ⟨i, List.mem_cons_of_mem _ hi, hmember, herror⟩
    | error e =>
      refine ⟨pass, done, placed, rest, h, List.prefix_append _ _,
        .inr ⟨item, List.mem_cons_self, ?_⟩⟩
      -- Only an inherited member is an error: the key is none of an own property.
      unfold View.showItem at hshow
      rw [PlainObject.get_of_proto h.proto] at hshow
      cases hlookup : pass.existing.own.lookup (V.key item) with
      | some r =>
        rw [hlookup] at hshow
        cases hshow
      | none =>
        rw [hlookup] at hshow
        cases hmember : I.object (V.key item) with
        | true =>
          dsimp only at hshow
          rw [hmember] at hshow
          exact ⟨rfl, by rw [← Except.error.inj hshow]; rfl⟩
        | false =>
          dsimp only at hshow
          rw [hmember] at hshow
          cases hshow

/-- An item is shown under its key. -/
theorem Lawful.keyOf_target (hV : V.Lawful) (hp : V.Keyed I p) (item : Item) :
    V.keyOf (V.target p item) = if V.key item = "" then none else some (V.key item) := by
  by_cases hshown : ∃ r ∈ p.refs V.counts, V.keyOf (p.node r) = some (V.key item)
  · obtain ⟨r, hr, hkey⟩ := hshown
    have hne : V.key item ≠ "" := by
      intro hempty
      rw [hempty] at hkey
      exact hV.keyOf_ne_empty _ hkey
    rw [hp.target_of_key hr hkey, hV.keyOf_update item hkey, if_neg hne]
  · rw [target_of_forall fun r hr hkey => hshown ⟨r, hr, hkey⟩, hV.keyOf_build]

/-- The children of a pass are found by their keys. -/
theorem Sound.keyed (hV : V.Lawful) (hp : V.Keyed I p) {pass : Pass N} {done : List Item}
    {placed rest : List ℕ} (h : V.Sound I p pass done placed rest)
    (hnodup : (done.map V.key).Nodup) : V.Keyed I pass.parent := by
  have hplaced : ∀ r ∈ placed, ∃ item ∈ done, pass.parent.node r = V.target p item := by
    intro r hr
    have hmem : pass.parent.node r ∈ done.map (V.target p) := h.nodes ▸ List.mem_map_of_mem hr
    obtain ⟨item, hitem, heq⟩ := List.mem_map.mp hmem
    exact ⟨item, hitem, heq.symm⟩
  have hkey : ∀ {item : Item} {key : String}, V.keyOf (V.target p item) = some key →
      V.key item = key := by
    intro item key hitem
    rw [hV.keyOf_target hp] at hitem
    split_ifs at hitem
    exact Option.some.inj hitem
  constructor
  · rw [h.refs, List.filterMap_append, List.nodup_append]
    refine ⟨?_, ?_, ?_⟩
    · -- The keys of the children placed are those of the items.
      have hkeys : placed.filterMap (fun r => V.keyOf (pass.parent.node r)) =
          (done.map V.key).filterMap fun key => if key = "" then none else some key := by
        calc placed.filterMap (fun r => V.keyOf (pass.parent.node r))
          _ = (placed.map pass.parent.node).filterMap V.keyOf := List.filterMap_map.symm
          _ = (done.map (V.target p)).filterMap V.keyOf := by rw [h.nodes]
          _ = _ := by
            rw [List.filterMap_map, List.filterMap_map]
            exact List.filterMap_congr fun item _ => hV.keyOf_target hp item
      rw [hkeys]
      exact nodup_filled hnodup
    · have hkeys : rest.filterMap (fun r => V.keyOf (pass.parent.node r)) =
          rest.filterMap fun r => V.keyOf (p.node r) :=
        List.filterMap_congr fun r hr => by rw [h.kept r hr]
      rw [hkeys]
      exact hp.distinct.sublist (h.sublist.filterMap _)
    · intro key hmem key' hmem' heq
      obtain ⟨r, hr, hrkey⟩ := List.mem_filterMap.mp hmem
      obtain ⟨s, hs, hskey⟩ := List.mem_filterMap.mp hmem'
      obtain ⟨item, hitem, hnode⟩ := hplaced r hr
      rw [hnode] at hrkey
      rw [h.kept s hs, ← heq, ← hkey hrkey] at hskey
      exact ((h.mem_rest s).mp hs).2 item hitem hskey
  · intro r hr key hrkey
    rw [h.refs] at hr
    rcases List.mem_append.mp hr with hr | hr
    · obtain ⟨item, hitem, hnode⟩ := hplaced r hr
      rw [hnode] at hrkey
      rw [← hkey hrkey]
      exact h.plain item hitem
    · rw [h.kept r hr] at hrkey
      exact hp.plain r ((h.mem_rest r).mp hr).1 key hrkey

/-- The key that has found a member is one of the items'. -/
theorem key_of_error {items : List Item} {e : String × Parent N}
    (h : V.reconcile I p items = .error e) : ∃ item ∈ items, V.key item = e.1 := by
  have hfold : ∀ {l : List Item} {pass : Pass N}, l.foldlM (V.showItem I) pass = .error e →
      ∃ item ∈ l, V.key item = e.1 := by
    intro l
    induction l with
    | nil =>
      intro pass hl
      cases hl
    | cons item l ih =>
      intro pass hl
      rw [List.foldlM_cons] at hl
      cases hshow : V.showItem I pass item with
      | ok pass' =>
        rw [hshow] at hl
        obtain ⟨i, hi, hkey⟩ := ih hl
        exact ⟨i, List.mem_cons_of_mem _ hi, hkey⟩
      | error e' =>
        rw [hshow] at hl
        obtain rfl : e' = e := Except.error.inj hl
        unfold View.showItem at hshow
        split at hshow
        · cases hshow
        · exact ⟨item, List.mem_cons_self, by rw [← Except.error.inj hshow]⟩
        · cases hshow
  unfold reconcile at h
  split at h
  · rename_i hl
    obtain rfl := Except.error.inj h
    exact hfold hl
  · cases h

/-- Children are removed one after the other. -/
theorem foldl_remove (l : List ℕ) (p : Parent N) : (l.foldl Parent.remove p).node = p.node ∧
    (l.foldl Parent.remove p).children = p.children.filter (· ∉ l) := by
  induction l generalizing p with
  | nil => simp
  | cons r l ih =>
    obtain ⟨hnode, hchildren⟩ := ih (p.remove r)
    refine ⟨hnode, hchildren.trans ?_⟩
    show (p.children.filter (· ≠ r)).filter _ = _
    rw [List.filter_filter]
    refine List.filter_congr fun s _ => ?_
    rw [← Bool.decide_and]
    exact decide_eq_decide.mpr (by rw [List.mem_cons, not_or, and_comm])

/-- What the children are after the items have been shown, or after an item whose key finds a
member. -/
theorem reconciled_cases (hV : V.Lawful) (hp : V.Keyed I p) {items : List Item}
    (hnodup : (items.map V.key).Nodup) :
    ∃ pass done placed rest, V.Sound I p pass done placed rest ∧ (done.map V.key).Nodup ∧
      (V.reconciled I p items).node = pass.parent.node ∧
      (done = items ∧ (V.reconciled I p items).refs V.counts =
          placed ++ rest.filter (fun r => V.keyOf (p.node r) = none) ∨
        (∃ item ∈ items, I.object (V.key item) = true) ∧
          (V.reconciled I p items).refs V.counts = placed ++ rest) := by
  obtain ⟨pass, done, placed, rest, h, hdoneItems, hend⟩ := hp.sound.foldlM hV hp
    (show (([] ++ items).map V.key).Nodup from hnodup)
  rw [List.nil_append] at hdoneItems hend
  have hdone : (done.map V.key).Nodup := hnodup.sublist (hdoneItems.sublist.map _)
  refine ⟨pass, done, placed, rest, h, hdone, ?_⟩
  unfold reconciled reconcile
  rcases hend with ⟨hok, rfl⟩ | ⟨item, hitem, hmember, herror⟩
  · rw [hok]
    obtain ⟨hnode, hchildren⟩ :=
      foldl_remove (pass.existing.own.entries.map Sigma.snd) pass.parent
    refine ⟨hnode, .inl ⟨rfl, ?_⟩⟩
    -- The children that are removed are the rest, but for those without a key.
    have hmem : ∀ r, r ∈ pass.existing.own.entries.map Sigma.snd ↔
        r ∈ rest ∧ V.keyOf (p.node r) ≠ none := by
      intro r
      rw [List.mem_map]
      constructor
      · rintro ⟨⟨key, s⟩, hs, rfl⟩
        obtain ⟨hs, hkey⟩ := (h.own key s).mp (AList.mem_lookup_iff.mpr hs)
        exact ⟨hs, by rw [hkey]; nofun⟩
      · rintro ⟨hr, hkey⟩
        obtain ⟨key, hkey⟩ := Option.ne_none_iff_exists'.mp hkey
        exact ⟨⟨key, r⟩, AList.mem_lookup_iff.mp ((h.own key r).mpr ⟨hr, hkey⟩), rfl⟩
    unfold Parent.refs
    dsimp only
    rw [hnode, hchildren, List.filter_comm, ← Parent.refs, h.refs, List.filter_append]
    congr 1
    · refine List.filter_eq_self.mpr fun r hr => decide_eq_true fun hmem' => ?_
      exact (List.nodup_append.mp h.nodup).2.2 r hr r ((hmem r).mp hmem').1 rfl
    · refine List.filter_congr fun r hr => decide_eq_decide.mpr ?_
      rw [hmem]
      simp [hr]
  · rw [herror]
    exact ⟨rfl, .inr ⟨⟨item, hitem, hmember⟩, h.refs⟩⟩

/-- The children are still found by their keys. -/
theorem reconciled_keyed (hV : V.Lawful) (hp : V.Keyed I p) {items : List Item}
    (hnodup : (items.map V.key).Nodup) : V.Keyed I (V.reconciled I p items) := by
  obtain ⟨pass, done, placed, rest, h, hdone, hnode, hend⟩ := reconciled_cases hV hp hnodup
  obtain ⟨hdistinct, hplain⟩ := h.keyed hV hp hdone
  have hsub : ((V.reconciled I p items).refs V.counts).Sublist (pass.parent.refs V.counts) := by
    rw [h.refs]
    rcases hend with ⟨-, hrefs⟩ | ⟨-, hrefs⟩
    · rw [hrefs]
      exact (List.Sublist.refl placed).append List.filter_sublist
    · rw [hrefs]
  constructor
  · rw [hnode]
    exact hdistinct.sublist (hsub.filterMap _)
  · intro r hr
    rw [hnode]
    exact hplain r (hsub.subset hr)

/-- What is built, and stays so when it is updated, is what all children are. -/
theorem reconciled_forall {G : N → Prop} (hbuild : ∀ item, G (V.build item))
    (hupdate : ∀ n item, G n → G (V.update n item)) (hV : V.Lawful) (hp : V.Keyed I p)
    {items : List Item} (hnodup : (items.map V.key).Nodup) (hG : ∀ n ∈ p.items V.counts, G n) :
    ∀ n ∈ (V.reconciled I p items).items V.counts, G n := by
  obtain ⟨pass, done, placed, rest, h, -, hnode, hend⟩ := reconciled_cases hV hp hnodup
  have hold : ∀ r ∈ p.refs V.counts, G (p.node r) := fun r hr => hG _ (List.mem_map_of_mem hr)
  have htarget : ∀ item, G (V.target p item) := by
    intro item
    unfold target
    split
    · rename_i r hfind
      exact hupdate _ _ (hold r (List.mem_of_find?_eq_some hfind))
    · exact hbuild item
  -- A child shows an item of the list, or is as it was.
  have hall : ∀ r ∈ placed ++ rest, G (pass.parent.node r) := by
    intro r hr
    rcases List.mem_append.mp hr with hr | hr
    · have hmem : pass.parent.node r ∈ done.map (V.target p) := h.nodes ▸ List.mem_map_of_mem hr
      obtain ⟨item, -, heq⟩ := List.mem_map.mp hmem
      rw [← heq]
      exact htarget item
    · rw [h.kept r hr]
      exact hold r ((h.mem_rest r).mp hr).1
  intro n hn
  obtain ⟨r, hr, rfl⟩ := List.mem_map.mp hn
  rw [hnode]
  rcases hend with ⟨-, hrefs⟩ | ⟨-, hrefs⟩
  · rw [hrefs] at hr
    refine hall r ?_
    rcases List.mem_append.mp hr with hr | hr
    · exact List.mem_append_left _ hr
    · exact List.mem_append_right _ (List.mem_of_mem_filter hr)
  · rw [hrefs] at hr
    exact hall r hr

/-- The children are those that would be built for the items, exactly if no key is the name of a
member, every child has a key, and what shows an item already is updated to what would be built. -/
theorem reconcile_eq_build_iff (hV : V.Lawful) (hp : V.Keyed I p) {items : List Item}
    (hnodup : (items.map V.key).Nodup) :
    (V.reconciled I p items).items V.counts = items.map V.build ↔
      (∀ item ∈ items, I.object (V.key item) = false) ∧
      (∀ n ∈ p.items V.counts, V.keyOf n ≠ none) ∧
      ∀ item ∈ items, ∀ n ∈ p.items V.counts, V.keyOf n = some (V.key item) →
        V.update n item = V.build item := by
  unfold Parent.items
  simp only [List.forall_mem_map]
  obtain ⟨pass, done, placed, rest, h, -, hnode, hend⟩ := reconciled_cases hV hp hnodup
  rcases hend with ⟨rfl, hrefs⟩ | ⟨⟨item, hitem, hmember⟩, hrefs⟩
  · have hsame : (∀ item ∈ done, V.target p item = V.build item) ↔
        ∀ item ∈ done, ∀ r ∈ p.refs V.counts, V.keyOf (p.node r) = some (V.key item) →
          V.update (p.node r) item = V.build item := by
      refine forall₂_congr fun item _ => ⟨fun htarget r hr hkey => ?_, fun hupdate => ?_⟩
      · rw [← hp.target_of_key hr hkey]
        exact htarget
      · by_cases hshown : ∃ r ∈ p.refs V.counts, V.keyOf (p.node r) = some (V.key item)
        · obtain ⟨r, hr, hkey⟩ := hshown
          rw [hp.target_of_key hr hkey]
          exact hupdate r hr hkey
        · exact target_of_forall fun r hr hkey => hshown ⟨r, hr, hkey⟩
    have hkeyless : rest.filter (fun r => V.keyOf (p.node r) = none) = [] ↔
        ∀ r ∈ p.refs V.counts, V.keyOf (p.node r) ≠ none := by
      rw [List.filter_eq_nil_iff]
      constructor
      · intro hnone r hr hkey
        refine hnone r ((h.mem_rest r).mpr ⟨hr, fun item _ => ?_⟩) (decide_eq_true hkey)
        rw [hkey]
        nofun
      · exact fun hall r hr hkey => hall r ((h.mem_rest r).mp hr).1 (of_decide_eq_true hkey)
    rw [hnode, hrefs, List.map_append, h.nodes, ← hsame, ← hkeyless]
    constructor
    · intro heq
      have hlength := congrArg List.length heq
      rw [List.length_append, List.length_map, List.length_map, List.length_map] at hlength
      have hnone : rest.filter (fun r => V.keyOf (p.node r) = none) = [] :=
        List.length_eq_zero_iff.mp (by omega)
      rw [hnone, List.map_nil, List.append_nil] at heq
      exact ⟨h.plain, hnone, List.map_inj_left.mp heq⟩
    · rintro ⟨-, hnone, htarget⟩
      rw [hnone, List.map_nil, List.append_nil]
      exact List.map_congr_left htarget
  · -- No child is shown under the key that has found a member.
    refine iff_of_false (fun heq => ?_) fun hplain => ?_
    · have hne : V.key item ≠ "" := by
        intro hempty
        rw [hempty, I.notEmpty] at hmember
        cases hmember
      have hmem : V.build item ∈ items.map V.build := List.mem_map_of_mem hitem
      rw [← heq] at hmem
      obtain ⟨r, hr, hnode'⟩ := List.mem_map.mp hmem
      have hkey := hV.keyOf_build item
      rw [if_neg hne, ← hnode'] at hkey
      have hplain := (reconciled_keyed hV hp hnodup).plain r hr _ hkey
      rw [hmember] at hplain
      cases hplain
    · have hfalse := hplain.1 item hitem
      rw [hmember] at hfalse
      cases hfalse

/-- No key has found a member when all items have been shown. -/
theorem plain_of_isOk (hV : V.Lawful) (hp : V.Keyed I p) {items : List Item}
    (hnodup : (items.map V.key).Nodup) (hok : (V.reconcile I p items).isOk = true) :
    ∀ item ∈ items, I.object (V.key item) = false := by
  obtain ⟨pass, done, placed, rest, h, -, hend⟩ := hp.sound.foldlM hV hp
    (show (([] ++ items).map V.key).Nodup from hnodup)
  rcases hend with ⟨-, rfl⟩ | ⟨item, -, -, herror⟩
  · exact h.plain
  · unfold reconcile at hok
    rw [herror] at hok
    cases hok

/-- A child without a key stays as it is. -/
theorem reconciled_keyless (hV : V.Lawful) (hp : V.Keyed I p) {items : List Item}
    (hnodup : (items.map V.key).Nodup) {n : N} (hn : n ∈ p.items V.counts)
    (hkey : V.keyOf n = none) : n ∈ (V.reconciled I p items).items V.counts := by
  obtain ⟨pass, done, placed, rest, h, -, hnode, hend⟩ := reconciled_cases hV hp hnodup
  obtain ⟨r, hr, rfl⟩ := List.mem_map.mp hn
  have hrest : r ∈ rest := by
    refine (h.mem_rest r).mpr ⟨hr, fun item _ => ?_⟩
    rw [hkey]
    nofun
  have hmem : r ∈ (V.reconciled I p items).refs V.counts := by
    rcases hend with ⟨-, hrefs⟩ | ⟨-, hrefs⟩
    · rw [hrefs]
      exact List.mem_append_right _ (List.mem_filter.mpr ⟨hrest, decide_eq_true hkey⟩)
    · rw [hrefs]
      exact List.mem_append_right _ hrest
  have hsame : (V.reconciled I p items).node r = p.node r := by
    rw [hnode]
    exact h.kept r hrest
  exact List.mem_map.mpr ⟨r, hmem, hsame⟩

end View

end Reconcile
