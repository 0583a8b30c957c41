import Mathlib.Data.Nat.Notation

/-!
# Elements

The elements of a page as far as scripts build and patch them: nodes with classes, a few attributes
and styles, text, and listeners. The children of an element are given with the first child in
front, each node with those that follow it, so that a search goes in the order of the document.
-/

namespace Dom

/-- An element without its children. `A` is what a click can do. -/
structure Element (A : Type) where
  tag : String
  id : String := ""
  /-- The class attribute, word for word. -/
  className : List String := []
  /-- `dataset.id`. -/
  dataId : Option String := none
  colSpan : ℕ := 1
  /-- `style.display`. -/
  display : String := ""
  /-- `style.color`. -/
  color : String := ""
  onClick : Option A := none
  deriving DecidableEq, Repr

/-- Nodes that follow each other. -/
inductive Nodes (A : Type) where
  | nil
  | text (s : String) (next : Nodes A)
  | element (e : Element A) (children next : Nodes A)
  deriving DecidableEq, Repr

/-- One node. -/
inductive Node (A : Type) where
  | text (s : String)
  | element (e : Element A) (children : Nodes A)
  deriving DecidableEq, Repr

variable {A : Type}

namespace Nodes

/-- Two rows of nodes, one behind the other. -/
def append : Nodes A → Nodes A → Nodes A
  | .nil, ms => ms
  | .text s next, ms => .text s (next.append ms)
  | .element e cs next, ms => .element e cs (next.append ms)

/-- What `textContent = s` leaves in an element. -/
def ofText (s : String) : Nodes A := if s = "" then .nil else .text s .nil

/-- `querySelector` and what is done to the element that it finds: the first one that `m` selects
inside one that `a` selects, with its children and the nodes behind it. `inside` says whether the
nodes are inside of such a one already. -/
def modify (a m : Element A → Bool) (f : Element A → Nodes A → Nodes A → Nodes A) :
    Bool → Nodes A → Option (Nodes A)
  | _, .nil => none
  | inside, .text s next => (modify a m f inside next).map (.text s)
  | inside, .element e cs next =>
    if inside && m e then some (f e cs next)
    else match modify a m f (inside || a e) cs with
      | some cs' => some (.element e cs' next)
      | none => (modify a m f inside next).map (.element e cs)

end Nodes

/-- The class is one of the element's. -/
def Element.hasClass (e : Element A) (c : String) : Bool := e.className.contains c

namespace Nodes

/-- What is done to the first element that has a class. -/
def modifyClass (c : String) (f : Element A → Nodes A → Nodes A → Nodes A) (ns : Nodes A) :
    Option (Nodes A) := ns.modify (fun _ => true) (·.hasClass c) f true

/-- The classes of all elements. -/
def classes : Nodes A → List String
  | .nil => []
  | .text _ next => next.classes
  | .element e cs next => e.className ++ (cs.classes ++ next.classes)

end Nodes

namespace Node

/-- The node, and others behind it. -/
def before (n : Node A) (next : Nodes A) : Nodes A :=
  match n with
  | .text s => .text s next
  | .element e cs => .element e cs next

/-- `appendChild`, of one child after the other. -/
def appendChildren (n : Node A) (children : Nodes A) : Node A :=
  match n with
  | .text s => .text s
  | .element e cs => .element e (cs.append children)

/-- `appendChild`. -/
def appendChild (n child : Node A) : Node A := n.appendChildren (child.before .nil)

/-- The node with an attribute, a style or a listener set. -/
def set (n : Node A) (f : Element A → Element A) : Node A :=
  match n with
  | .text s => .text s
  | .element e cs => .element (f e) cs

/-- The element of the node itself. -/
def root (n : Node A) : Option (Element A) :=
  match n with
  | .text _ => none
  | .element e _ => some e

/-- What is done to the first element inside that has a class, if there is one. -/
def modifyClass (n : Node A) (c : String) (f : Element A → Nodes A → Nodes A → Nodes A) :
    Option (Node A) :=
  match n with
  | .text _ => none
  | .element e cs => (cs.modifyClass c f).map (.element e)

/-- The same, and nothing if there is none. -/
def patch (n : Node A) (c : String) (f : Element A → Nodes A → Nodes A → Nodes A) : Node A :=
  (n.modifyClass c f).getD n

/-- The same for the first element that `m` selects inside one that has a class. -/
def patchInside (n : Node A) (c : String) (m : Element A → Bool)
    (f : Element A → Nodes A → Nodes A → Nodes A) : Node A :=
  match n with
  | .text s => .text s
  | .element e cs => .element e ((cs.modify (·.hasClass c) m f (e.hasClass c)).getD cs)

end Node

/-! ## What is done to an element that has been found -/

/-- `textContent = s`. -/
def setText (s : String) (e : Element A) (_ next : Nodes A) : Nodes A :=
  .element e (.ofText s) next

/-- `replaceChildren`, and then `appendChild` of the new ones. -/
def setChildren (children : Nodes A) (e : Element A) (_ next : Nodes A) : Nodes A :=
  .element e children next

/-- `className = words`. -/
def setClass (words : List String) (e : Element A) (cs next : Nodes A) : Nodes A :=
  .element { e with className := words } cs next

/-- `remove`. -/
def removed (_ : Element A) (_ next : Nodes A) : Nodes A := next

/-- `insertBefore(n, el)`. -/
def insertedBefore (n : Node A) (e : Element A) (cs next : Nodes A) : Nodes A :=
  n.before (.element e cs next)

/-- `insertBefore(n, el.nextSibling)`. -/
def insertedAfter (n : Node A) (e : Element A) (cs next : Nodes A) : Nodes A :=
  .element e cs (n.before next)

/-- `document.createElement`, with a class and a text if there are any. -/
def createEl (tag : String) (className : List String) (textContent : String) : Node A :=
  .element { tag, className } (.ofText textContent)

/-! ## Searches -/

section

variable {c : String} {f : Element A → Nodes A → Nodes A → Nodes A} {e : Element A}
  {cs next : Nodes A}

/-- An element without a class. -/
theorem hasClass_eq_false (h : c ∉ e.className) : e.hasClass c = false := by
  unfold Element.hasClass
  simpa using h

/-- The first element is the one. -/
theorem modifyClass_of_mem (h : c ∈ e.className) :
    (Nodes.element e cs next).modifyClass c f = some (f e cs next) := by
  have hclass : e.hasClass c = true := by simpa [Element.hasClass] using h
  unfold Nodes.modifyClass Nodes.modify
  simp [hclass]

/-- It is inside the first element. -/
theorem modifyClass_of_children {cs' : Nodes A} (h : c ∉ e.className)
    (hcs : cs.modifyClass c f = some cs') :
    (Nodes.element e cs next).modifyClass c f = some (.element e cs' next) := by
  unfold Nodes.modifyClass at hcs ⊢
  unfold Nodes.modify
  simp [hasClass_eq_false h, hcs]

/-- Nothing is found where no element has the class. -/
theorem modifyClass_of_notMem {ns : Nodes A} (h : c ∉ ns.classes) : ns.modifyClass c f = none := by
  unfold Nodes.modifyClass
  induction ns with
  | nil => rfl
  | text s next ih =>
    unfold Nodes.modify
    rw [ih h, Option.map_none]
  | element e cs next ihcs ih =>
    unfold Nodes.classes at h
    simp only [List.mem_append, not_or] at h
    obtain ⟨he, hcs, hnext⟩ := h
    unfold Nodes.modify
    simp [hasClass_eq_false he, ihcs hcs, ih hnext]

/-- It is behind the first element. -/
theorem modifyClass_of_next (h : c ∉ e.className) (hcs : cs.modifyClass c f = none) :
    (Nodes.element e cs next).modifyClass c f = (next.modifyClass c f).map (.element e cs) := by
  unfold Nodes.modifyClass at hcs ⊢
  rw [Nodes.modify]
  simp [hasClass_eq_false h, hcs]

/-- What is done inside of a node leaves its own element as it is. -/
theorem root_of_modifyClass {n n' : Node A} (h : n.modifyClass c f = some n') :
    n'.root = n.root := by
  unfold Node.modifyClass at h
  cases n with
  | text s => cases h
  | element e cs =>
    obtain ⟨cs', -, rfl⟩ := Option.map_eq_some_iff.mp h
    rfl

@[inherit_doc root_of_modifyClass]
theorem root_patch (n : Node A) : (n.patch c f).root = n.root := by
  unfold Node.patch
  cases h : n.modifyClass c f with
  | none => rfl
  | some n' => exact root_of_modifyClass h

@[inherit_doc root_of_modifyClass]
theorem root_patchInside (n : Node A) (m : Element A → Bool) :
    (n.patchInside c m f).root = n.root := by
  cases n <;> rfl

/-- A text has no classes. -/
theorem classes_ofText (s : String) : (Nodes.ofText s : Nodes A).classes = [] := by
  unfold Nodes.ofText
  split <;> rfl

/-- Nothing is found in a text. -/
theorem modify_ofText (a m : Element A → Bool) (inside : Bool) (s : String) :
    (Nodes.ofText s).modify a m f inside = none := by
  unfold Nodes.ofText
  split
  · unfold Nodes.modify
    rfl
  · simp [Nodes.modify]

end

end Dom
