/-!
# Elements

The tree that a markup document is read into: a tag, attributes in the order in which they are written,
and child elements.  Text between elements is not kept.

Elements are looked up in document order.  `Element.preorder` states that order by recursion on the
tree; `Element.descendants` finds the elements with a tag by working off a list of elements that are
still to be visited, so that the depth of the tree does not matter to it.
-/

namespace RegisterMap
namespace Markup

/-- An element of a document. -/
structure Element where
  tag : String
  attributes : List (String × String)
  children : List Element
deriving Repr, Inhabited

namespace Element

/-- An element without attributes and children. -/
def empty (tag : String) : Element :=
  ⟨tag, [], []⟩

mutual

/-- Equality of elements is decided along the tree. -/
def decEq : (e f : Element) → Decidable (e = f)
  | ⟨tag, attributes, children⟩, ⟨tag', attributes', children'⟩ =>
    match decEqAll children children' with
    | isTrue hchildren =>
      if h : tag = tag' ∧ attributes = attributes' then
        isTrue (by rw [h.1, h.2, hchildren])
      else
        isFalse fun heq => h (by injection heq with ht ha; exact ⟨ht, ha⟩)
    | isFalse hchildren => isFalse fun heq => hchildren (by injection heq)

/-- Equality of lists of elements is decided one by one. -/
def decEqAll : (es fs : List Element) → Decidable (es = fs)
  | [], [] => isTrue rfl
  | [], _ :: _ => isFalse nofun
  | _ :: _, [] => isFalse nofun
  | e :: es, f :: fs =>
    match decEq e f, decEqAll es fs with
    | isTrue h, isTrue hs => isTrue (by rw [h, hs])
    | isFalse h, _ => isFalse fun heq => h (by injection heq)
    | _, isFalse hs => isFalse fun heq => hs (by injection heq)

end

instance : DecidableEq Element :=
  decEq

/-- The value of the first attribute with that key. -/
def attribute? (e : Element) (key : String) : Option String :=
  e.attributes.lookup key

/-- The element with an attribute set: it takes the place of every attribute with that key and comes
last. -/
def withAttribute (e : Element) (key value : String) : Element :=
  { e with attributes := e.attributes.filter (·.1 != key) ++ [(key, value)] }

/-- The element with one more child, the last. -/
def withChild (e child : Element) : Element :=
  { e with children := e.children ++ [child] }

mutual

/-- The number of elements in a tree. -/
def size : Element → Nat
  | ⟨_, _, children⟩ => 1 + sizeAll children

/-- The number of elements in a list of trees. -/
def sizeAll : List Element → Nat
  | [] => 0
  | e :: rest => e.size + sizeAll rest

end

mutual

/-- The elements of a tree in document order: an element, then those below its children in turn. -/
def preorder : Element → List Element
  | ⟨tag, attributes, children⟩ => ⟨tag, attributes, children⟩ :: preorderAll children

/-- The elements of a list of trees in document order. -/
def preorderAll : List Element → List Element
  | [] => []
  | e :: rest => e.preorder ++ preorderAll rest

end

theorem size_eq (e : Element) : e.size = 1 + sizeAll e.children := by
  cases e
  simp [size]

theorem sizeAll_append (es fs : List Element) : sizeAll (es ++ fs) = sizeAll es + sizeAll fs := by
  induction es with
  | nil => simp [sizeAll]
  | cons e rest ih => simp [sizeAll, ih, Nat.add_assoc]

/-- The elements with that tag among trees that are still to be visited, the first one first. -/
def search (tag : String) : List Element → List Element
  | [] => []
  | e :: pending =>
    if e.tag == tag then
      e :: search tag (e.children ++ pending)
    else
      search tag (e.children ++ pending)
termination_by pending => sizeAll pending
decreasing_by
  all_goals
    simp only [sizeAll, sizeAll_append, size_eq]
    omega

/-- The elements with that tag in a tree, its root included, in document order. -/
def descendants (e : Element) (tag : String) : List Element :=
  search tag [e]

end Element
end Markup
end RegisterMap
