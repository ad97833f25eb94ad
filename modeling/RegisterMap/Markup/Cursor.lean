import RegisterMap.Markup.Element

/-!
# Cursors

A search for the elements of a tag that stops at each one it finds, to be taken up again from there.  The
elements that are still to be visited are on a stack.  Whether an element has the tag is decided when its
children are on the stack already, so the search goes on below the elements that it finds.
-/

namespace RegisterMap
namespace Markup

theorem Element.sizeAll_reverse (es : List Element) : sizeAll es.reverse = sizeAll es := by
  induction es with
  | nil => rfl
  | cons e rest ih =>
      rw [List.reverse_cons, sizeAll_append, ih]
      simp [sizeAll, Nat.add_comm]

/-- A search that is under way. -/
structure Cursor where
  tag : String
  /-- The elements that are still to be visited, together with all below them.  The next one is last. -/
  stack : List Element
deriving Repr, DecidableEq

namespace Cursor

/-- The search in a tree, before its first visit. -/
def start (root : Element) (tag : String) : Cursor :=
  ⟨tag, [root]⟩

/-- A visit to the next element, whose children take its place on the stack.  The first of them is last
there and thus visited first. -/
def visit? (c : Cursor) : Option (Element × Cursor) :=
  c.stack.getLast?.map fun e => (e, { c with stack := c.stack.dropLast ++ e.children.reverse })

/-- The number of visits that are left. -/
def visits (c : Cursor) : Nat :=
  Element.sizeAll c.stack

/-- A visit takes an element off the stack and puts its children there. -/
theorem visit?_eq_some_iff {c c' : Cursor} {e : Element} :
    c.visit? = some (e, c') ↔
      ∃ below, c.stack = below ++ [e] ∧ c' = ⟨c.tag, below ++ e.children.reverse⟩ := by
  rw [visit?, Option.map_eq_some_iff]
  constructor
  · rintro ⟨x, hlast, heq⟩
    obtain ⟨rfl, rfl⟩ := Prod.mk.inj heq
    obtain ⟨below, hstack⟩ := List.getLast?_eq_some_iff.mp hlast
    exact ⟨below, hstack, by simp [hstack]⟩
  · rintro ⟨below, hstack, rfl⟩
    exact ⟨e, by simp [hstack], by simp [hstack]⟩

theorem visits_of_visit? {c c' : Cursor} {e : Element} (h : c.visit? = some (e, c')) :
    c.visits = c'.visits + 1 := by
  obtain ⟨below, hstack, rfl⟩ := visit?_eq_some_iff.mp h
  rw [visits, visits, hstack, Element.sizeAll_append, Element.sizeAll_append,
    Element.sizeAll_reverse, Element.sizeAll, Element.sizeAll, Element.size_eq]
  omega

/-- The next element that has the tag, if there is one, and the cursor after it. -/
def next (c : Cursor) : Option Element × Cursor :=
  match _ : c.visit? with
  | none => (none, c)
  | some (e, c') => if e.tag == c.tag then (some e, c') else c'.next
termination_by c.visits
decreasing_by
  have hvisits := visits_of_visit? ‹c.visit? = some (e, c')›
  omega

end Cursor
end Markup
end RegisterMap
