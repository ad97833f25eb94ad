import RegisterMap.Markup.Cursor
import RegisterMap.Proofs.Descendants

/-!
# Document order

The elements of a tag are found in document order, each as often as it stands in the tree.  That order is stated
without a search, and in two ways: by recursion on the tree (`Element.preorder`), and by the places of the
elements (`Element.InDocumentOrder`).  A place gives the numbers of the children on the way to an element;
places are ordered as words are, so that an element comes before those below it.

Both searches keep to it, the one that works off a list of trees (`Element.descendants`) and the one that is
taken up again for each element (`Cursor`).  What a cursor still finds is a matter of its stack alone
(`Cursor.remaining`), and `Cursor.next` takes the first of it.
-/

namespace RegisterMap
namespace Markup

namespace Element

/-! ### By recursion -/

theorem preorderAll_eq_flatMap (es : List Element) : preorderAll es = es.flatMap preorder := by
  induction es with
  | nil => rw [preorderAll, List.flatMap_nil]
  | cons e rest ih => rw [preorderAll, ih, List.flatMap_cons]

theorem preorder_eq (e : Element) : e.preorder = e :: e.children.flatMap preorder := by
  cases e
  rw [preorder, preorderAll_eq_flatMap]

theorem descendants_eq_filter (e : Element) (tag : String) :
    e.descendants tag = e.preorder.filter (·.tag == tag) := by
  induction e using children_induction with
  | step t attributes children ih =>
      have hbelow : children.flatMap (·.descendants tag) =
          (children.flatMap preorder).filter (·.tag == tag) := by
        rw [List.filter_flatMap]
        exact List.flatMap_congr ih
      rw [descendants_eq, preorder_eq, List.filter_cons, hbelow, own]
      split <;> rfl

/-! ### By places -/

/-- The element at a place. -/
def elementAt? : Element → List Nat → Option Element
  | e, [] => some e
  | e, i :: place => e.children[i]?.bind fun c => c.elementAt? place

mutual

/-- The places of the elements with that tag. -/
def places (tag : String) : Element → List (List Nat)
  | ⟨t, _, children⟩ => (if t == tag then [[]] else []) ++ placesFrom tag 0 children

/-- The places of the elements with that tag below children that are numbered from `i` on. -/
def placesFrom (tag : String) (i : Nat) : List Element → List (List Nat)
  | [] => []
  | e :: rest => (e.places tag).map (i :: ·) ++ placesFrom tag (i + 1) rest

end

variable {tag : String}

theorem places_eq (e : Element) :
    e.places tag = (if e.tag == tag then [[]] else []) ++ placesFrom tag 0 e.children := by
  cases e
  rw [places]

theorem mem_placesFrom_iff {es : List Element} {i : Nat} {place : List Nat} :
    place ∈ placesFrom tag i es ↔
      ∃ k e below, es[k]? = some e ∧ below ∈ e.places tag ∧ place = (i + k) :: below := by
  induction es generalizing i with
  | nil => simp [placesFrom]
  | cons first rest ih =>
      rw [placesFrom, List.mem_append, List.mem_map, ih]
      constructor
      · rintro (⟨below, hbelow, rfl⟩ | ⟨k, e, below, he, hbelow, rfl⟩)
        · exact ⟨0, first, below, rfl, hbelow, rfl⟩
        · exact ⟨k + 1, e, below, he, hbelow, by rw [Nat.add_right_comm, Nat.add_assoc]⟩
      · rintro ⟨k, e, below, he, hbelow, rfl⟩
        cases k with
        | zero =>
            obtain rfl := Option.some.inj he
            exact .inl ⟨below, hbelow, rfl⟩
        | succ k => exact .inr ⟨k, e, below, he, hbelow, by rw [Nat.add_right_comm, Nat.add_assoc]⟩

/-- The places of a tag are those where an element with the tag stands. -/
theorem mem_places_iff {e : Element} {place : List Nat} :
    place ∈ e.places tag ↔ ∃ x, e.elementAt? place = some x ∧ x.tag = tag := by
  induction e using children_induction generalizing place with
  | step t attributes children ih =>
      rw [places_eq, List.mem_append, mem_placesFrom_iff]
      cases place with
      | nil => by_cases htag : t = tag <;> simp [elementAt?, htag]
      | cons i below =>
          have hroot : i :: below ∉ (if t == tag then [[]] else []) := by split <;> simp
          simp only [hroot, false_or, Nat.zero_add, List.cons.injEq, elementAt?]
          constructor
          · rintro ⟨k, c, _, hc, hbelow, rfl, rfl⟩
            rw [hc]
            exact (ih c (List.mem_of_getElem? hc)).mp hbelow
          · rintro ⟨x, hx, htag⟩
            obtain ⟨c, hc, hx⟩ := Option.bind_eq_some_iff.mp hx
            exact ⟨i, c, below, hc, (ih c (List.mem_of_getElem? hc)).mpr ⟨x, hx, htag⟩, rfl, rfl⟩

theorem pairwise_placesFrom {es : List Element}
    (h : ∀ e ∈ es, (e.places tag).Pairwise (· < ·)) (i : Nat) :
    (placesFrom tag i es).Pairwise (· < ·) := by
  induction es generalizing i with
  | nil => simp [placesFrom]
  | cons first rest ih =>
      obtain ⟨hfirst, hrest⟩ := List.forall_mem_cons.mp h
      rw [placesFrom, List.pairwise_append, List.pairwise_map]
      refine ⟨hfirst.imp fun hlt => List.cons_lt_cons_self.mpr hlt, ih hrest (i + 1), ?_⟩
      intro place hplace place' hplace'
      -- The two places differ in their first number, that of the child.
      obtain ⟨below, -, rfl⟩ := List.mem_map.mp hplace
      obtain ⟨k, e, below', -, -, rfl⟩ := mem_placesFrom_iff.mp hplace'
      exact List.Lex.rel (by omega)

/-- An element comes before those below it, and these come child by child. -/
theorem pairwise_places (e : Element) : (e.places tag).Pairwise (· < ·) := by
  induction e using children_induction with
  | step t attributes children ih =>
      rw [places_eq, List.pairwise_append]
      refine ⟨by split <;> simp, pairwise_placesFrom ih 0, ?_⟩
      intro place hplace place' hplace'
      -- The root's place is empty, and no other one is.
      obtain rfl : place = [] := by
        split at hplace
        · exact List.mem_singleton.mp hplace
        · simp at hplace
      obtain ⟨k, c, below, -, -, rfl⟩ := mem_placesFrom_iff.mp hplace'
      exact List.Lex.nil

theorem map_elementAt?_placesFrom {e : Element} {es : List Element}
    (h : ∀ c ∈ es, (c.places tag).map c.elementAt? = (c.descendants tag).map some) {i : Nat}
    (hes : ∀ k, e.children[i + k]? = es[k]?) :
    (placesFrom tag i es).map e.elementAt? = (es.flatMap (·.descendants tag)).map some := by
  induction es generalizing i with
  | nil => simp [placesFrom]
  | cons first rest ih =>
      obtain ⟨hfirst, hrest⟩ := List.forall_mem_cons.mp h
      have hchild : ∀ place, e.elementAt? (i :: place) = first.elementAt? place := by
        intro place
        have hi : e.children[i]? = some first := hes 0
        rw [elementAt?, hi, Option.bind_some]
      have hnext : ∀ k, e.children[i + 1 + k]? = rest[k]? := by
        intro k
        rw [Nat.add_assoc, Nat.add_comm 1 k]
        exact hes (k + 1)
      rw [placesFrom, List.map_append, ih hrest hnext, List.map_map, List.flatMap_cons,
        List.map_append, ← hfirst]
      exact congrArg (· ++ _) (List.map_congr_left fun place _ => hchild place)

/-- At the places of a tag are the elements that are found, in that order. -/
theorem map_elementAt?_places (e : Element) :
    (e.places tag).map e.elementAt? = (e.descendants tag).map some := by
  induction e using children_induction with
  | step t attributes children ih =>
      rw [places_eq, List.map_append, descendants_eq, List.map_append,
        map_elementAt?_placesFrom ih fun k => by rw [Nat.zero_add]]
      refine congrArg (· ++ _) ?_
      rw [own]
      split <;> rfl

/-- The elements are those with that tag in a tree, one for each place of such an element, and in the order of
the places. -/
def InDocumentOrder (root : Element) (tag : String) (found : List Element) : Prop :=
  ∃ places : List (List Nat), places.Pairwise (· < ·) ∧
    (∀ place, place ∈ places ↔ ∃ e, root.elementAt? place = some e ∧ e.tag = tag) ∧
    places.map root.elementAt? = found.map some

theorem inDocumentOrder_descendants (root : Element) (tag : String) :
    root.InDocumentOrder tag (root.descendants tag) :=
  ⟨root.places tag, pairwise_places root, fun _ => mem_places_iff, map_elementAt?_places root⟩

end Element

namespace Cursor

open Element (own search search_cons)

/-! ### By a cursor -/

/-- The elements that a cursor has yet to find. -/
def remaining (c : Cursor) : List Element :=
  search c.tag c.stack.reverse

/-- A visit takes the top of the stack off and puts its children in its place, the first of them on top.
-/
theorem remaining_of_visit? {c c' : Cursor} {e : Element} (h : c.visit? = some (e, c')) :
    c.remaining = own c.tag e ++ c'.remaining := by
  obtain ⟨below, hstack, rfl⟩ := visit?_eq_some_iff.mp h
  rw [remaining, remaining, hstack, List.reverse_append, List.reverse_singleton,
    List.singleton_append, search_cons, List.reverse_append, List.reverse_reverse]

theorem visit?_eq_none_iff {c : Cursor} : c.visit? = none ↔ c = ⟨c.tag, []⟩ := by
  obtain ⟨tag, stack⟩ := c
  simp [visit?]

/-- The next element is the first that remains; if none does, all of the tree has been visited. -/
theorem next_cases (c : Cursor) :
    (c.remaining = [] ∧ c.next = (none, ⟨c.tag, []⟩)) ∨
      ∃ e c', c.next = (some e, c') ∧ c.remaining = e :: c'.remaining := by
  fun_induction next c with
  | case1 c h =>
      refine .inl ⟨?_, ?_⟩
      · rw [visit?_eq_none_iff.mp h, remaining, List.reverse_nil, search]
      · rw [← visit?_eq_none_iff.mp h]
  | case2 c e c' h htag =>
      refine .inr ⟨e, c', rfl, ?_⟩
      rw [remaining_of_visit? h, own, if_pos htag, List.singleton_append]
  | case3 c e c' h htag ih =>
      rw [remaining_of_visit? h, own, if_neg htag, List.nil_append]
      -- A visit keeps the tag, so the search that goes on is still for the same elements.
      obtain ⟨below, -, rfl⟩ := visit?_eq_some_iff.mp h
      exact ih

/-- Asked for the next element again and again, the cursor gives these elements and is then the second one. -/
inductive Yields : Cursor → List Element → Cursor → Prop
  | refl (c : Cursor) : Yields c [] c
  | next {c c' last : Cursor} {e : Element} {found : List Element} (hnext : c.next = (some e, c'))
      (hrest : Yields c' found last) : Yields c (e :: found) last

/-- The cursor gives these elements and then none, however often it is asked. -/
def Exhausts (c : Cursor) (found : List Element) : Prop :=
  ∃ last finished, c.Yields found last ∧ last.next = (none, finished) ∧
    finished.next = (none, finished)

/-- What was given and what is yet to come make up what there was to come. -/
theorem Yields.remaining_eq {c last : Cursor} {found : List Element} (h : c.Yields found last) :
    c.remaining = found ++ last.remaining := by
  induction h with
  | refl c => rfl
  | next hnext _ ih =>
      rcases next_cases _ with ⟨-, hnone⟩ | ⟨e, c', hsome, hremaining⟩
      · rw [hnext] at hnone
        cases hnone
      · rw [hnext] at hsome
        cases hsome
        rw [hremaining, ih, List.cons_append]

theorem next_nil (tag : String) : next ⟨tag, []⟩ = (none, ⟨tag, []⟩) := by
  rw [next]
  rfl

/-- A cursor comes to an end, and until then it gives all that remains. -/
theorem exhausts_remaining (c : Cursor) : c.Exhausts c.remaining := by
  -- Each call takes the first of what remains, so the induction is on that and not on the stack.
  generalize hfound : c.remaining = found
  induction found generalizing c with
  | nil =>
      rcases next_cases c with ⟨-, hnone⟩ | ⟨e, c', -, hsome⟩
      · exact ⟨c, _, .refl c, hnone, next_nil c.tag⟩
      · rw [hfound] at hsome
        cases hsome
  | cons e found ih =>
      rcases next_cases c with ⟨hnil, -⟩ | ⟨x, c', hnext, hsome⟩
      · rw [hfound] at hnil
        cases hnil
      · obtain ⟨rfl, hrest⟩ := List.cons.inj (hfound.symm.trans hsome)
        obtain ⟨last, finished, hyields, hnone, hfinished⟩ := ih c' hrest.symm
        exact ⟨last, finished, .next hnext hyields, hnone, hfinished⟩

theorem remaining_of_next {c c' : Cursor} (h : c.next = (none, c')) : c.remaining = [] := by
  rcases next_cases c with ⟨hnil, -⟩ | ⟨e, c'', hsome, -⟩
  · exact hnil
  · rw [h] at hsome
    cases hsome

theorem exhausts_iff {c : Cursor} {found : List Element} :
    c.Exhausts found ↔ found = c.remaining := by
  constructor
  · rintro ⟨last, finished, hyields, hnone, -⟩
    rw [hyields.remaining_eq, remaining_of_next hnone, List.append_nil]
  · rintro rfl
    exact exhausts_remaining c

theorem remaining_start (root : Element) (tag : String) :
    (start root tag).remaining = root.descendants tag :=
  rfl

/-- A cursor gives the elements with the tag in the order of a walk through the tree that visits an element before
its children, and then none.  The list of them is what the search for descendants gives too, and it has each
element once for each place where it stands. -/
theorem exhausts_preorder (root : Element) (tag : String) :
    (∀ found, (start root tag).Exhausts found ↔ found = root.preorder.filter (·.tag == tag)) ∧
      root.descendants tag = root.preorder.filter (·.tag == tag) ∧
      root.InDocumentOrder tag (root.preorder.filter (·.tag == tag)) := by
  rw [← Element.descendants_eq_filter]
  refine ⟨fun found => ?_, rfl, Element.inDocumentOrder_descendants root tag⟩
  rw [exhausts_iff, remaining_start]

/-- A field within a field is found after it and before the next one. -/
example :
    (Element.descendants ⟨"register", [], [
      ⟨"bitfield", [("id", "A")], [⟨"bitfield", [("id", "WITHIN")], []⟩]⟩,
      ⟨"bitfield", [("id", "B")], []⟩]⟩ "bitfield").map (·.attribute? "id") =
      [some "A", some "WITHIN", some "B"] := by
  rw [Element.descendants_eq_filter]
  decide

end Cursor
end Markup
end RegisterMap
