import Mathlib.Data.List.Basic
import RegisterMap.Markup.Element

/-!
# Elements below an element

The search for elements of a tag works off a list, and its result is a matter of the tree alone: an
element comes before those below it, and those below one child before those below the next
(`descendants_eq`).

Two ways to change a tree are followed through the search.

* `mapAttributes` gives every element other attributes; the elements found are then those found before,
  each of them changed (`descendants_mapAttributes`).
* `mapFirst` changes the first element of a tag and all below it, which is the first of its tag still
  (`head?_descendants_mapFirst`).
-/

namespace RegisterMap
namespace Markup
namespace Element

/-- What holds of an element whenever it holds of its children holds of every element. -/
@[elab_as_elim]
theorem children_induction {P : Element → Prop} (e : Element)
    (step : ∀ tag attributes children, (∀ c ∈ children, P c) → P ⟨tag, attributes, children⟩) :
    P e :=
  @Element.rec P (fun children => ∀ c ∈ children, P c) step
    (by simp)
    (fun _ _ hfirst hrest => List.forall_mem_cons.mpr ⟨hfirst, hrest⟩)
    e

/-! ### The search -/

/-- The element itself, if it has the tag. -/
def own (tag : String) (e : Element) : List Element :=
  if e.tag == tag then [e] else []

theorem search_cons (tag : String) (e : Element) (pending : List Element) :
    search tag (e :: pending) = own tag e ++ search tag (e.children ++ pending) := by
  rw [search, own]
  split <;> rfl

theorem search_append (tag : String) (es fs : List Element) :
    search tag (es ++ fs) = search tag es ++ search tag fs := by
  -- The list shrinks and grows as elements give way to their children, so the induction is that of the
  -- search.
  fun_induction search tag es with
  | case1 => rfl
  | case2 e pending htag ih =>
      rw [List.append_assoc] at ih
      rw [List.cons_append, search_cons, ih, own, if_pos htag]
      rfl
  | case3 e pending htag ih =>
      rw [List.append_assoc] at ih
      rw [List.cons_append, search_cons, ih, own, if_neg htag]
      rfl

theorem search_eq_flatMap (tag : String) (es : List Element) :
    search tag es = es.flatMap (·.descendants tag) := by
  induction es with
  | nil => simp [search]
  | cons e es ih =>
      rw [List.flatMap_cons, ← ih]
      exact search_append tag [e] es

/-- An element of the tag comes before those below it, and these are found child by child. -/
theorem descendants_eq (e : Element) (tag : String) :
    e.descendants tag = own tag e ++ e.children.flatMap (·.descendants tag) := by
  rw [descendants, search_cons, List.append_nil, search_eq_flatMap]

theorem tag_of_mem_descendants {e x : Element} {tag : String} (h : x ∈ e.descendants tag) :
    x.tag = tag := by
  induction e using children_induction with
  | step t attributes children ih =>
      rw [descendants_eq, List.mem_append, List.mem_flatMap] at h
      rcases h with hown | ⟨c, hc, hbelow⟩
      · unfold own at hown
        split at hown
        · next htag =>
          rw [List.mem_singleton] at hown
          rw [hown]
          exact beq_iff_eq.mp htag
        · simp at hown
      · exact ih c hc hbelow

/-- What is below an element that is below another one is below that one. -/
theorem mem_descendants_trans {e x y : Element} {tag tag' : String} (hx : x ∈ e.descendants tag)
    (hy : y ∈ x.descendants tag') : y ∈ e.descendants tag' := by
  induction e using children_induction with
  | step t attributes children ih =>
      rw [descendants_eq, List.mem_append, List.mem_flatMap] at hx
      rcases hx with hown | ⟨c, hc, hbelow⟩
      · unfold own at hown
        split at hown
        · rw [List.mem_singleton] at hown
          rwa [← hown]
        · simp at hown
      · rw [descendants_eq, List.mem_append, List.mem_flatMap]
        exact .inr ⟨c, hc, ih c hc hbelow⟩

/-! ### Other attributes -/

mutual

/-- The tree with the attributes of every element replaced by those that `f` gives for it. -/
def mapAttributes (f : Element → List (String × String)) : Element → Element
  | ⟨tag, attributes, children⟩ =>
    ⟨tag, f ⟨tag, attributes, children⟩, mapAttributesAll f children⟩

/-- The same for a list of trees. -/
def mapAttributesAll (f : Element → List (String × String)) : List Element → List Element
  | [] => []
  | e :: rest => e.mapAttributes f :: mapAttributesAll f rest

end

variable {f : Element → List (String × String)}

theorem mapAttributesAll_eq_map (es : List Element) :
    mapAttributesAll f es = es.map (mapAttributes f) := by
  induction es with
  | nil => simp [mapAttributesAll]
  | cons e rest ih => rw [mapAttributesAll, ih, List.map_cons]

@[simp] theorem tag_mapAttributes (e : Element) : (e.mapAttributes f).tag = e.tag := by
  cases e
  simp [mapAttributes]

@[simp] theorem attributes_mapAttributes (e : Element) : (e.mapAttributes f).attributes = f e := by
  cases e
  simp [mapAttributes]

@[simp] theorem children_mapAttributes (e : Element) :
    (e.mapAttributes f).children = e.children.map (mapAttributes f) := by
  cases e
  simp [mapAttributes, mapAttributesAll_eq_map]

theorem own_mapAttributes (e : Element) (tag : String) :
    own tag (e.mapAttributes f) = (own tag e).map (mapAttributes f) := by
  unfold own
  rw [tag_mapAttributes]
  split <;> rfl

/-- Attributes have no part in the search. -/
theorem descendants_mapAttributes (e : Element) (tag : String) :
    (e.mapAttributes f).descendants tag = (e.descendants tag).map (mapAttributes f) := by
  induction e using children_induction with
  | step t attributes children ih =>
      rw [descendants_eq, descendants_eq, List.map_append, own_mapAttributes,
        children_mapAttributes, List.flatMap_map, List.map_flatMap]
      congr 1
      exact List.flatMap_congr ih

/-- Attributes that take no account of a first change come out as without it. -/
theorem mapAttributes_mapAttributes {f' : Element → List (String × String)}
    (h : ∀ e : Element, f' (e.mapAttributes f) = f' e) (e : Element) :
    (e.mapAttributes f).mapAttributes f' = e.mapAttributes f' := by
  induction e using children_induction with
  | step t attributes children ih =>
      have hroot := h ⟨t, attributes, children⟩
      simp only [mapAttributes, mapAttributesAll_eq_map] at hroot ⊢
      rw [hroot, List.map_map]
      congr 1
      exact List.map_congr_left ih

/-! ### Another first element -/

mutual

/-- The tree with its first element of a tag, and all below that, changed by `f`; nothing if it has no
such element. -/
def mapFirst (tag : String) (f : Element → Element) : Element → Option Element
  | ⟨t, attributes, children⟩ =>
    if t == tag then some (f ⟨t, attributes, children⟩)
    else (mapFirstAll tag f children).map fun children => ⟨t, attributes, children⟩

/-- The same for a list of trees. -/
def mapFirstAll (tag : String) (f : Element → Element) : List Element → Option (List Element)
  | [] => none
  | e :: rest =>
    match mapFirst tag f e with
    | some e' => some (e' :: rest)
    | none => (mapFirstAll tag f rest).map (e :: ·)

end

section

variable {tag : String} {g : Element → Element}

/-- A tree changes at its root, or else below one of its children. -/
theorem mapFirst_eq_some_iff {e e' : Element} :
    mapFirst tag g e = some e' ↔
      e.tag = tag ∧ e' = g e ∨
        e.tag ≠ tag ∧ ∃ children, mapFirstAll tag g e.children = some children ∧
          e' = ⟨e.tag, e.attributes, children⟩ := by
  obtain ⟨t, attributes, children⟩ := e
  rw [mapFirst]
  by_cases htag : t = tag
  · rw [if_pos (beq_iff_eq.mpr htag)]
    simp only [htag, Option.some.injEq, ne_eq, not_true_eq_false, false_and, true_and, or_false]
    exact eq_comm
  · rw [if_neg (by simpa using htag), Option.map_eq_some_iff]
    simp only [htag, ne_eq, not_false_eq_true, false_and, true_and, false_or]
    exact exists_congr fun _ => and_congr_right fun _ => eq_comm

/-- A list of trees changes in the first of them that does. -/
theorem exists_of_mapFirstAll {es es' : List Element} (h : mapFirstAll tag g es = some es') :
    ∃ before e e' after, es = before ++ e :: after ∧ (∀ x ∈ before, mapFirst tag g x = none) ∧
      mapFirst tag g e = some e' ∧ es' = before ++ e' :: after := by
  induction es generalizing es' with
  | nil => simp [mapFirstAll] at h
  | cons first rest ih =>
      rw [mapFirstAll] at h
      split at h
      · next first' hfirst =>
        obtain rfl := Option.some.inj h
        exact ⟨[], first, first', rest, rfl, by simp, hfirst, rfl⟩
      · next hfirst =>
        obtain ⟨rest', hrest, rfl⟩ := Option.map_eq_some_iff.mp h
        obtain ⟨before, e, e', after, rfl, hbefore, he, rfl⟩ := ih hrest
        refine ⟨first :: before, e, e', after, rfl, ?_, he, rfl⟩
        exact List.forall_mem_cons.mpr ⟨hfirst, hbefore⟩

theorem mapFirst_eq_none_of_mapFirstAll {es : List Element} (h : mapFirstAll tag g es = none) :
    ∀ e ∈ es, mapFirst tag g e = none := by
  induction es with
  | nil => simp
  | cons first rest ih =>
      rw [mapFirstAll] at h
      split at h
      · cases h
      · next hfirst =>
        exact List.forall_mem_cons.mpr ⟨hfirst, ih (Option.map_eq_none_iff.mp h)⟩

theorem descendants_eq_nil_of_mapFirst {e : Element} (h : mapFirst tag g e = none) :
    e.descendants tag = [] := by
  induction e using children_induction with
  | step t attributes children ih =>
      rw [mapFirst] at h
      split at h
      · cases h
      · next htag =>
        have hchildren := mapFirst_eq_none_of_mapFirstAll (Option.map_eq_none_iff.mp h)
        rw [descendants_eq, own, if_neg htag, List.nil_append, List.flatMap_eq_nil_iff]
        exact fun c hc => ih c hc (hchildren c hc)

/-- If a change keeps the tag, the first element of a tag is the changed one after it. -/
theorem head?_descendants_mapFirst (hg : ∀ x, (g x).tag = x.tag) {e e' : Element}
    (h : mapFirst tag g e = some e') :
    ∃ x, (e.descendants tag).head? = some x ∧ (e'.descendants tag).head? = some (g x) := by
  induction e using children_induction generalizing e' with
  | step t attributes children ih =>
      rcases mapFirst_eq_some_iff.mp h with ⟨htag, rfl⟩ | ⟨htag, children', hall, rfl⟩
      · refine ⟨⟨t, attributes, children⟩, ?_, ?_⟩
        · rw [descendants_eq, own, if_pos (beq_iff_eq.mpr htag)]
          rfl
        · rw [descendants_eq, own, if_pos (beq_iff_eq.mpr ((hg _).trans htag))]
          rfl
      · obtain ⟨before, c, c', after, heq, hbefore, hc, rfl⟩ := exists_of_mapFirstAll hall
        -- Nothing is found in the trees before the one that changes.
        have hnone : before.flatMap (·.descendants tag) = [] := by
          rw [List.flatMap_eq_nil_iff]
          exact fun x hx => descendants_eq_nil_of_mapFirst (hbefore x hx)
        change children = before ++ c :: after at heq
        subst heq
        obtain ⟨x, hx, hx'⟩ := ih c (by simp) hc
        have hroot : ∀ siblings, own tag ⟨t, attributes, siblings⟩ = [] :=
          fun _ => if_neg (by simpa using htag)
        refine ⟨x, ?_, ?_⟩
        · rw [descendants_eq, hroot, List.flatMap_append, hnone, List.flatMap_cons]
          simp [hx]
        · rw [descendants_eq, hroot, List.flatMap_append, hnone, List.flatMap_cons]
          simp [hx']

/-- If a change keeps what `mapAttributes` makes of the elements that it is for, it keeps what that makes
of all the tree. -/
theorem mapAttributes_mapFirst (hg : ∀ x, (g x).mapAttributes f = x.mapAttributes f)
    (hf : ∀ t attributes children children', f ⟨t, attributes, children⟩ =
      f ⟨t, attributes, children'⟩) {e e' : Element} (h : mapFirst tag g e = some e') :
    e'.mapAttributes f = e.mapAttributes f := by
  induction e using children_induction generalizing e' with
  | step t attributes children ih =>
      rcases mapFirst_eq_some_iff.mp h with ⟨-, rfl⟩ | ⟨-, children', hall, rfl⟩
      · exact hg _
      -- One child changes; its siblings, and the attributes of all elements above it, do not.
      · obtain ⟨before, c, c', after, heq, -, hc, rfl⟩ := exists_of_mapFirstAll hall
        change children = before ++ c :: after at heq
        subst heq
        simp only [mapAttributes, mapAttributesAll_eq_map, List.map_append, List.map_cons]
        rw [ih c (by simp) hc, hf t attributes _ (before ++ c :: after)]

end

end Element
end Markup
end RegisterMap
