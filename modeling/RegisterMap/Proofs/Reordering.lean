import Mathlib.Data.List.Forall2
import Mathlib.Logic.Relation
import RegisterMap.Proofs.ReadingFrame

/-!
# Children in another order

A tree in which children of one tag have changed places (`Rearranged`), at some element of it
(`Moved`).  What is found in such a tree is what was found before, as far as its readers go.

* Elements of any other tag are found in the same order, each of them as it was or itself with children
  in another order (`forall₂_descendants`).
* Elements of the tag are found in some order (`perm_descendants`).
-/

namespace RegisterMap
namespace Markup
namespace Element

/-! ### Lists of children -/

/-- The two lists have the same children, and those of other tags than the given one in one order. -/
structure Rearranged (tag : String) (children children' : List Element) : Prop where
  perm : children.Perm children'
  others : children.filter (·.tag ≠ tag) = children'.filter (·.tag ≠ tag)

namespace Rearranged

variable {tag : String} {children children' : List Element}

theorem symm (h : Rearranged tag children children') : Rearranged tag children' children :=
  ⟨h.perm.symm, h.others.symm⟩

/-- What children of the tag have no part in comes out the same. -/
theorem flatMap_eq {α : Type} {f : Element → List α} (h : Rearranged tag children children')
    (hf : ∀ c ∈ children, c.tag = tag → f c = []) : children.flatMap f = children'.flatMap f := by
  have hothers : ∀ cs : List Element, (∀ c ∈ cs, c.tag = tag → f c = []) →
      cs.flatMap f = (cs.filter (·.tag ≠ tag)).flatMap f := by
    intro cs hcs
    induction cs with
    | nil => rfl
    | cons c rest ih =>
        rw [List.forall_mem_cons] at hcs
        by_cases htag : c.tag = tag
        · rw [List.flatMap_cons, hcs.1 htag, List.nil_append, ih hcs.2,
            List.filter_cons_of_neg (by simpa using htag)]
        · rw [List.flatMap_cons, ih hcs.2, List.filter_cons_of_pos (by simpa using htag),
            List.flatMap_cons]
  have hf' : ∀ c ∈ children', c.tag = tag → f c = [] :=
    fun c hc => hf c (h.perm.mem_iff.mpr hc)
  rw [hothers children hf, hothers children' hf', h.others]

end Rearranged

/-! ### Trees -/

/-- The element with children of the tag, which have none themselves, in other places. -/
structure ChildrenMoved (tag : String) (e e' : Element) : Prop where
  bare : e.bare = e'.bare
  childless : ∀ c ∈ e.children, c.tag = tag → c.children = []
  rearranged : Rearranged tag e.children e'.children

/-- The tree with children of the tag in other places, at one of its elements. -/
inductive Moved (tag : String) : Element → Element → Prop
  | here {e e' : Element} (h : ChildrenMoved tag e e') : Moved tag e e'
  | inside {t : String} {attributes : List (String × String)} {before after : List Element}
      {c c' : Element} (h : Moved tag c c') :
      Moved tag ⟨t, attributes, before ++ c :: after⟩ ⟨t, attributes, before ++ c' :: after⟩

variable {tag t : String} {e e' : Element}

theorem ChildrenMoved.symm (h : ChildrenMoved tag e e') : ChildrenMoved tag e' e where
  bare := h.bare.symm
  childless := fun c hc => h.childless c (h.rearranged.perm.mem_iff.mpr hc)
  rearranged := h.rearranged.symm

theorem Moved.symm (h : Moved tag e e') : Moved tag e' e := by
  induction h with
  | here h => exact .here h.symm
  | inside _ ih => exact .inside ih

theorem Moved.bare (h : Moved tag e e') : e.bare = e'.bare := by
  cases h with
  | here h => exact h.bare
  | inside _ => rfl

/-- What holds of two elements of one tag holds of what each is of itself. -/
theorem forall₂_own {S : Element → Element → Prop} (hbare : e.bare = e'.bare) (h : S e e') :
    List.Forall₂ S (own t e) (own t e') := by
  have htag : e.tag = e'.tag := (bare_eq_iff.mp hbare).1
  unfold own
  rw [htag]
  split
  · exact .cons h .nil
  · exact .nil

theorem map_bare_own (h : e.bare = e'.bare) : (own t e).map bare = (own t e').map bare := by
  rw [← List.forall₂_eq_eq_eq, List.forall₂_map_left_iff, List.forall₂_map_right_iff]
  exact forall₂_own h h

theorem descendants_eq_nil_of_childless {c : Element} (hchildless : c.children = [])
    (htag : c.tag ≠ t) : c.descendants t = [] := by
  rw [descendants_eq, hchildless, own, if_neg (by simpa using htag)]
  rfl

theorem forall₂_reflGen {S : Element → Element → Prop} (es : List Element) :
    List.Forall₂ (Relation.ReflGen S) es es :=
  List.forall₂_same.mpr fun _ _ => .refl

/-- Elements of another tag are found in the same order, and differ at most by what is moved below
them. -/
theorem forall₂_descendants (h : Moved tag e e') (ht : t ≠ tag) :
    List.Forall₂ (Relation.ReflGen (Moved tag)) (e.descendants t) (e'.descendants t) := by
  induction h with
  | here h =>
      rw [descendants_eq, descendants_eq]
      -- A child that is moved has nothing below it, so that nothing of another tag moves with it.
      have hbelow := h.rearranged.flatMap_eq (f := (·.descendants t)) fun c hc htag =>
        descendants_eq_nil_of_childless (h.childless c hc htag) (htag ▸ ht.symm)
      rw [hbelow]
      exact List.rel_append (forall₂_own h.bare (Relation.ReflGen.single (Moved.here h)))
        (forall₂_reflGen _)
  | @inside root attributes before after c c' h ih =>
      have hroot : Moved tag ⟨root, attributes, before ++ c :: after⟩
          ⟨root, attributes, before ++ c' :: after⟩ := .inside h
      rw [descendants_eq, descendants_eq]
      -- The root differs by what is moved below it, and of its children only the one that holds this.
      refine List.rel_append (forall₂_own hroot.bare (.single hroot)) ?_
      rw [List.flatMap_append, List.flatMap_append, List.flatMap_cons, List.flatMap_cons]
      exact List.rel_append (forall₂_reflGen _) (List.rel_append ih (forall₂_reflGen _))

/-- Elements of another tag are found in the same order, as far as they go themselves. -/
theorem map_bare_descendants (h : Moved tag e e') (ht : t ≠ tag) :
    (e.descendants t).map bare = (e'.descendants t).map bare := by
  rw [← List.forall₂_eq_eq_eq, List.forall₂_map_left_iff, List.forall₂_map_right_iff]
  refine (forall₂_descendants h ht).imp fun x x' hx => ?_
  cases hx with
  | refl => rfl
  | single hx => exact hx.bare

/-- Elements of the tag are found in some order. -/
theorem perm_descendants (h : Moved tag e e') :
    ((e.descendants tag).map bare).Perm ((e'.descendants tag).map bare) := by
  induction h with
  | here h =>
      rw [descendants_eq, descendants_eq, List.map_append, List.map_append, map_bare_own h.bare]
      exact ((h.rearranged.perm.flatMap_right _).map bare).append_left _
  | inside h ih =>
      rw [descendants_eq, descendants_eq, List.map_append, List.map_append,
        map_bare_own (Moved.inside h).bare]
      simp only [List.flatMap_append, List.flatMap_cons, List.map_append]
      exact ((ih.append_right _).append_left _).append_left _

end Element
end Markup
end RegisterMap
