import Mathlib.Data.List.Induction
import Mathlib.Data.List.Perm.Basic
import RegisterMap.Description.Reading

/-!
# Groups of references

References are gathered one by one: each goes to the first group of its document, or else begins a group
at the end.  `addReference_cases` says all that one such step can do, and the rest follows from it by
induction along the references.

* No group is empty, and none of the elements is lost or repeated, whenever two paths count as the same.
* If they do so by a key, such as a normal form, there is one group for each key, in the order in which
  the keys first occur, and it holds the elements of that key in their order (`IsGrouping`).
-/

namespace RegisterMap
namespace Description

variable {same : Path → Path → Bool} {references : List Reference} {groups : List Group}

/-- A reference begins a group if none is its own, and goes to the end of the first that is. -/
theorem addReference_cases (same : Path → Path → Bool) (groups : List Group) (r : Reference) :
    ((∀ g ∈ groups, same g.path r.path = false) ∧
        addReference same groups r = groups ++ [⟨r.path, [r.element]⟩]) ∨
      ∃ before g after, groups = before ++ g :: after ∧
        (∀ g' ∈ before, same g'.path r.path = false) ∧ same g.path r.path = true ∧
        addReference same groups r = before ++ ⟨g.path, g.elements ++ [r.element]⟩ :: after := by
  induction groups with
  | nil => exact .inl ⟨by simp, rfl⟩
  | cons first rest ih =>
      rw [addReference]
      by_cases hfirst : same first.path r.path = true
      · rw [if_pos hfirst]
        exact .inr ⟨[], first, rest, rfl, by simp, hfirst, rfl⟩
      · rw [if_neg hfirst]
        rw [Bool.not_eq_true] at hfirst
        rcases ih with ⟨hnone, heq⟩ | ⟨before, g, after, hgroups, hbefore, hg, heq⟩
        · refine .inl ⟨?_, by rw [heq]; rfl⟩
          rw [List.forall_mem_cons]
          exact ⟨hfirst, hnone⟩
        · refine .inr ⟨first :: before, g, after, by rw [hgroups]; rfl, ?_, hg, by rw [heq]; rfl⟩
          rw [List.forall_mem_cons]
          exact ⟨hfirst, hbefore⟩

theorem groupReferences_append_singleton (same : Path → Path → Bool) (references : List Reference)
    (r : Reference) :
    groupReferences same (references ++ [r]) =
      addReference same (groupReferences same references) r := by
  rw [groupReferences, List.foldl_append]
  rfl

/-! ### Every element in one place -/

theorem elements_ne_nil_addReference (h : ∀ g ∈ groups, g.elements ≠ []) (r : Reference) :
    ∀ g ∈ addReference same groups r, g.elements ≠ [] := by
  rcases addReference_cases same groups r with ⟨-, heq⟩ | ⟨before, g, after, rfl, -, -, heq⟩
  · rw [heq, List.forall_mem_append]
    exact ⟨h, by simp⟩
  · rw [heq]
    simp only [List.forall_mem_append, List.forall_mem_cons] at h ⊢
    exact ⟨h.1, by simp, h.2.2⟩

theorem elements_ne_nil_groupReferences (same : Path → Path → Bool) (references : List Reference) :
    ∀ g ∈ groupReferences same references, g.elements ≠ [] := by
  induction references using List.reverseRecOn with
  | nil => simp [groupReferences]
  | append_singleton references r ih =>
      rw [groupReferences_append_singleton]
      exact elements_ne_nil_addReference ih r

theorem flatMap_elements_addReference (groups : List Group) (r : Reference) :
    ((addReference same groups r).flatMap Group.elements).Perm
      (groups.flatMap Group.elements ++ [r.element]) := by
  rcases addReference_cases same groups r with ⟨-, heq⟩ | ⟨before, g, after, rfl, -, -, heq⟩
  · rw [heq]
    simp
  · rw [heq]
    simp only [List.flatMap_append, List.flatMap_cons, List.append_assoc]
    -- The new element moves over those of the later groups.
    have hmove : ([r.element] ++ after.flatMap Group.elements).Perm
        (after.flatMap Group.elements ++ [r.element]) := List.perm_append_comm
    exact (hmove.append_left _).append_left _

/-- The groups hold the elements of all references, each as often as it is referred from. -/
theorem flatMap_elements_groupReferences (same : Path → Path → Bool)
    (references : List Reference) :
    ((groupReferences same references).flatMap Group.elements).Perm
      (references.map Reference.element) := by
  induction references using List.reverseRecOn with
  | nil => simp [groupReferences]
  | append_singleton references r ih =>
      rw [groupReferences_append_singleton, List.map_append]
      exact (flatMap_elements_addReference _ r).trans (ih.append_right _)

/-! ### One group for each key -/

variable {κ : Type} [DecidableEq κ] {key : Path → κ}

/-- The groups are those of the references by the keys of their paths. -/
structure IsGrouping (key : Path → κ) (references : List Reference) (groups : List Group) :
    Prop where
  /-- There is one group for each key, in the order in which the keys first occur. -/
  keys : groups.map (key ·.path) = (references.map (key ·.path)).eraseDups
  /-- No two groups have one key. -/
  distinct : (groups.map (key ·.path)).Nodup
  /-- A group holds the elements of its key, in their order. -/
  elements : ∀ g ∈ groups,
    g.elements = (references.filter (key ·.path = key g.path)).map Reference.element

theorem elements_append_of_ne {g : Group} {r : Reference}
    (h : g.elements = (references.filter (key ·.path = key g.path)).map Reference.element)
    (hne : key g.path ≠ key r.path) :
    g.elements =
      ((references ++ [r]).filter (key ·.path = key g.path)).map Reference.element := by
  rw [List.filter_append, List.filter_singleton, decide_eq_false hne.symm]
  simpa using h

theorem eraseDups_append_of_mem {k : κ} {ks : List κ} (h : k ∈ ks) :
    (ks ++ [k]).eraseDups = ks.eraseDups := by
  rw [List.eraseDups_append]
  simp [List.removeAll, h]

theorem eraseDups_append_of_not_mem {k : κ} {ks : List κ} (h : k ∉ ks) :
    (ks ++ [k]).eraseDups = ks.eraseDups ++ [k] := by
  rw [List.eraseDups_append]
  simp [List.removeAll, h, List.eraseDups_cons]

/-- A reference with a new key begins a group. -/
theorem IsGrouping.append_new (h : IsGrouping key references groups) {r : Reference}
    (hnew : ∀ g ∈ groups, key g.path ≠ key r.path) :
    IsGrouping key (references ++ [r]) (groups ++ [⟨r.path, [r.element]⟩]) := by
  have hkey : key r.path ∉ groups.map (key ·.path) := by
    rintro hmem
    obtain ⟨g, hg, heq⟩ := List.mem_map.mp hmem
    exact hnew g hg heq
  -- Every reference so far has its key among those of the groups.
  have hkey' : key r.path ∉ references.map (key ·.path) := by
    rwa [h.keys, List.mem_eraseDups] at hkey
  refine ⟨?_, ?_, ?_⟩
  · rw [List.map_append, List.map_append, h.keys]
    exact (eraseDups_append_of_not_mem hkey').symm
  · rw [List.map_append]
    exact List.nodup_append.mpr ⟨h.distinct, by simp, by
      rintro a ha b hb rfl
      rw [List.map_singleton, List.mem_singleton] at hb
      exact hkey (hb ▸ ha)⟩
  · rw [List.forall_mem_append]
    refine ⟨fun g hg => elements_append_of_ne (h.elements g hg) (hnew g hg), ?_⟩
    rw [List.forall_mem_singleton, List.filter_append]
    have hnone : references.filter (key ·.path = key r.path) = [] := by
      rw [List.filter_eq_nil_iff]
      intro r' hr' heq
      rw [decide_eq_true_eq] at heq
      exact hkey' (heq ▸ List.mem_map_of_mem hr')
    rw [hnone]
    simp

/-- A reference with the key of a group goes to its end. -/
theorem IsGrouping.append_old {before after : List Group} {g : Group}
    (h : IsGrouping key references (before ++ g :: after)) {r : Reference}
    (hold : key g.path = key r.path) :
    IsGrouping key (references ++ [r])
      (before ++ ⟨g.path, g.elements ++ [r.element]⟩ :: after) := by
  have hkeys : (before ++ ⟨g.path, g.elements ++ [r.element]⟩ :: after).map (key ·.path) =
      (before ++ g :: after).map (key ·.path) := by
    simp
  have hmem : key r.path ∈ references.map (key ·.path) := by
    rw [← List.mem_eraseDups, ← h.keys, ← hold]
    exact List.mem_map_of_mem (by simp)
  -- No other group has the key, so that the new reference is of no concern to any of them.
  have hdistinct := h.distinct
  rw [List.map_append, List.map_cons, List.perm_middle.nodup_iff, List.nodup_cons,
    ← List.map_append] at hdistinct
  have hother : ∀ g' ∈ before ++ after, key g'.path ≠ key r.path := by
    intro g' hg' heq
    apply hdistinct.1
    rw [hold, ← heq]
    exact List.mem_map_of_mem hg'
  have helements := h.elements
  rw [List.forall_mem_append, List.forall_mem_cons] at helements
  rw [List.forall_mem_append] at hother
  refine ⟨?_, ?_, ?_⟩
  · rw [hkeys, h.keys, List.map_append]
    exact (eraseDups_append_of_mem hmem).symm
  · rw [hkeys]
    exact h.distinct
  · rw [List.forall_mem_append, List.forall_mem_cons]
    refine ⟨?_, ?_, ?_⟩
    · intro g' hg'
      exact elements_append_of_ne (helements.1 g' hg') (hother.1 g' hg')
    · rw [List.filter_append, List.map_append, ← helements.2.1]
      simp [hold]
    · intro g' hg'
      exact elements_append_of_ne (helements.2.2 g' hg') (hother.2 g' hg')

theorem IsGrouping.addReference (hsame : ∀ p q, same p q = true ↔ key p = key q)
    (h : IsGrouping key references groups) (r : Reference) :
    IsGrouping key (references ++ [r]) (addReference same groups r) := by
  rcases addReference_cases same groups r with ⟨hnone, heq⟩ | ⟨before, g, after, rfl, -, hg, heq⟩
  · rw [heq]
    refine h.append_new fun g hg hkey => ?_
    rw [← hsame, hnone g hg] at hkey
    cases hkey
  · rw [heq]
    exact h.append_old ((hsame _ _).mp hg)

/-- One reference after the other keeps the groups those of the references so far. -/
theorem isGrouping_groupReferences (hsame : ∀ p q, same p q = true ↔ key p = key q)
    (references : List Reference) : IsGrouping key references (groupReferences same references) := by
  induction references using List.reverseRecOn with
  | nil => exact ⟨rfl, List.nodup_nil, by simp [groupReferences]⟩
  | append_singleton references r ih =>
      rw [groupReferences_append_singleton]
      exact ih.addReference hsame r

end Description
end RegisterMap
