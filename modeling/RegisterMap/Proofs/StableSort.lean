import Mathlib.Data.List.Permutation

/-!
# Stable sorting

A list in the order of a key, with elements of one key in the order they came in.  Said without a sorting
algorithm this takes two properties (`IsStableSort`); nothing is lost or repeated then
(`IsStableSort.perm`), and a merge sort has both (`isStableSort_mergeSort`).

The two properties leave no choice: lists that agree key by key (`SameByKey`) come out as one sorted list
(`IsStableSort.eq`).  Where no two elements have one key, that takes no more than a permutation
(`sameByKey_of_perm`).
-/

namespace RegisterMap

variable {α : Type}

/-- `sorted` is `list` in the order of the keys, with elements of one key in the order they had. -/
structure IsStableSort (key : α → Nat) (list sorted : List α) : Prop where
  ordered : sorted.Pairwise fun a b => key a ≤ key b
  stable : ∀ k, sorted.filter (key · = k) = list.filter (key · = k)

theorem IsStableSort.perm {key : α → Nat} {list sorted : List α}
    (h : IsStableSort key list sorted) : sorted.Perm list := by
  classical
  rw [List.perm_iff_count]
  intro a
  have hcount := congrArg (List.count a) (h.stable (key a))
  rwa [List.count_filter (by simp), List.count_filter (by simp)] at hcount

/-! ### One result -/

/-- The two lists have the same elements of each key, in the same order. -/
def SameByKey (key : α → Nat) (list list' : List α) : Prop :=
  ∀ k, list.filter (key · = k) = list'.filter (key · = k)

namespace SameByKey

variable {key : α → Nat} {l l' l'' : List α}

theorem refl (key : α → Nat) (l : List α) : SameByKey key l l :=
  fun _ => rfl

theorem symm (h : SameByKey key l l') : SameByKey key l' l :=
  fun k => (h k).symm

theorem trans (h : SameByKey key l l') (h' : SameByKey key l' l'') : SameByKey key l l'' :=
  fun k => (h k).trans (h' k)

theorem cons (h : SameByKey key l l') (a : α) : SameByKey key (a :: l) (a :: l') := by
  intro k
  rw [List.filter_cons, List.filter_cons, h k]

/-- Any element of one list is in the other as well. -/
theorem mem (h : SameByKey key l l') {a : α} (ha : a ∈ l) : a ∈ l' := by
  have hfilter : a ∈ l.filter (key · = key a) := by simp [ha]
  rw [h (key a)] at hfilter
  exact List.mem_of_mem_filter hfilter

theorem tail {a : α} (h : SameByKey key (a :: l) (a :: l')) : SameByKey key l l' := by
  intro k
  have hk := h k
  by_cases ha : key a = k
  · rw [List.filter_cons_of_pos (by simpa using ha),
      List.filter_cons_of_pos (by simpa using ha)] at hk
    exact (List.cons.inj hk).2
  · rwa [List.filter_cons_of_neg (by simpa using ha),
      List.filter_cons_of_neg (by simpa using ha)] at hk

/-- Sorted lists begin with the same element. -/
theorem head_eq {a b : α} (h : SameByKey key (a :: l) (b :: l'))
    (hordered : (a :: l).Pairwise fun x y => key x ≤ key y)
    (hordered' : (b :: l').Pairwise fun x y => key x ≤ key y) : a = b := by
  rw [List.pairwise_cons] at hordered hordered'
  have hleast : ∀ x ∈ a :: l, key a ≤ key x :=
    List.forall_mem_cons.mpr ⟨Nat.le_refl _, hordered.1⟩
  have hleast' : ∀ x ∈ b :: l', key b ≤ key x :=
    List.forall_mem_cons.mpr ⟨Nat.le_refl _, hordered'.1⟩
  -- Each of the two is in the other list, behind its first element if it is not the first.
  have hkey : key a = key b := by
    have hab := hleast b (h.symm.mem List.mem_cons_self)
    have hba := hleast' a (h.mem List.mem_cons_self)
    omega
  have hfirst := h (key a)
  rw [List.filter_cons_of_pos (by simp), List.filter_cons_of_pos (by simp [hkey])] at hfirst
  exact (List.cons.inj hfirst).1

/-- Sorted lists that agree key by key are the same. -/
theorem eq_of_pairwise (h : SameByKey key l l')
    (hordered : l.Pairwise fun x y => key x ≤ key y)
    (hordered' : l'.Pairwise fun x y => key x ≤ key y) : l = l' := by
  induction l generalizing l' with
  | nil =>
      cases l' with
      | nil => rfl
      | cons b rest' => exact absurd (h.symm.mem List.mem_cons_self) List.not_mem_nil
  | cons a rest ih =>
      cases l' with
      | nil => exact absurd (h.mem List.mem_cons_self) List.not_mem_nil
      | cons b rest' =>
          obtain rfl := h.head_eq hordered hordered'
          rw [ih h.tail hordered.of_cons hordered'.of_cons]

end SameByKey

/-- Lists that agree key by key are sorted to one list. -/
theorem IsStableSort.eq {key : α → Nat} {list list' sorted sorted' : List α}
    (h : IsStableSort key list sorted) (h' : IsStableSort key list' sorted')
    (hsame : SameByKey key list list') : sorted = sorted' := by
  have hsorted : SameByKey key sorted sorted' := by
    intro k
    rw [h.stable, h'.stable, hsame k]
  exact hsorted.eq_of_pairwise h.ordered h'.ordered

theorem sameByKey_of_perm {key : α → Nat} {list list' : List α} (hperm : list.Perm list')
    (hkeys : (list.map key).Nodup) : SameByKey key list list' := by
  intro k
  have hfilter : (list.filter (key · = k)).Perm (list'.filter (key · = k)) := hperm.filter _
  have hnodup : ((list.filter (key · = k)).map key).Nodup :=
    hkeys.sublist (List.filter_sublist.map key)
  have hall : ∀ a ∈ list.filter (key · = k), key a = k := by simp
  -- Elements with one and the same key cannot be two.
  cases hcase : list.filter (key · = k) with
  | nil =>
      rw [hcase] at hfilter
      exact (List.nil_perm.mp hfilter).symm
  | cons a rest =>
      cases rest with
      | nil =>
          rw [hcase] at hfilter
          exact List.singleton_perm.mp hfilter
      | cons b rest =>
          rw [hcase] at hnodup hall
          have hab : key a = key b := (hall a (by simp)).trans (hall b (by simp)).symm
          simp [hab] at hnodup

/-! ### Merge sort -/

/-- The order by a key, as a merge sort takes it. -/
private def keyLe (key : α → Nat) (a b : α) : Bool :=
  decide (key a ≤ key b)

private theorem keyLe_trans (key : α → Nat) (a b c : α) (hab : keyLe key a b = true)
    (hbc : keyLe key b c = true) : keyLe key a c = true := by
  simp only [keyLe, decide_eq_true_eq] at *
  omega

private theorem keyLe_total (key : α → Nat) (a b : α) :
    (keyLe key a b || keyLe key b a) = true := by
  simp only [keyLe, Bool.or_eq_true, decide_eq_true_eq]
  omega

private theorem filter_mergeSort_keyLe (key : α → Nat) (list : List α) (k : Nat) :
    (list.mergeSort (keyLe key)).filter (key · = k) = list.filter (key · = k) := by
  have hordered : (list.filter (key · = k)).Pairwise (keyLe key · · = true) := by
    rw [List.pairwise_filter]
    refine List.pairwise_of_forall fun a b ha hb => ?_
    simp only [keyLe, decide_eq_true_eq] at *
    omega
  -- The elements of one key are in order already, so the sort keeps them as a sublist.
  have hsublist := (List.sublist_mergeSort (keyLe_trans key) (keyLe_total key) hordered
    List.filter_sublist).filter (key · = k)
  rw [List.filter_filter] at hsublist
  simp only [Bool.and_self] at hsublist
  have hlength := ((List.mergeSort_perm list (keyLe key)).filter (key · = k)).length_eq
  exact (hsublist.eq_of_length hlength.symm).symm

theorem isStableSort_mergeSort (key : α → Nat) (list : List α) :
    IsStableSort key list (list.mergeSort fun a b => decide (key a ≤ key b)) where
  ordered := by
    refine (List.pairwise_mergeSort (keyLe_trans key) (keyLe_total key) list).imp ?_
    intro a b h
    exact of_decide_eq_true h
  stable := filter_mergeSort_keyLe key list

end RegisterMap
