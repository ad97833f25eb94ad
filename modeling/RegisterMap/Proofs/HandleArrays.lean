import Mathlib.Data.List.Nodup
import RegisterMap.Header.Handle
import RegisterMap.Proofs.CapitalWords
import RegisterMap.Proofs.NumberText

/-!
# Arrays of handles

An array has the handle of each instance at the instance's index.  Indices are not checked against each
other by name: two instances may have one index by their names (`T1`, `T01`), and that is refused; but
two instances of different indices have different names, and so they do in upper case, since a number is
the same in either case (`name_eq_of_upper_eq`).
-/

namespace RegisterMap
namespace Header

open Description (instanceIndex?)

/-! ### Names with a number -/

theorem toList_upper (s : String) : (Text.upper s).toList = s.toList.flatMap Text.upperChar := by
  rw [Text.upper, String.toList_ofList]

/-- Digits have no upper case of their own. -/
theorem flatMap_upperChar_digits {digits : List Char} (h : ∀ c ∈ digits, c.isDigit = true) :
    digits.flatMap Text.upperChar = digits := by
  rw [← List.flatMap_singleton' digits, List.flatMap_assoc]
  refine List.flatMap_congr fun c hc => ?_
  have hword : isWordChar c = true := by simp [isWordChar, h c hc]
  rw [List.flatMap_singleton, Text.upperChar, if_pos (toNat_lt_of_isWordChar hword),
    toUpper_of_isWordChar hword]

theorem flatMap_upperChar_sign :
    ∀ sign ∈ [[], ['-'], ['+']], sign.flatMap Text.upperChar = sign := by
  decide

/-- A signed number is a sign or nothing, and after it a digit or more. -/
theorem exists_sign_digits {bits : Nat} {cs : List Char} {n : Int}
    (h : Numeral.signed? 10 bits cs = some n) :
    ∃ sign digits, cs = sign ++ digits ∧ sign ∈ [[], ['-'], ['+']] ∧ digits ≠ [] ∧
      ∀ c ∈ digits, c.isDigit = true := by
  obtain ⟨⟨sign, digits, m, rfl, hspells, hsign⟩, -⟩ := Numeral.signed?_eq_some_iff.mp h
  refine ⟨sign, digits, rfl, ?_, hspells.ne_nil, fun c hc => ?_⟩
  · rcases hsign with ⟨rfl | rfl, -⟩ | ⟨rfl, -⟩ <;> simp
  · obtain ⟨d, hd⟩ := hspells.exists_digit (by decide) hc
    exact Numeral.isDigit_of_digit?_ten hd

/-- The name of a numbered instance is that of its definition and a numeral, which ends in a digit and
is its own upper-case form. -/
theorem exists_numeral {name definition : String} {n : Int}
    (h : instanceIndex? name definition = some n) :
    ∃ numeral, name.toList = definition.toList ++ numeral ∧
      (Text.upper name).toList = definition.toList.flatMap Text.upperChar ++ numeral ∧
      ∃ c ∈ numeral.getLast?, c.isDigit = true := by
  unfold instanceIndex? at h
  split at h
  · next rest hrest =>
    obtain ⟨sign, digits, rfl, hsign, hne, hdigits⟩ := exists_sign_digits h
    have hname := Text.after?_eq_some_iff.mp hrest
    refine ⟨sign ++ digits, hname, ?_, ?_⟩
    · rw [toList_upper, hname, List.flatMap_append, List.flatMap_append,
        flatMap_upperChar_sign sign hsign, flatMap_upperChar_digits hdigits]
    · refine ⟨digits.getLast hne, ?_, hdigits _ (List.getLast_mem hne)⟩
      rw [List.getLast?_append, List.getLast?_eq_some_getLast hne]
      rfl
  · cases h

/-- Numbered instances of one definition can be told apart by their names in upper case. -/
theorem name_eq_of_upper_eq {name name' definition : String} {n n' : Int}
    (h : instanceIndex? name definition = some n)
    (h' : instanceIndex? name' definition = some n') (heq : Text.upper name = Text.upper name') :
    name = name' := by
  obtain ⟨numeral, hname, hupper, -⟩ := exists_numeral h
  obtain ⟨numeral', hname', hupper', -⟩ := exists_numeral h'
  -- The definition is the same for both, and so is its upper case; the numerals are what is left.
  have hnumerals : numeral = numeral' := by
    have hchars := congrArg String.toList heq
    rw [hupper, hupper'] at hchars
    exact List.append_cancel_left hchars
  apply String.toList_injective
  rw [hname, hname', hnumerals]

/-- A handle is not taken for an empty entry, since its name ends in a digit. -/
theorem upper_ne_null {name definition : String} {n : Int}
    (h : instanceIndex? name definition = some n) : Text.upper name ≠ "NULL" := by
  obtain ⟨numeral, -, hupper, c, hc, hdigit⟩ := exists_numeral h
  intro heq
  have hlast : (Text.upper name).toList.getLast? = some c := by
    rw [hupper, List.getLast?_append, Option.mem_def.mp hc]
    rfl
  rw [heq] at hlast
  obtain rfl : 'L' = c := Option.some.inj hlast
  cases hdigit

/-! ### Slots -/

/-- The instances have the indices that their names give. -/
def IsNumberedByName (p : Peripheral) : Prop :=
  ∀ i ∈ p.instances, i.index = (instanceIndex? i.name p.name).map Int.toNat

/-- The entries of an array, as they are written. -/
def HandleArray.entries (a : HandleArray) : List String :=
  a.slots.map fun slot => slot.getD "NULL"

/-- The array lists the handles of a peripheral's instances by their indices. -/
structure HandleArray.Lists (a : HandleArray) (p : Peripheral) : Prop where
  /-- The last entry is for the largest index. -/
  length : ∃ i ∈ p.instances, ∃ m, i.index = some m ∧
    (∀ j ∈ p.instances, ∀ k, j.index = some k → k ≤ m) ∧ a.entries.length = m + 1
  /-- An instance stands at its index. -/
  entry : ∀ i ∈ p.instances, ∀ k, i.index = some k → a.entries[k]? = some (Text.upper i.name)
  /-- Where there is no instance the entry is null. -/
  null : ∀ k < a.entries.length, (∀ i ∈ p.instances, i.index ≠ some k) →
    a.entries[k]? = some "NULL"
  /-- No instance stands at two places. -/
  once : ∀ i ∈ p.instances, ∃! k : Nat, a.entries[k]? = some (Text.upper i.name)

/-- A peripheral has an array exactly if it has several instances and all of them are numbered. -/
structure IsArrayOf (p : Peripheral) (array? : Option HandleArray) : Prop where
  present : array?.isSome = true ↔ 1 < p.instances.length ∧ ∀ i ∈ p.instances, i.index.isSome = true
  lists : ∀ a ∈ array?, a.Lists p

section

variable {p : Peripheral} {indices : List Nat} {k : Nat}

theorem map_index_of_mapM (h : p.instances.mapM Instance.index = some indices) :
    p.instances.map Instance.index = indices.map some := by
  have hall := mapM_eq_some_iff.mp h
  rw [← List.forall₂_eq_eq_eq, List.forall₂_map_left_iff, List.forall₂_map_right_iff]
  exact hall

theorem filterMap_index_of_mapM (h : p.instances.mapM Instance.index = some indices) :
    p.instances.filterMap Instance.index = indices := by
  have hid : p.instances.filterMap Instance.index =
      (p.instances.map Instance.index).filterMap id := by
    rw [List.filterMap_map]
    rfl
  rw [hid, map_index_of_mapM h, List.filterMap_map]
  exact List.filterMap_some

theorem mem_indices_of_mapM (h : p.instances.mapM Instance.index = some indices) :
    k ∈ indices ↔ ∃ i ∈ p.instances, i.index = some k := by
  rw [← filterMap_index_of_mapM h, List.mem_filterMap]

theorem nodup_map_index_of_mapM (h : p.instances.mapM Instance.index = some indices)
    (hnodup : indices.Nodup) : (p.instances.map Instance.index).Nodup := by
  rw [map_index_of_mapM h]
  exact hnodup.map fun _ _ => Option.some.inj

/-- No two instances have one index. -/
theorem eq_of_index_eq (h : p.instances.mapM Instance.index = some indices) (hnodup : indices.Nodup)
    {i j : Instance} (hi : i ∈ p.instances) (hj : j ∈ p.instances) (hindex : i.index = j.index) :
    i = j :=
  List.inj_on_of_nodup_map (nodup_map_index_of_mapM h hnodup) hi hj hindex

theorem find?_index (h : p.instances.mapM Instance.index = some indices) (hnodup : indices.Nodup)
    {i : Instance} (hi : i ∈ p.instances) (hindex : i.index = some k) :
    (p.instances.find? fun j => j.index == some k) = some i := by
  cases hfind : p.instances.find? fun j => j.index == some k with
  | none =>
      have hno := List.find?_eq_none.mp hfind i hi
      simp [hindex] at hno
  | some j =>
      have hj := List.find?_some hfind
      rw [beq_iff_eq] at hj
      rw [eq_of_index_eq h hnodup (List.mem_of_find?_eq_some hfind) hi (hj.trans hindex.symm)]

theorem length_entries (name : String) (instances : List Instance) (indices : List Nat) :
    (⟨name, HandleArray.slotsOf instances indices⟩ : HandleArray).entries.length =
      indices.foldl max 0 + 1 := by
  simp [HandleArray.entries, HandleArray.slotsOf]

theorem getElem?_entries (name : String) (instances : List Instance) (indices : List Nat)
    (hk : k < indices.foldl max 0 + 1) :
    (⟨name, HandleArray.slotsOf instances indices⟩ : HandleArray).entries[k]? =
      some (((instances.find? fun i => i.index == some k).map fun i => Text.upper i.name).getD
        "NULL") := by
  rw [HandleArray.entries, HandleArray.slotsOf, List.getElem?_map, List.getElem?_map,
    List.getElem?_range hk]
  rfl

/-- The largest index is one of the indices. -/
theorem foldl_max_eq (hne : indices ≠ []) :
    indices.foldl max 0 ∈ indices ∧ ∀ k ∈ indices, k ≤ indices.foldl max 0 := by
  obtain ⟨m, hm⟩ := Option.isSome_iff_exists.mp (List.isSome_max?_of_ne_nil hne)
  have hfold : indices.foldl max 0 = m := by
    rw [List.foldl_max, hm]
    simp
  rw [hfold]
  exact List.max?_eq_some_iff.mp hm

theorem exists_instanceIndex? (hnumbered : IsNumberedByName p) {i : Instance} (hi : i ∈ p.instances)
    (hindex : i.index = some k) : ∃ n, instanceIndex? i.name p.name = some n ∧ n.toNat = k := by
  rw [hnumbered i hi] at hindex
  exact Option.map_eq_some_iff.mp hindex

/-- Instances whose names are the same in upper case have the same index. -/
theorem index_eq_of_upper_eq (hnumbered : IsNumberedByName p) {i j : Instance}
    (hi : i ∈ p.instances) (hj : j ∈ p.instances) {k l : Nat} (hk : i.index = some k)
    (hl : j.index = some l) (heq : Text.upper i.name = Text.upper j.name) : k = l := by
  obtain ⟨m, hm, rfl⟩ := exists_instanceIndex? hnumbered hi hk
  obtain ⟨n, hn, rfl⟩ := exists_instanceIndex? hnumbered hj hl
  rw [name_eq_of_upper_eq hm hn heq, hn] at hm
  rw [Option.some.inj hm]

theorem index_of_getElem?_entries (name : String) (hnumbered : IsNumberedByName p) {i : Instance}
    (hi : i ∈ p.instances) (hindex : i.index = some k) {l : Nat}
    (hl : (⟨name, HandleArray.slotsOf p.instances indices⟩ : HandleArray).entries[l]? =
      some (Text.upper i.name)) : l = k := by
  have hlt : l < indices.foldl max 0 + 1 := by
    rw [← length_entries name p.instances indices]
    exact (List.getElem?_eq_some_iff.mp hl).1
  rw [getElem?_entries _ _ _ hlt, Option.some.injEq] at hl
  -- The entry is not null, since a number ends in a digit; so it is some instance's.
  cases hfind : p.instances.find? fun j => j.index == some l with
  | none =>
      obtain ⟨n, hn, -⟩ := exists_instanceIndex? hnumbered hi hindex
      rw [hfind] at hl
      exact absurd hl.symm (upper_ne_null hn)
  | some j =>
      rw [hfind] at hl
      have hindex' := List.find?_some hfind
      rw [beq_iff_eq] at hindex'
      exact index_eq_of_upper_eq hnumbered (List.mem_of_find?_eq_some hfind) hi hindex' hindex hl

/-- The array has the handles of all instances, each of them once and at its index. -/
theorem lists_of_mapM (name : String) (hnumbered : IsNumberedByName p)
    (h : p.instances.mapM Instance.index = some indices) (hnodup : indices.Nodup)
    (hne : indices ≠ []) :
    (⟨name, HandleArray.slotsOf p.instances indices⟩ : HandleArray).Lists p := by
  -- The largest index decides how long the array is, so that all of them are within it.
  obtain ⟨hlargest, hle⟩ := foldl_max_eq hne
  have hbelow : ∀ i ∈ p.instances, ∀ k, i.index = some k → k < indices.foldl max 0 + 1 := by
    intro i hi k hindex
    exact Nat.lt_succ_of_le (hle k ((mem_indices_of_mapM h).mpr ⟨i, hi, hindex⟩))
  have hentry : ∀ i ∈ p.instances, ∀ k, i.index = some k →
      (⟨name, HandleArray.slotsOf p.instances indices⟩ : HandleArray).entries[k]? =
        some (Text.upper i.name) := by
    intro i hi k hindex
    rw [getElem?_entries _ _ _ (hbelow i hi k hindex), find?_index h hnodup hi hindex]
    rfl
  refine ⟨?_, hentry, ?_, ?_⟩
  · obtain ⟨i, hi, hindex⟩ := (mem_indices_of_mapM h).mp hlargest
    exact ⟨i, hi, _, hindex, fun j hj k hk => Nat.le_of_lt_succ (hbelow j hj k hk),
      length_entries _ _ _⟩
  · intro k hk hnone
    rw [length_entries] at hk
    rw [getElem?_entries _ _ _ hk, List.find?_eq_none.mpr]
    · rfl
    · intro i hi
      simpa using hnone i hi
  · intro i hi
    obtain ⟨k, hindex⟩ := exists_of_mapM_eq_some h i hi
    exact ⟨k, hentry i hi k hindex, fun l hl => index_of_getElem?_entries name hnumbered hi hindex hl⟩

/-- A peripheral has the array that its instances call for. -/
theorem isArrayOf_ofPeripheral? (hnumbered : IsNumberedByName p)
    (hnodup : (p.instances.filterMap Instance.index).Nodup) :
    IsArrayOf p (HandleArray.ofPeripheral? p) := by
  unfold HandleArray.ofPeripheral?
  cases h : p.instances.mapM Instance.index with
  | none =>
      -- Some instance has no index, and then there is no array whatever the others have.
      have hsome : ¬ ∀ i ∈ p.instances, i.index.isSome = true := by
        rw [← isSome_mapM_iff, h]
        simp
      exact ⟨by simpa using fun _ => hsome, by simp⟩
  | some indices =>
      rw [filterMap_index_of_mapM h] at hnodup
      have hlength : p.instances.length = indices.length := (mapM_eq_some_iff.mp h).length_eq
      have hall : ∀ i ∈ p.instances, i.index.isSome = true := by
        rw [← isSome_mapM_iff, h]
        rfl
      dsimp only
      by_cases hseveral : 1 < indices.length
      · rw [if_pos hseveral]
        refine ⟨iff_of_true rfl ⟨hlength ▸ hseveral, hall⟩, ?_⟩
        rintro a ha
        obtain rfl := Option.mem_some_iff.mp ha
        exact lists_of_mapM _ hnumbered h hnodup (List.ne_nil_of_length_pos (by omega))
      · rw [if_neg hseveral]
        exact ⟨by simp [hlength, hseveral], by simp⟩

end

end Header
end RegisterMap
