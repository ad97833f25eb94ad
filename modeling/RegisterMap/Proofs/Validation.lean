import RegisterMap.Device.WellFormed
import RegisterMap.Proofs.Outcome
import RegisterMap.Proofs.StableSort

/-!
# Validation

What the checks of the model accept.  Each check has one lemma that says exactly when it succeeds and
with which result; the loops among them come first.

* `Register.exists_checkFields_iff`: a running end over the fields bounds all of them and keeps every two
  apart.
* `Peripheral.checkInstances_eq_ok_iff`: a growing list of indices keeps all of them apart.

A part is validated (`Bitfield.Validated` up to `Device.Validated`) if it is the result of such a
check over validated parts, and no other device model arises.  Validated parts are well-formed.
-/

namespace RegisterMap

theorem checkName_eq_ok_iff {entity : Entity} {name : String} :
    checkName entity name = .ok () ↔ name ≠ "" :=
  ensure_eq_ok_iff _ _

/-- A number that is not negative is kept as it is. -/
theorem checkNonNegative_eq_ok_iff {quantity : Quantity} {owner : String} {value : Int} {n : Nat} :
    checkNonNegative quantity owner value = .ok n ↔ 0 ≤ value ∧ value.toNat = n := by
  unfold checkNonNegative
  split
  · next h => simp; omega
  · next h => simp; omega

namespace Bitfield

/-- A field is accepted exactly if it has a name, a width, and numbers that are not negative, with the
reset value below the limit. -/
theorem validate_eq_ok_iff {d : Draft} {f : Bitfield} :
    d.validate = .ok f ↔
      d.name ≠ "" ∧ 0 ≤ d.bitOffset ∧ 0 < d.bitWidth ∧ 0 ≤ d.resetValue ∧
        d.resetValue.toNat < resetLimit d.bitWidth.toNat ∧
        f = ⟨d.name, d.description, d.bitOffset.toNat, d.bitWidth.toNat, d.access,
          d.resetValue.toNat⟩ := by
  simp only [Draft.validate, bind_eq_ok_iff, exists_unit_iff, pure_eq_ok_iff, checkName_eq_ok_iff,
    checkNonNegative_eq_ok_iff, ensure_eq_ok_iff]
  constructor
  · rintro ⟨hname, _, ⟨hoffset, rfl⟩, _, ⟨hwidth, rfl⟩, hne, hreset, hlimit, rfl⟩
    exact ⟨hname, hoffset, by omega, hreset, hlimit, rfl⟩
  · rintro ⟨hname, hoffset, hwidth, hreset, hlimit, rfl⟩
    exact ⟨hname, _, ⟨hoffset, rfl⟩, _, ⟨by omega, rfl⟩, by omega, hreset, hlimit, rfl⟩

/-- The field passed its check. -/
def Validated (f : Bitfield) : Prop :=
  ∃ d : Draft, d.validate = .ok f

/-- The limit for reset values is that of the width, except for widths beyond a word, where it is that of
the word. -/
theorem resetLimit_le (bitWidth : Nat) : resetLimit bitWidth ≤ Numeral.wordSize bitWidth :=
  Nat.pow_le_pow_right (by decide) (Nat.min_le_left bitWidth 64)

theorem Validated.wellFormed {f : Bitfield} (h : f.Validated) : f.WellFormed := by
  obtain ⟨d, hd⟩ := h
  obtain ⟨hname, -, hwidth, -, hlimit, rfl⟩ := validate_eq_ok_iff.mp hd
  exact
    { named := hname
      bitWidth_pos := by show 0 < d.bitWidth.toNat; omega
      resetValue_lt := Nat.lt_of_lt_of_le hlimit (resetLimit_le _) }

end Bitfield

namespace Register

/-- The fields end within the width, each after the one before it, exactly if that holds of every one
and of every two of them. -/
theorem exists_checkFields_iff {owner : String} {start width : Nat} {fields : List Bitfield} :
    (∃ bitEnd, checkFields owner start fields = .ok bitEnd ∧ bitEnd ≤ width) ↔
      start ≤ width ∧ (∀ f ∈ fields, start ≤ f.bitOffset ∧ f.bitEnd ≤ width) ∧
        fields.Pairwise fun f g => f.bitEnd ≤ g.bitOffset := by
  induction fields generalizing start with
  | nil => simp [checkFields]
  | cons f rest ih =>
      have hend : f.bitOffset ≤ f.bitEnd := Nat.le_add_right _ _
      rw [checkFields, List.pairwise_cons, List.forall_mem_cons]
      split
      · next hoverlap =>
        constructor
        · rintro ⟨_, hok, -⟩
          simp at hok
        · rintro ⟨-, ⟨⟨hstart, -⟩, -⟩, -⟩
          omega
      · next hstart =>
        -- The end of `f` is the start for the rest, and whatever comes after it is after `start` too.
        rw [ih]
        constructor
        · rintro ⟨hwidth, hall, hpairs⟩
          refine ⟨by omega, ⟨⟨by omega, hwidth⟩, ?_⟩, ?_, hpairs⟩
          · intro g hg
            have := hall g hg
            omega
          · intro g hg
            exact (hall g hg).1
        · rintro ⟨-, ⟨⟨-, hwidth⟩, hall⟩, hnext, hpairs⟩
          exact ⟨hwidth, fun g hg => ⟨hnext g hg, (hall g hg).2⟩, hpairs⟩

theorem checkWidth_eq_ok_iff {owner : String} {value : Int} {n : Nat} :
    checkWidth owner value = .ok n ↔ 0 ≤ value ∧ value.toNat ∈ widths ∧ value.toNat = n := by
  unfold checkWidth
  split
  · next h => simp [h]
  · next h =>
    simp only [reduceCtorEq, false_iff]
    rintro ⟨hvalue, hmem, -⟩
    exact h ⟨hvalue, hmem⟩

/-- A register is accepted exactly if its width is one of those allowed, its offset a multiple of that,
and its fields, once sorted, follow one another within the width. -/
theorem validate_eq_ok_iff {d : Draft} {r : Register} :
    d.validate = .ok r ↔
      d.name ≠ "" ∧ 0 ≤ d.bitWidth ∧ d.bitWidth.toNat ∈ widths ∧ 0 ≤ d.addressOffset ∧
        d.addressOffset.toNat % (d.bitWidth.toNat / 8) = 0 ∧
        (∀ f ∈ sortFields d.bitfields, f.bitEnd ≤ d.bitWidth.toNat) ∧
        (sortFields d.bitfields).Pairwise (fun f g => f.bitEnd ≤ g.bitOffset) ∧
        r = ⟨d.name, d.description, d.bitWidth.toNat, d.addressOffset.toNat,
          sortFields d.bitfields⟩ := by
  have hfields : (∃ bitEnd, checkFields d.name 0 (sortFields d.bitfields) = .ok bitEnd ∧
      bitEnd ≤ d.bitWidth.toNat) ↔ _ := exists_checkFields_iff
  simp only [Nat.zero_le, true_and] at hfields
  simp only [Draft.validate, bind_eq_ok_iff, exists_unit_iff, pure_eq_ok_iff, checkName_eq_ok_iff,
    checkWidth_eq_ok_iff, checkNonNegative_eq_ok_iff, ensure_eq_ok_iff]
  constructor
  · rintro ⟨hname, _, ⟨hwidth, hmem, rfl⟩, _, ⟨hoffset, rfl⟩, haligned, bitEnd, hok, hle, rfl⟩
    obtain ⟨hall, hpairs⟩ := hfields.mp ⟨bitEnd, hok, hle⟩
    exact ⟨hname, hwidth, hmem, hoffset, haligned, hall, hpairs, rfl⟩
  · rintro ⟨hname, hwidth, hmem, hoffset, haligned, hall, hpairs, rfl⟩
    obtain ⟨bitEnd, hok, hle⟩ := hfields.mpr ⟨hall, hpairs⟩
    exact ⟨hname, _, ⟨hwidth, hmem, rfl⟩, _, ⟨hoffset, rfl⟩, haligned, bitEnd, hok, hle, rfl⟩

theorem isStableSort_sortFields (fields : List Bitfield) :
    IsStableSort Bitfield.bitOffset fields (sortFields fields) :=
  isStableSort_mergeSort Bitfield.bitOffset fields

/-- Every width is that of one to eight bytes. -/
theorem div_eight_of_mem_widths : ∀ width ∈ widths, 1 ≤ width / 8 ∧ width / 8 ≤ 8 := by
  decide

theorem WellFormed.byteWidth_pos {r : Register} (h : r.WellFormed) : 0 < r.byteWidth :=
  (div_eight_of_mem_widths r.bitWidth h.bitWidth_mem).1

/-- The register passed its check, and its fields theirs. -/
def Validated (r : Register) : Prop :=
  ∃ d : Draft, (∀ f ∈ d.bitfields, f.Validated) ∧ d.validate = .ok r

theorem Validated.wellFormed {r : Register} (h : r.Validated) : r.WellFormed := by
  obtain ⟨d, hvalid, hd⟩ := h
  obtain ⟨hname, -, hmem, -, haligned, hall, hpairs, rfl⟩ := validate_eq_ok_iff.mp hd
  exact
    { named := hname
      bitWidth_mem := hmem
      aligned := Nat.dvd_of_mod_eq_zero haligned
      fields := fun f hf =>
        (hvalid f ((isStableSort_sortFields d.bitfields).perm.mem_iff.mp hf)).wellFormed
      ordered := hpairs
      bounded := hall }

end Register

namespace Instance

/-- An instance without an index passes. -/
theorem checkIndex_eq_ok_iff {owner : String} {index : Option Int} {result : Option Nat} :
    checkIndex owner index = .ok result ↔
      (∀ value ∈ index, 0 ≤ value ∧ value.toNat ≤ maxIndex) ∧ result = index.map Int.toNat := by
  cases index with
  | none => simp [checkIndex, eq_comm]
  | some value =>
      simp only [checkIndex, bind_eq_ok_iff, exists_unit_iff, pure_eq_ok_iff,
        checkNonNegative_eq_ok_iff, ensure_eq_ok_iff]
      constructor
      · rintro ⟨_, ⟨hvalue, rfl⟩, hle, rfl⟩
        refine ⟨?_, rfl⟩
        rintro _ ⟨⟩
        exact ⟨hvalue, hle⟩
      · rintro ⟨hbounds, rfl⟩
        obtain ⟨hvalue, hle⟩ := hbounds value rfl
        exact ⟨_, ⟨hvalue, rfl⟩, hle, rfl⟩

theorem validate_eq_ok_iff {d : Draft} {i : Instance} :
    d.validate = .ok i ↔
      d.name ≠ "" ∧ (∀ value ∈ d.index, 0 ≤ value ∧ value.toNat ≤ maxIndex) ∧ 0 ≤ d.address ∧
        0 < d.size ∧
        i = ⟨d.name, d.index.map Int.toNat, d.address.toNat, d.size.toNat⟩ := by
  simp only [Draft.validate, bind_eq_ok_iff, exists_unit_iff, pure_eq_ok_iff, checkName_eq_ok_iff,
    checkIndex_eq_ok_iff, checkNonNegative_eq_ok_iff, ensure_eq_ok_iff]
  constructor
  · rintro ⟨hname, _, ⟨hindex, rfl⟩, _, ⟨haddress, rfl⟩, _, ⟨hsize, rfl⟩, hne, rfl⟩
    exact ⟨hname, hindex, haddress, by omega, rfl⟩
  · rintro ⟨hname, hindex, haddress, hsize, rfl⟩
    exact ⟨hname, _, ⟨hindex, rfl⟩, _, ⟨haddress, rfl⟩, _, ⟨by omega, rfl⟩, by omega, rfl⟩

/-- The instance passed its check. -/
def Validated (i : Instance) : Prop :=
  ∃ d : Draft, d.validate = .ok i

theorem Validated.wellFormed {i : Instance} (h : i.Validated) : i.WellFormed := by
  obtain ⟨d, hd⟩ := h
  obtain ⟨hname, hindex, -, hsize, rfl⟩ := validate_eq_ok_iff.mp hd
  refine
    { named := hname
      size_pos := by show 0 < d.size.toNat; omega
      index_le := ?_ }
  intro index hmem
  obtain ⟨value, hvalue, rfl⟩ := Option.map_eq_some_iff.mp hmem
  exact (hindex value hvalue).2

end Instance

namespace Peripheral

theorem checkFresh_eq_ok_iff {owner : String} {seen : List Nat} {i : Instance} :
    checkFresh owner seen i = .ok () ↔ ∀ index ∈ i.index, index ∉ seen := by
  unfold checkFresh
  split
  · next h => simp [h]
  · next h => simp [h, ensure_eq_ok_iff]

theorem nodup_filterMap_index_cons {i : Instance} {rest : List Instance} :
    ((i :: rest).filterMap Instance.index).Nodup ↔
      (∀ j ∈ rest, ∀ index ∈ j.index, index ∉ i.index) ∧
        (rest.filterMap Instance.index).Nodup := by
  cases h : i.index with
  | none => simp [h]
  | some index =>
      simp only [List.filterMap_cons, h, List.nodup_cons, List.mem_filterMap, not_exists, not_and,
        Option.mem_def, Option.some.injEq]
      refine and_congr_left fun _ => ?_
      constructor
      · rintro hnone j hj _ hindex rfl
        exact hnone j hj hindex
      · intro hall j hj hindex
        exact hall j hj index hindex rfl

/-- All instances have the first one's size, and no index among them or in `seen` occurs twice. -/
theorem checkInstances_eq_ok_iff {owner : String} {first : Instance} {seen : List Nat}
    {instances : List Instance} :
    checkInstances owner first seen instances = .ok () ↔
      (∀ i ∈ instances, i.size = first.size) ∧
        (∀ i ∈ instances, ∀ index ∈ i.index, index ∉ seen) ∧
        (instances.filterMap Instance.index).Nodup := by
  induction instances generalizing seen with
  | nil => simp [checkInstances]
  | cons i rest ih =>
      simp only [checkInstances, bind_eq_ok_iff, exists_unit_iff, checkFresh_eq_ok_iff, checkSize,
        ensure_eq_ok_iff, ih, nodup_filterMap_index_cons, List.forall_mem_cons, List.mem_append,
        Option.mem_toList, not_or]
      -- The index of `i` joins `seen`, so that the rest avoids the one exactly if it avoids both.
      constructor
      · rintro ⟨hfresh, hsize, hsizes, hseen, hnodup⟩
        exact ⟨⟨hsize, hsizes⟩, ⟨hfresh, fun j hj index hindex => (hseen j hj index hindex).2⟩,
          fun j hj index hindex => (hseen j hj index hindex).1, hnodup⟩
      · rintro ⟨⟨hsize, hsizes⟩, ⟨hfresh, hseen⟩, hapart, hnodup⟩
        exact ⟨hfresh, hsize, hsizes,
          fun j hj index hindex => ⟨hapart j hj index hindex, hseen j hj index hindex⟩, hnodup⟩

theorem checkExtent_eq_ok_iff {owner : String} {size : Nat} {registers : List Register} :
    checkExtent owner size registers = .ok () ↔ ∀ r ∈ registers, r.endOffset ≤ size := by
  unfold checkExtent
  split
  · next r h =>
    have hmem := List.mem_of_find?_eq_some h
    have hlt := List.find?_some h
    simp only [decide_eq_true_eq] at hlt
    simp only [reduceCtorEq, false_iff]
    intro hall
    have := hall r hmem
    omega
  · next h =>
    simp only [List.find?_eq_none, decide_eq_true_eq, Nat.not_lt] at h
    simpa using h

/-- The first instance stands for all where sizes are compared, which makes no difference: equality with
the first is equality of any two. -/
theorem checkPlacement_eq_ok_iff {owner : String} {registers : List Register}
    {instances : List Instance} :
    checkPlacement owner registers instances = .ok () ↔
      (∀ i ∈ instances, ∀ j ∈ instances, i.size = j.size) ∧
        (instances.filterMap Instance.index).Nodup ∧
        ∀ r ∈ registers, ∀ i ∈ instances, r.endOffset ≤ i.size := by
  cases instances with
  | nil => simp [checkPlacement]
  | cons first rest =>
      simp only [checkPlacement, bind_eq_ok_iff, exists_unit_iff, checkInstances_eq_ok_iff,
        checkExtent_eq_ok_iff]
      constructor
      · rintro ⟨⟨hsizes, -, hnodup⟩, hextent⟩
        refine ⟨fun i hi j hj => (hsizes i hi).trans (hsizes j hj).symm, hnodup, ?_⟩
        intro r hr i hi
        rw [hsizes i hi]
        exact hextent r hr
      · rintro ⟨hsizes, hnodup, hextent⟩
        have hfirst : first ∈ first :: rest := List.mem_cons_self
        exact ⟨⟨fun i hi => hsizes i hi first hfirst, by simp, hnodup⟩,
          fun r hr => hextent r hr first hfirst⟩

theorem isStableSort_sortRegisters (registers : List Register) :
    IsStableSort Register.addressOffset registers (sortRegisters registers) :=
  isStableSort_mergeSort Register.addressOffset registers

theorem isStableSort_sortInstances (instances : List Instance) :
    IsStableSort Instance.address instances (sortInstances instances) :=
  isStableSort_mergeSort Instance.address instances

/-- A peripheral is accepted exactly if its instances are of one size, no two of them have the same index,
and each register ends within each of them.  The order of the parts does not matter. -/
theorem validate_eq_ok_iff {d : Draft} {p : Peripheral} :
    d.validate = .ok p ↔
      d.name ≠ "" ∧ (∀ i ∈ d.instances, ∀ j ∈ d.instances, i.size = j.size) ∧
        (d.instances.filterMap Instance.index).Nodup ∧
        (∀ r ∈ d.registers, ∀ i ∈ d.instances, r.endOffset ≤ i.size) ∧
        p = ⟨d.name, d.description, sortRegisters d.registers, sortInstances d.instances⟩ := by
  -- The checks are made of the sorted parts, but say nothing that depends on their order.
  have hregisters := (isStableSort_sortRegisters d.registers).perm
  have hinstances := (isStableSort_sortInstances d.instances).perm
  simp only [Draft.validate, bind_eq_ok_iff, exists_unit_iff, pure_eq_ok_iff, checkName_eq_ok_iff,
    checkPlacement_eq_ok_iff, hregisters.mem_iff, hinstances.mem_iff,
    (hinstances.filterMap Instance.index).nodup_iff]
  constructor
  · rintro ⟨hname, ⟨hsizes, hnodup, hextent⟩, rfl⟩
    exact ⟨hname, hsizes, hnodup, hextent, rfl⟩
  · rintro ⟨hname, hsizes, hnodup, hextent, rfl⟩
    exact ⟨hname, ⟨hsizes, hnodup, hextent⟩, rfl⟩

/-- The peripheral passed its check, and its registers and instances theirs. -/
def Validated (p : Peripheral) : Prop :=
  ∃ d : Draft, (∀ r ∈ d.registers, r.Validated) ∧ (∀ i ∈ d.instances, i.Validated) ∧
    d.validate = .ok p

/-- Sorting keeps the parts, so that what was checked of those of the draft holds of those of the
peripheral. -/
theorem Validated.wellFormed {p : Peripheral} (h : p.Validated) : p.WellFormed := by
  obtain ⟨d, hregisters, hinstances, hd⟩ := h
  obtain ⟨hname, hsizes, hnodup, hextent, rfl⟩ := validate_eq_ok_iff.mp hd
  have hsortR := isStableSort_sortRegisters d.registers
  have hsortI := isStableSort_sortInstances d.instances
  have hmemR : ∀ r ∈ sortRegisters d.registers, r ∈ d.registers :=
    fun _ hr => hsortR.perm.mem_iff.mp hr
  have hmemI : ∀ i ∈ sortInstances d.instances, i ∈ d.instances :=
    fun _ hi => hsortI.perm.mem_iff.mp hi
  exact
    { named := hname
      registers := fun r hr => (hregisters r (hmemR r hr)).wellFormed
      instances := fun i hi => (hinstances i (hmemI i hi)).wellFormed
      registers_ordered := hsortR.ordered
      instances_ordered := hsortI.ordered
      indices_nodup := (hsortI.perm.filterMap Instance.index).nodup_iff.mpr hnodup
      size_eq := fun i hi j hj => hsizes i (hmemI i hi) j (hmemI j hj)
      bounded := fun r hr i hi => hextent r (hmemR r hr) i (hmemI i hi) }

end Peripheral

namespace Device

theorem validate_eq_ok_iff {draft : Draft} {d : Device} :
    draft.validate = .ok d ↔
      draft.partNumber ≠ "" ∧ draft.cpuName ≠ "" ∧
        d = ⟨draft.partNumber, draft.cpuName, draft.peripherals⟩ := by
  unfold Draft.validate
  split
  · next h => simp [h]
  · next hpart =>
    split
    · next h => simp [h]
    · next hcpu => simp [hpart, hcpu, eq_comm]

/-- The device passed its check, and its peripherals theirs. -/
def Validated (d : Device) : Prop :=
  ∃ draft : Draft, (∀ p ∈ draft.peripherals, p.Validated) ∧ draft.validate = .ok d

end Device
end RegisterMap
