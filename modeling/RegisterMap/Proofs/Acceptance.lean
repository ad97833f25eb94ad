import RegisterMap.Proofs.BitTiling

/-!
# What is accepted

A draft of a register passes its check exactly if it follows rules that can be read off the draft as it
stands (`Register.Draft.WellFormed`), with its fields in any order, and it then becomes one register only
(`Register.IsFinalForm`).

The check sorts the fields and keeps one running end, while the rule is that no two of the fields overlap.
The two come to the same because a field has at least one bit: of two fields that do not overlap, the one
that begins first also ends first.

A draft of a peripheral passes in the same sense (`Peripheral.Draft.WellFormed`).  Registers may share an
offset and instances an address, so that their order by these is not enough to say what the peripheral
is: those with one key stay in the order they came in (`Peripheral.IsFinalForm`).
-/

namespace RegisterMap

/-- Where the order of two members does not matter, to compare each member with those after it is to compare
all members at different places. -/
theorem pairwise_iff_get_of_symm {α : Type} {R : α → α → Prop} (hsymm : ∀ a b, R a b → R b a)
    (list : List α) :
    list.Pairwise R ↔ ∀ i j : Fin list.length, i ≠ j → R (list.get i) (list.get j) := by
  rw [List.pairwise_iff_get]
  constructor
  · intro h i j hne
    rcases Nat.lt_or_gt_of_ne (Fin.val_ne_of_ne hne) with hlt | hlt
    · exact h i j hlt
    · exact hsymm _ _ (h j i hlt)
  · intro h i j hlt
    exact h i j (Fin.ne_of_lt hlt)

namespace Register

/-- The draft is named, has one of the widths and an offset that is a multiple of its size, and its fields,
in whatever order, keep apart and end within the width. -/
structure Draft.WellFormed (d : Draft) : Prop where
  named : d.name ≠ ""
  bitWidth_mem : d.bitWidth ∈ ([8, 16, 32, 64] : List Int)
  offset_nonneg : 0 ≤ d.addressOffset
  aligned : d.bitWidth / 8 ∣ d.addressOffset
  apart : ∀ i j : Fin d.bitfields.length, i ≠ j →
    ¬(d.bitfields.get i).Overlaps (d.bitfields.get j)
  bounded : ∀ f ∈ d.bitfields, (f.bitEnd : Int) ≤ d.bitWidth

/-- The register is the draft with the same fields in the order of their offsets. -/
structure IsFinalForm (r : Register) (d : Draft) : Prop where
  name_eq : r.name = d.name
  description_eq : r.description = d.description
  bitWidth_eq : (r.bitWidth : Int) = d.bitWidth
  addressOffset_eq : (r.addressOffset : Int) = d.addressOffset
  perm : r.bitfields.Perm d.bitfields
  increasing : r.bitfields.Pairwise fun f g => f.bitOffset < g.bitOffset

/-! ### Fields in any order -/

/-- In the order of their offsets, fields follow one another exactly if no two of them overlap. -/
theorem pairwise_bitEnd_le_iff {fields : List Bitfield} (hpos : ∀ f ∈ fields, 0 < f.bitWidth)
    (hordered : fields.Pairwise fun f g => f.bitOffset ≤ g.bitOffset) :
    fields.Pairwise (fun f g => f.bitEnd ≤ g.bitOffset) ↔
      fields.Pairwise fun f g => ¬f.Overlaps g := by
  have hrange : ∀ f ∈ fields, f.bitOffset < f.bitEnd :=
    fun f hf => Nat.lt_add_of_pos_right (hpos f hf)
  have hmeet : ∀ f ∈ fields, ∀ g ∈ fields,
      (f.Overlaps g ↔ f.bitOffset < g.bitEnd ∧ g.bitOffset < f.bitEnd) :=
    fun f hf g hg => rangesMeet_iff (hrange f hf) (hrange g hg)
  constructor
  · intro hends
    refine hends.imp_of_mem fun hf hg hend => ?_
    rw [hmeet _ hf _ hg]
    omega
  · intro hapart
    -- The later field begins no earlier and has a bit, so that it can only begin after the other one.
    refine (hordered.and hapart).imp_of_mem fun {f g} hf hg hboth => ?_
    obtain ⟨hle, hapart⟩ := hboth
    rw [hmeet f hf g hg] at hapart
    have hend := hrange g hg
    omega

/-- The sorted fields follow one another exactly if no two fields overlap, in the order they came in. -/
theorem pairwise_sortFields_iff {fields : List Bitfield} (hpos : ∀ f ∈ fields, 0 < f.bitWidth) :
    (sortFields fields).Pairwise (fun f g => f.bitEnd ≤ g.bitOffset) ↔
      ∀ i j : Fin fields.length, i ≠ j → ¬(fields.get i).Overlaps (fields.get j) := by
  have hsort := isStableSort_sortFields fields
  have hpos' : ∀ f ∈ sortFields fields, 0 < f.bitWidth :=
    fun f hf => hpos f (hsort.perm.mem_iff.mp hf)
  have hsymm : ∀ f g : Bitfield, ¬f.Overlaps g → ¬g.Overlaps f :=
    fun _ _ hapart hoverlaps => hapart hoverlaps.symm
  rw [pairwise_bitEnd_le_iff hpos' hsort.ordered, ← pairwise_iff_get_of_symm hsymm]
  exact hsort.perm.pairwise_iff (hsymm _ _)

/-! ### The numbers of a draft -/

/-- A width that is one of the four is no negative number, which is what the check asks first. -/
theorem mem_widths_iff {width : Int} :
    0 ≤ width ∧ width.toNat ∈ widths ↔ width ∈ ([8, 16, 32, 64] : List Int) := by
  simp only [widths, List.mem_cons, List.not_mem_nil, or_false]
  omega

theorem toNat_mod_eq_zero_iff {offset width : Int} (hoffset : 0 ≤ offset) (hwidth : 0 ≤ width) :
    offset.toNat % (width.toNat / 8) = 0 ↔ width / 8 ∣ offset := by
  obtain ⟨n, rfl⟩ := Int.eq_ofNat_of_zero_le hoffset
  obtain ⟨w, rfl⟩ := Int.eq_ofNat_of_zero_le hwidth
  have hdiv : (w : Int) / 8 = ((w / 8 : Nat) : Int) := by omega
  rw [Int.toNat_natCast, Int.toNat_natCast, hdiv, Int.natCast_dvd_natCast,
    Nat.dvd_iff_mod_eq_zero]

/-! ### Drafts that pass -/

/-- The register that an accepted draft becomes. -/
def Draft.final (d : Draft) : Register :=
  ⟨d.name, d.description, d.bitWidth.toNat, d.addressOffset.toNat, sortFields d.bitfields⟩

/-- The check of a draft looks at the sorted fields, and the rules at the fields as they came. -/
theorem validate_eq_ok_iff_wellFormed {d : Draft} (hfields : ∀ f ∈ d.bitfields, 0 < f.bitWidth)
    {r : Register} : d.validate = .ok r ↔ d.WellFormed ∧ r = d.final := by
  have hmem : ∀ f, f ∈ sortFields d.bitfields ↔ f ∈ d.bitfields :=
    fun f => (isStableSort_sortFields d.bitfields).perm.mem_iff
  rw [validate_eq_ok_iff, pairwise_sortFields_iff hfields]
  simp only [hmem]
  constructor
  · rintro ⟨hname, hwidth, hwidths, hoffset, haligned, hbounded, hapart, rfl⟩
    refine ⟨?_, rfl⟩
    exact
      { named := hname
        bitWidth_mem := mem_widths_iff.mp ⟨hwidth, hwidths⟩
        offset_nonneg := hoffset
        aligned := (toNat_mod_eq_zero_iff hoffset hwidth).mp haligned
        apart := hapart
        bounded := fun f hf => by have := hbounded f hf; omega }
  · rintro ⟨h, rfl⟩
    obtain ⟨hwidth, hwidths⟩ := mem_widths_iff.mpr h.bitWidth_mem
    exact ⟨h.named, hwidth, hwidths, h.offset_nonneg,
      (toNat_mod_eq_zero_iff h.offset_nonneg hwidth).mpr h.aligned,
      fun f hf => by have := h.bounded f hf; omega, h.apart, rfl⟩

theorem Draft.WellFormed.isFinalForm {d : Draft} (h : d.WellFormed)
    (hfields : ∀ f ∈ d.bitfields, 0 < f.bitWidth) : d.final.IsFinalForm d := by
  have hsort := isStableSort_sortFields d.bitfields
  have hwidth := (mem_widths_iff.mpr h.bitWidth_mem).1
  have hends := (pairwise_sortFields_iff hfields).mpr h.apart
  refine
    { name_eq := rfl
      description_eq := rfl
      bitWidth_eq := Int.toNat_of_nonneg hwidth
      addressOffset_eq := Int.toNat_of_nonneg h.offset_nonneg
      perm := hsort.perm
      increasing := ?_ }
  -- A field that follows another one begins after its end, which is after its beginning.
  refine hends.imp_of_mem fun {f g} hf _ hend => ?_
  have hpos := hfields f (hsort.perm.mem_iff.mp hf)
  unfold Bitfield.bitEnd at hend
  omega

/-- Strictly increasing offsets leave one order of the fields. -/
theorem IsFinalForm.eq {d : Draft} {r s : Register} (hr : r.IsFinalForm d) (hs : s.IsFinalForm d) :
    r = s := by
  have hle (fields : List Bitfield) (h : fields.Pairwise fun f g => f.bitOffset < g.bitOffset) :
      fields.Pairwise fun f g => f.bitOffset ≤ g.bitOffset :=
    h.imp Nat.le_of_lt
  -- No two fields have one offset, hence those with one offset are the same on both sides.
  have hkeys : (r.bitfields.map Bitfield.bitOffset).Nodup :=
    List.pairwise_map.mpr (hr.increasing.imp Nat.ne_of_lt)
  have hsame : SameByKey Bitfield.bitOffset r.bitfields s.bitfields :=
    sameByKey_of_perm (hr.perm.trans hs.perm.symm) hkeys
  have hbitfields : r.bitfields = s.bitfields :=
    hsame.eq_of_pairwise (hle _ hr.increasing) (hle _ hs.increasing)
  have hname : r.name = s.name := hr.name_eq.trans hs.name_eq.symm
  have hdescription : r.description = s.description :=
    hr.description_eq.trans hs.description_eq.symm
  have hbitWidth : r.bitWidth = s.bitWidth :=
    Int.ofNat_inj.mp (hr.bitWidth_eq.trans hs.bitWidth_eq.symm)
  have haddressOffset : r.addressOffset = s.addressOffset :=
    Int.ofNat_inj.mp (hr.addressOffset_eq.trans hs.addressOffset_eq.symm)
  cases r
  cases s
  rw [Register.mk.injEq]
  exact ⟨hname, hdescription, hbitWidth, haddressOffset, hbitfields⟩

/-- A draft over validated fields passes exactly if it is well-formed, and becomes the one register that is
its final form. -/
theorem exists_validate_iff_wellFormed {d : Draft} (hfields : ∀ f ∈ d.bitfields, f.Validated) :
    ((∃ r, d.validate = .ok r) ↔ d.WellFormed) ∧
      ∀ r, d.validate = .ok r ↔ d.WellFormed ∧ r.IsFinalForm d := by
  have hpos : ∀ f ∈ d.bitfields, 0 < f.bitWidth :=
    fun f hf => (hfields f hf).wellFormed.bitWidth_pos
  simp only [validate_eq_ok_iff_wellFormed hpos]
  refine ⟨⟨fun ⟨_, h, _⟩ => h, fun h => ⟨d.final, h, rfl⟩⟩, fun r => and_congr_right fun h => ?_⟩
  constructor
  · rintro rfl
    exact h.isFinalForm hpos
  · intro hr
    exact hr.eq (h.isFinalForm hpos)

/-- A draft whose fields come out of order, touch one another and fill the register. -/
def packedDraft : Draft where
  name := "CTL"
  description := "control"
  bitWidth := 16
  addressOffset := 6
  bitfields := [⟨"HIGH", "high half", 8, 8, .readOnly, 0⟩, ⟨"LOW", "low bits", 0, 3, .readWrite, 7⟩,
    ⟨"MID", "bits between", 3, 5, .writeOnly, 0⟩]

theorem validated_packedDraft : ∀ f ∈ packedDraft.bitfields, f.Validated := by
  simp only [packedDraft, List.forall_mem_cons, List.not_mem_nil, false_implies, implies_true,
    and_true]
  exact ⟨⟨⟨"HIGH", "high half", 8, 8, .readOnly, 0⟩, by cbv⟩,
    ⟨⟨"LOW", "low bits", 0, 3, .readWrite, 7⟩, by cbv⟩,
    ⟨⟨"MID", "bits between", 3, 5, .writeOnly, 0⟩, by cbv⟩⟩

theorem wellFormed_packedDraft :
    (∀ f ∈ packedDraft.bitfields, f.Validated) ∧ packedDraft.WellFormed ∧
      packedDraft.final.IsFinalForm packedDraft := by
  have hfinal := ((exists_validate_iff_wellFormed validated_packedDraft).2 packedDraft.final).mp
    (by cbv)
  exact ⟨validated_packedDraft, hfinal⟩

end Register

namespace Peripheral

/-- The draft is named, its instances, in whatever order, have one size and different indices, and its
registers end within that size. -/
structure Draft.WellFormed (d : Draft) : Prop where
  named : d.name ≠ ""
  sizes_eq : ∀ i ∈ d.instances, ∀ j ∈ d.instances, i.size = j.size
  indices_apart : ∀ i j : Fin d.instances.length, i ≠ j →
    ∀ index ∈ (d.instances.get i).index, index ∉ (d.instances.get j).index
  bounded : ∀ i ∈ d.instances, ∀ r ∈ d.registers, r.endOffset ≤ i.size

/-- The peripheral is the draft with its registers in the order of their offsets and its instances in the
order of their addresses.  None is lost or repeated, and where the key is the same the order is as it was. -/
structure IsFinalForm (p : Peripheral) (d : Draft) : Prop where
  name_eq : p.name = d.name
  description_eq : p.description = d.description
  registers_sorted : IsStableSort Register.addressOffset d.registers p.registers
  registers_perm : p.registers.Perm d.registers
  instances_sorted : IsStableSort Instance.address d.instances p.instances
  instances_perm : p.instances.Perm d.instances

/-- The indices that there are occur once each exactly if no two instances have one in common. -/
theorem nodup_filterMap_index_iff (instances : List Instance) :
    (instances.filterMap Instance.index).Nodup ↔
      ∀ i j : Fin instances.length, i ≠ j →
        ∀ index ∈ (instances.get i).index, index ∉ (instances.get j).index := by
  have hsymm : ∀ i j : Instance, (∀ index ∈ i.index, index ∉ j.index) →
      ∀ index ∈ j.index, index ∉ i.index :=
    fun _ _ hapart index hj hi => hapart index hi hj
  rw [← pairwise_iff_get_of_symm hsymm, List.Nodup, List.pairwise_filterMap]
  -- Only the indices that there are get compared, each with those of the later instances.
  refine List.Pairwise.iff ?_
  intro i j
  constructor
  · intro hne index hi hj
    exact hne index hi index hj rfl
  · rintro hapart index hi _ hj rfl
    exact hapart index hi hj

/-- The peripheral that an accepted draft becomes. -/
def Draft.final (d : Draft) : Peripheral :=
  ⟨d.name, d.description, sortRegisters d.registers, sortInstances d.instances⟩

theorem validate_eq_ok_iff_wellFormed {d : Draft} {p : Peripheral} :
    d.validate = .ok p ↔ d.WellFormed ∧ p = d.final := by
  rw [validate_eq_ok_iff, nodup_filterMap_index_iff]
  constructor
  · rintro ⟨hname, hsizes, hindices, hextent, rfl⟩
    refine ⟨?_, rfl⟩
    exact
      { named := hname
        sizes_eq := hsizes
        indices_apart := hindices
        bounded := fun i hi r hr => hextent r hr i hi }
  · rintro ⟨h, rfl⟩
    exact ⟨h.named, h.sizes_eq, h.indices_apart, fun r hr i hi => h.bounded i hi r hr, rfl⟩

theorem isFinalForm_final (d : Draft) : d.final.IsFinalForm d where
  name_eq := rfl
  description_eq := rfl
  registers_sorted := isStableSort_sortRegisters d.registers
  registers_perm := (isStableSort_sortRegisters d.registers).perm
  instances_sorted := isStableSort_sortInstances d.instances
  instances_perm := (isStableSort_sortInstances d.instances).perm

/-- A stable sort leaves one order of the registers and one of the instances. -/
theorem IsFinalForm.eq {d : Draft} {p q : Peripheral} (hp : p.IsFinalForm d) (hq : q.IsFinalForm d) :
    p = q := by
  have hname : p.name = q.name := hp.name_eq.trans hq.name_eq.symm
  have hdescription : p.description = q.description :=
    hp.description_eq.trans hq.description_eq.symm
  have hregisters : p.registers = q.registers :=
    hp.registers_sorted.eq hq.registers_sorted (SameByKey.refl _ _)
  have hinstances : p.instances = q.instances :=
    hp.instances_sorted.eq hq.instances_sorted (SameByKey.refl _ _)
  cases p
  cases q
  rw [Peripheral.mk.injEq]
  exact ⟨hname, hdescription, hregisters, hinstances⟩

/-- A draft passes exactly if it is well-formed, and becomes the one peripheral that is its final form. -/
theorem validate_iff_isFinalForm (d : Draft) :
    ((∃ p, d.validate = .ok p) ↔ d.WellFormed) ∧
      ∀ p, d.validate = .ok p ↔ d.WellFormed ∧ p.IsFinalForm d := by
  simp only [validate_eq_ok_iff_wellFormed]
  refine ⟨⟨fun ⟨_, h, _⟩ => h, fun h => ⟨d.final, h, rfl⟩⟩, fun p => and_congr_right fun _ => ?_⟩
  constructor
  · rintro rfl
    exact isFinalForm_final d
  · intro hp
    exact hp.eq (isFinalForm_final d)

end Peripheral
end RegisterMap
