import RegisterMap.Proofs.ByteTiling

/-!
# Layout warnings

A layout warns exactly if the registers are irregular (`Peripheral.warnings_byteLayout_iff`): two of them at
different offsets have a byte in common, or two at one offset differ in width.

Each step of a layout looks at one group of registers and at the end of the first register of the group
before it, while irregularity is about any two registers.  Without a warning each group ends before the
next one begins, and the end of a group is that of each of its registers since they have one width; so
every two groups are apart, with all that is in them.
-/

namespace RegisterMap

/-- The two registers are at different offsets and have a byte in common, or are at one offset and differ
in width. -/
def Register.Clash (r s : Register) : Prop :=
  (r.addressOffset ≠ s.addressOffset ∧ r.Overlaps s) ∨
    (r.addressOffset = s.addressOffset ∧ r.bitWidth ≠ s.bitWidth)

/-- Two of the registers clash. -/
def Peripheral.Irregular (p : Peripheral) : Prop :=
  ∃ r ∈ p.registers, ∃ s ∈ p.registers, r.Clash s

/-! ### What a step warns of -/

/-- The registers of the group have one width. -/
def HasOneWidth (g : Register × List Register) : Prop :=
  ∀ r ∈ groupRegisters g, r.bitWidth = g.1.bitWidth

/-- The first group ends, with its first register, before the second one begins. -/
def EndsBefore (g h : Register × List Register) : Prop :=
  g.1.endOffset ≤ h.1.addressOffset

theorem Member.widthsAgree_ofGroup_iff (g : Register × List Register) :
    (ofGroup g.1 g.2).widthsAgree = true ↔ HasOneWidth g := by
  obtain ⟨first, others⟩ := g
  cases others with
  | nil => simp [ofGroup, widthsAgree, HasOneWidth, groupRegisters]
  | cons second more => simp [ofGroup, widthsAgree, HasOneWidth, groupRegisters]

namespace ByteLayout

variable (peripheral : String)

theorem warningsAt_eq_nil_iff (cursor : Nat) (g : Register × List Register) :
    warningsAt peripheral cursor g.1 (Member.ofGroup g.1 g.2) = [] ↔
      cursor ≤ g.1.addressOffset ∧ HasOneWidth g := by
  rw [← Member.widthsAgree_ofGroup_iff, warningsAt, Member.offset_ofGroup, List.append_eq_nil_iff]
  refine and_congr ?_ ?_
  · split
    · next hlt => simp; omega
    · next hle => simp; omega
  · split
    · next hagree => simp [hagree]
    · next hdiffer => simp [hdiffer]

theorem warnings_place_cons (limit cursor index : Nat) (g : Register × List Register)
    (groups : List (Register × List Register)) :
    (place peripheral limit cursor index (g :: groups)).warnings =
      warningsAt peripheral cursor g.1 (Member.ofGroup g.1 g.2) ++
        (place peripheral limit g.1.endOffset
          (index + (padding index cursor g.1.addressOffset).length) groups).warnings := by
  obtain ⟨first, others⟩ := g
  simp only [place, Member.offset_ofGroup, Member.span_ofGroup]
  rfl

/-- A layout has no warnings exactly if each group begins at or after the end of the one before it, the
first one at or after the cursor, and the registers of each group have one width. -/
theorem warnings_place_eq_nil_iff (limit cursor index : Nat)
    (groups : List (Register × List Register)) :
    (place peripheral limit cursor index groups).warnings = [] ↔
      (∀ g ∈ groups.head?, cursor ≤ g.1.addressOffset) ∧ groups.IsChain EndsBefore ∧
        ∀ g ∈ groups, HasOneWidth g := by
  induction groups generalizing cursor index with
  | nil => simp [place]
  | cons g groups ih =>
      -- What comes next is measured against the end of the group's first register.
      rw [warnings_place_cons, List.append_eq_nil_iff, warningsAt_eq_nil_iff, ih,
        List.isChain_cons, List.forall_mem_cons]
      simp only [List.head?_cons, Option.mem_some_iff, forall_eq']
      constructor
      · rintro ⟨⟨hcursor, hwidth⟩, hnext, hchain, hwidths⟩
        exact ⟨hcursor, ⟨hnext, hchain⟩, hwidth, hwidths⟩
      · rintro ⟨hcursor, ⟨hnext, hchain⟩, hwidth, hwidths⟩
        exact ⟨⟨hcursor, hwidth⟩, hnext, hchain, hwidths⟩

end ByteLayout

/-! ### From neighbouring groups to any two registers -/

namespace IsOffsetGrouping

variable {registers : List Register} {groups : List (Register × List Register)}

theorem exists_group (h : IsOffsetGrouping registers groups) {r : Register} (hr : r ∈ registers) :
    ∃ g ∈ groups, r ∈ groupRegisters g := by
  rw [← h.flatten] at hr
  exact List.mem_flatMap.mp hr

theorem mem_of_mem_group (h : IsOffsetGrouping registers groups) {g : Register × List Register}
    (hg : g ∈ groups) {r : Register} (hr : r ∈ groupRegisters g) : r ∈ registers := by
  rw [← h.flatten]
  exact List.mem_flatMap.mpr ⟨g, hg, hr⟩

/-- If neighbouring groups are apart, then so is each group from every one at a larger offset. -/
theorem endsBefore_of_isChain (h : IsOffsetGrouping registers groups)
    (hchain : groups.IsChain EndsBefore) {g g' : Register × List Register} (hg : g ∈ groups)
    (hg' : g' ∈ groups) (hlt : g.1.addressOffset < g'.1.addressOffset) : EndsBefore g g' := by
  have htrans : ∀ a b c, EndsBefore a b → EndsBefore b c → EndsBefore a c := by
    intro a b c hab hbc
    have hb : b.1.addressOffset ≤ b.1.endOffset := Nat.le_add_right _ _
    unfold EndsBefore at *
    omega
  have : IsTrans (Register × List Register) EndsBefore := ⟨htrans⟩
  have hpairs : groups.Pairwise fun a b =>
      EndsBefore a b ∧ a.1.addressOffset < b.1.addressOffset :=
    (List.isChain_iff_pairwise.mp hchain).and h.increasing
  -- Groups before `g` are at smaller offsets, so that `g'` is one of those after it.
  obtain ⟨before, after, rfl⟩ := List.append_of_mem hg
  rw [List.pairwise_append, List.pairwise_cons] at hpairs
  obtain ⟨-, ⟨hafter, -⟩, hbefore⟩ := hpairs
  rw [List.mem_append, List.mem_cons] at hg'
  rcases hg' with hg' | rfl | hg'
  · have hgt := (hbefore g' hg' g List.mem_cons_self).2
    omega
  · omega
  · exact (hafter g' hg').1

section
variable (h : IsOffsetGrouping registers groups) (hwidths : ∀ g ∈ groups, HasOneWidth g)
include h hwidths

/-- Where neighbouring groups are apart, of two registers the one at the smaller offset ends before the other
one begins. -/
theorem endOffset_le_of_isChain (hchain : groups.IsChain EndsBefore) {r s : Register}
    (hr : r ∈ registers) (hs : s ∈ registers) (hlt : r.addressOffset < s.addressOffset) :
    r.endOffset ≤ s.addressOffset := by
  obtain ⟨g, hg, hrg⟩ := h.exists_group hr
  obtain ⟨g', hg', hsg'⟩ := h.exists_group hs
  have hoffset := h.same g hg r hrg
  have hoffset' := h.same g' hg' s hsg'
  have hbefore := h.endsBefore_of_isChain hchain hg hg' (by omega)
  have hend : r.endOffset = g.1.endOffset := by
    unfold Register.endOffset Register.byteWidth
    rw [hoffset, hwidths g hg r hrg]
  rw [hend, hoffset']
  exact hbefore

/-- Registers at one offset are in one group, and so have one width. -/
theorem bitWidth_eq_of_addressOffset_eq {r s : Register} (hr : r ∈ registers) (hs : s ∈ registers)
    (heq : r.addressOffset = s.addressOffset) : r.bitWidth = s.bitWidth := by
  obtain ⟨g, hg, hrg⟩ := h.exists_group hr
  have hsg : s ∈ groupRegisters g := by
    rw [← h.filter_eq hg, List.mem_filter, decide_eq_true_eq, ← heq]
    exact ⟨hs, h.same g hg r hrg⟩
  rw [hwidths g hg r hrg, hwidths g hg s hsg]

end

/-- Registers with positive sizes do not clash exactly if neighbouring groups of them are apart and each
group has one width. -/
theorem isChain_and_hasOneWidth_iff (h : IsOffsetGrouping registers groups)
    (hpos : ∀ r ∈ registers, r.addressOffset < r.endOffset) :
    (groups.IsChain EndsBefore ∧ ∀ g ∈ groups, HasOneWidth g) ↔
      ∀ r ∈ registers, ∀ s ∈ registers, ¬r.Clash s := by
  have hmeet {r s : Register} (hr : r ∈ registers) (hs : s ∈ registers) :
      r.Overlaps s ↔ r.addressOffset < s.endOffset ∧ s.addressOffset < r.endOffset :=
    rangesMeet_iff (hpos r hr) (hpos s hs)
  constructor
  · rintro ⟨hchain, hwidths⟩ r hr s hs (⟨hne, hoverlaps⟩ | ⟨heq, hwidth⟩)
    · rw [hmeet hr hs] at hoverlaps
      -- Overlapping says nothing of which comes first, while the chain of groups does.
      rcases Nat.lt_or_gt_of_ne hne with hlt | hlt
      · have hend := h.endOffset_le_of_isChain hwidths hchain hr hs hlt
        omega
      · have hend := h.endOffset_le_of_isChain hwidths hchain hs hr hlt
        omega
    · exact hwidth (h.bitWidth_eq_of_addressOffset_eq hwidths hr hs heq)
  · intro hclash
    constructor
    · refine (h.increasing.imp_of_mem ?_).isChain
      intro g g' hg hg' hlt
      have hfirst := h.first_mem hg
      have hfirst' := h.first_mem hg'
      -- The first registers of the groups stand for them.
      have hapart : ¬g.1.Overlaps g'.1 :=
        fun hoverlaps => hclash g.1 hfirst g'.1 hfirst' (.inl ⟨hlt.ne, hoverlaps⟩)
      rw [hmeet hfirst hfirst'] at hapart
      have hend := hpos g'.1 hfirst'
      unfold EndsBefore
      omega
    · intro g hg r hr
      by_contra hwidth
      exact hclash r (h.mem_of_mem_group hg hr) g.1 (h.first_mem hg) (.inr ⟨h.same g hg r hr, hwidth⟩)

end IsOffsetGrouping

namespace Peripheral

/-- The layout of a validated peripheral warns exactly if its registers are irregular. -/
theorem warnings_byteLayout_iff {p : Peripheral} (hp : p.Validated) :
    p.byteLayout.warnings ≠ [] ↔ p.Irregular := by
  have hwellFormed := hp.wellFormed
  have hgrouping := isOffsetGrouping_groupByOffset hwellFormed.registers_ordered
  have hpos : ∀ r ∈ p.registers, r.addressOffset < r.endOffset :=
    fun r hr => Nat.lt_add_of_pos_right (hwellFormed.registers r hr).byteWidth_pos
  have hnone : p.byteLayout.warnings = [] ↔ ∀ r ∈ p.registers, ∀ s ∈ p.registers, ¬r.Clash s := by
    rw [byteLayout, ByteLayout.warnings_place_eq_nil_iff,
      ← hgrouping.isChain_and_hasOneWidth_iff hpos]
    simp only [Nat.zero_le, implies_true, true_and]
  rw [Ne, hnone]
  simp only [Irregular, not_forall, not_not, exists_prop]

theorem irregular_converter :
    converter.Validated ∧
      converter.byteLayout.warnings = [.unequalWidths "ADC" 8 8, .overlap "ADC" "HIGH" 12 16] ∧
      converter.Irregular :=
  ⟨validated_converter, by decide, (warnings_byteLayout_iff validated_converter).mp (by decide)⟩

end Peripheral
end RegisterMap
