import RegisterMap.Proofs.BitTiling
import RegisterMap.Proofs.OffsetGroup

/-!
# Byte layouts account for every byte

What the layout of a validated peripheral consists of (`Peripheral.IsLaidOutBy`): a member for each group
of registers at one offset, in the order of the offsets, and numbered padding, up to the size of the
instances.

A group that begins below the cursor moves the cursor back, so the members may add up to more than the
size.  The surplus is exactly what such groups lie below the cursor (`ByteLayout.add_sum_span_place`): each
step of the layout adds a padding and a member, and the cursor moves on by as much, less what it moves
back.  Hence the members follow one another without a break exactly if no group begins below the cursor.
-/

namespace RegisterMap

namespace IsOffsetGrouping

variable {registers : List Register} {groups : List (Register × List Register)}

/-- A group holds all registers at its offset. -/
theorem filter_eq (h : IsOffsetGrouping registers groups) {g : Register × List Register}
    (hg : g ∈ groups) :
    registers.filter (fun r => decide (r.addressOffset = g.1.addressOffset)) = groupRegisters g := by
  obtain ⟨rfl, hsame, hincreasing⟩ := h
  induction groups with
  | nil => cases hg
  | cons first groups ih =>
      obtain ⟨hfirst, hgroups⟩ := List.forall_mem_cons.mp hsame
      obtain ⟨hlt, hrest⟩ := List.pairwise_cons.mp hincreasing
      rw [List.flatMap_cons, List.filter_append]
      rcases List.mem_cons.mp hg with rfl | hg
      · -- The registers of this group are at its offset, and those of all others beyond it.
        have hown : (groupRegisters g).filter
            (fun r => decide (r.addressOffset = g.1.addressOffset)) = groupRegisters g := by
          rw [List.filter_eq_self]
          intro r hr
          exact decide_eq_true (hfirst r hr)
        have hothers : (groups.flatMap groupRegisters).filter
            (fun r => decide (r.addressOffset = g.1.addressOffset)) = [] := by
          rw [List.filter_eq_nil_iff]
          intro r hr
          obtain ⟨other, hother, hr⟩ := List.mem_flatMap.mp hr
          have hoffset := hgroups other hother r hr
          have := hlt other hother
          rw [decide_eq_true_eq]
          omega
        rw [hown, hothers, List.append_nil]
      -- The first group lies before the one in question.
      · have hnone : (groupRegisters first).filter
            (fun r => decide (r.addressOffset = g.1.addressOffset)) = [] := by
          rw [List.filter_eq_nil_iff]
          intro r hr
          have hoffset := hfirst r hr
          have := hlt g hg
          rw [decide_eq_true_eq]
          omega
        rw [hnone, List.nil_append]
        exact ih hg hgroups hrest

end IsOffsetGrouping

namespace Member

/-- The member's offset and the number of bytes by which the layout moves on. -/
def stretch (m : Member) : Nat × Nat :=
  (m.offset, m.span)

/-- The number of a padding. -/
def index? : Member → Option Nat
  | register _ => none
  | union _ _ => none
  | unused index _ _ => some index

/-- The member is no padding. -/
def bearsRegisters (m : Member) : Bool :=
  !m.registers.isEmpty

theorem index?_ofGroup (first : Register) (others : List Register) :
    (ofGroup first others).index? = none := by
  cases others <;> rfl

theorem bearsRegisters_ofGroup (first : Register) (others : List Register) :
    (ofGroup first others).bearsRegisters = true := by
  cases others <;> rfl

/-- A union is made from a group of two registers or more. -/
theorem eq_of_ofGroup_eq_union {first r : Register} {others rs : List Register}
    (h : ofGroup first others = .union r rs) : first = r ∧ others = rs ∧ rs ≠ [] := by
  cases others with
  | nil => cases h
  | cons second more =>
      obtain ⟨rfl, rfl⟩ := Member.union.inj h
      exact ⟨rfl, rfl, List.cons_ne_nil _ _⟩

end Member

/-- The bytes that groups lie below the cursor, which the group before each of them has left at the end of
its first register. -/
def overlapBytes (cursor : Nat) : List (Register × List Register) → Nat
  | [] => 0
  | g :: groups =>
    (if g.1.addressOffset < cursor then cursor - g.1.addressOffset else 0) +
      overlapBytes g.1.endOffset groups

/-- The end of the last group's first register, or the cursor if there is no group. -/
def lastEnd (cursor : Nat) (groups : List (Register × List Register)) : Nat :=
  (groups.getLast?.map fun g => g.1.endOffset).getD cursor

theorem lastEnd_cons (cursor : Nat) (g : Register × List Register)
    (groups : List (Register × List Register)) :
    lastEnd cursor (g :: groups) = lastEnd g.1.endOffset groups := by
  unfold lastEnd
  rw [List.getLast?_cons]
  cases groups.getLast? <;> rfl

namespace ByteLayout

variable (peripheral : String) (limit cursor index : Nat)

/-- One step of a layout: padding up to a group, the member for the group, and the rest from the end of
its first register on. -/
theorem members_place_cons (g : Register × List Register)
    (groups : List (Register × List Register)) :
    (place peripheral limit cursor index (g :: groups)).members =
      padding index cursor g.1.addressOffset ++ Member.ofGroup g.1 g.2 ::
        (place peripheral limit g.1.endOffset
          (index + (padding index cursor g.1.addressOffset).length) groups).members := by
  obtain ⟨first, others⟩ := g
  simp only [place, Member.offset_ofGroup, Member.span_ofGroup]
  rfl

theorem size_place_cons (g : Register × List Register)
    (groups : List (Register × List Register)) :
    (place peripheral limit cursor index (g :: groups)).size =
      (place peripheral limit g.1.endOffset
        (index + (padding index cursor g.1.addressOffset).length) groups).size := by
  obtain ⟨first, others⟩ := g
  simp only [place, Member.offset_ofGroup, Member.span_ofGroup]
  rfl

/-! ## Padding -/

variable (offset : Nat)

theorem filter_padding : (padding index cursor offset).filter Member.bearsRegisters = [] := by
  unfold padding
  split <;> rfl

theorem index?_padding :
    (padding index cursor offset).filterMap Member.index? =
      List.range' index (padding index cursor offset).length := by
  unfold padding
  split <;> rfl

theorem sum_span_padding : ((padding index cursor offset).map Member.span).sum = offset - cursor := by
  unfold padding
  split
  · simp [Member.span]
  · next h => simp only [List.map_nil, List.sum_nil]; omega

theorem span_pos_of_mem_padding {index cursor offset : Nat} {m : Member}
    (h : m ∈ padding index cursor offset) : 0 < m.span := by
  unfold padding at h
  split at h
  · obtain rfl := List.mem_singleton.mp h
    show 0 < offset - cursor
    omega
  · cases h

/-- After padding, which begins at the cursor, the next member is where the layout is exactly if the
cursor was not beyond it. -/
theorem tiles_padding_append {stop : Nat} {m : Member} (hm : m.offset = offset)
    (rest : List Member) :
    Tiles cursor ((padding index cursor offset ++ m :: rest).map Member.stretch) stop ↔
      cursor ≤ offset ∧ Tiles (offset + m.span) (rest.map Member.stretch) stop := by
  unfold padding
  split
  · next hlt =>
    have hend : cursor + (offset - cursor) = offset := by omega
    show cursor = cursor ∧ Tiles (cursor + (offset - cursor)) ((m.offset, m.span) :: _) stop ↔ _
    rw [hend, hm]
    simp only [Tiles, true_and, hlt.le]
  · next hnot =>
    simp only [List.nil_append, List.map_cons, Member.stretch, Tiles, hm]
    constructor
    · rintro ⟨rfl, hrest⟩
      exact ⟨le_rfl, hrest⟩
    · rintro ⟨hle, hrest⟩
      have heq : offset = cursor := by omega
      exact ⟨heq, heq ▸ hrest⟩

/-! ## Whole layouts -/

variable (groups : List (Register × List Register))

/-- The members with registers are those of the groups, in order. -/
theorem filter_place :
    (place peripheral limit cursor index groups).members.filter Member.bearsRegisters =
      groups.map fun g => Member.ofGroup g.1 g.2 := by
  induction groups generalizing cursor index with
  | nil => exact filter_padding cursor index limit
  | cons g groups ih =>
      rw [members_place_cons, List.filter_append, filter_padding, List.nil_append,
        List.filter_cons_of_pos (Member.bearsRegisters_ofGroup g.1 g.2), ih]
      rfl

/-- The paddings of a layout are numbered from `index` on. -/
theorem index?_place :
    ∃ count, (place peripheral limit cursor index groups).members.filterMap Member.index? =
      List.range' index count := by
  induction groups generalizing cursor index with
  | nil => exact ⟨_, index?_padding cursor index limit⟩
  | cons g groups ih =>
      obtain ⟨count, hrest⟩ :=
        ih g.1.endOffset (index + (padding index cursor g.1.addressOffset).length)
      refine ⟨(padding index cursor g.1.addressOffset).length + count, ?_⟩
      rw [members_place_cons, List.filterMap_append, index?_padding,
        List.filterMap_cons_none (Member.index?_ofGroup g.1 g.2), hrest, List.range'_append_1]

theorem unused_pos_of_mem_place {number offset size : Nat}
    (h : .unused number offset size ∈ (place peripheral limit cursor index groups).members) :
    0 < size := by
  induction groups generalizing cursor index with
  | nil => exact span_pos_of_mem_padding h
  | cons g groups ih =>
      rw [members_place_cons, List.mem_append, List.mem_cons] at h
      rcases h with hpadding | hgroup | hrest
      · exact span_pos_of_mem_padding hpadding
      · have hnone := Member.index?_ofGroup g.1 g.2
        rw [← hgroup] at hnone
        cases hnone
      · exact ih _ _ hrest

/-- A layout ends where its last group does, or at the limit if that is beyond. -/
theorem size_place_eq :
    (place peripheral limit cursor index groups).size = max (lastEnd cursor groups) limit := by
  induction groups generalizing cursor index with
  | nil => rfl
  | cons g groups ih => rw [size_place_cons, ih, lastEnd_cons]

/-- The members take the bytes from the cursor to the end of the layout, and once more those that a group
lies below the cursor. -/
theorem add_sum_span_place :
    cursor + ((place peripheral limit cursor index groups).members.map Member.span).sum =
      (place peripheral limit cursor index groups).size + overlapBytes cursor groups := by
  induction groups generalizing cursor index with
  | nil =>
      show cursor + ((padding index cursor limit).map Member.span).sum = max cursor limit + 0
      rw [sum_span_padding]
      omega
  | cons g groups ih =>
      have hrest := ih g.1.endOffset (index + (padding index cursor g.1.addressOffset).length)
      rw [members_place_cons, size_place_cons, List.map_append, List.map_cons, List.sum_append,
        List.sum_cons, sum_span_padding, Member.span_ofGroup, overlapBytes]
      -- The padding and the first register lead to its end, unless the cursor was beyond its offset.
      have hstep : cursor + (g.1.addressOffset - cursor) + g.1.byteWidth =
          g.1.endOffset +
            (if g.1.addressOffset < cursor then cursor - g.1.addressOffset else 0) := by
        unfold Register.endOffset
        split <;> omega
      omega

/-- The members follow one another from the cursor on exactly if no group begins below the cursor that it
meets. -/
theorem tiles_place_iff :
    Tiles cursor ((place peripheral limit cursor index groups).members.map Member.stretch)
        (place peripheral limit cursor index groups).size ↔
      (∀ g ∈ groups.head?, cursor ≤ g.1.addressOffset) ∧
        groups.IsChain fun g h => g.1.endOffset ≤ h.1.addressOffset := by
  induction groups generalizing cursor index with
  | nil =>
      simp only [List.head?_nil, Option.not_mem_none, false_implies, implies_true, List.isChain_nil,
        and_true, iff_true]
      show Tiles cursor ((padding index cursor limit).map Member.stretch) (max cursor limit)
      unfold padding
      split
      · simp only [List.map_cons, List.map_nil, Member.stretch, Member.offset, Member.span, Tiles,
          true_and]
        omega
      · simp only [List.map_nil, Tiles]
        omega
  | cons g groups ih =>
      rw [members_place_cons, size_place_cons,
        tiles_padding_append cursor index _ (Member.offset_ofGroup g.1 g.2), Member.span_ofGroup,
        List.isChain_cons]
      simp only [List.head?_cons, Option.mem_some_iff, forall_eq']
      exact and_congr_right fun _ => ih _ _

end ByteLayout

/-- The layout accounts for the registers of the peripheral and for each byte up to its size, counting
twice only what a group of registers lies below the end of the one before it. -/
structure Peripheral.IsLaidOutBy (p : Peripheral) (layout : ByteLayout) : Prop where
  registers : layout.members.flatMap Member.registers = p.registers
  union_shared : ∀ first others, .union first others ∈ layout.members →
    others ≠ [] ∧ ∀ r ∈ others, r.addressOffset = first.addressOffset
  increasing : (layout.members.filter Member.bearsRegisters).Pairwise fun m n => m.offset < n.offset
  registers_eq_filter : ∀ m ∈ layout.members, m.bearsRegisters = true →
    m.registers = p.registers.filter fun r => decide (r.addressOffset = m.offset)
  unused_pos : ∀ index offset size, .unused index offset size ∈ layout.members → 0 < size
  unused_numbered : layout.members.filterMap Member.index? =
    List.range (layout.members.filterMap Member.index?).length
  size_of_instance : ∀ i ∈ p.instances, layout.size = i.size
  size_of_no_instance : p.instances = [] → layout.size = lastEnd 0 (groupByOffset p.registers)
  sum_span : (layout.members.map Member.span).sum =
    layout.size + overlapBytes 0 (groupByOffset p.registers)
  tiles_iff : Tiles 0 (layout.members.map Member.stretch) layout.size ↔
    (groupByOffset p.registers).IsChain fun g h => g.1.endOffset ≤ h.1.addressOffset

namespace Peripheral

/-- The layout of a well-formed peripheral has the size of its instances. -/
theorem WellFormed.size_byteLayout {p : Peripheral} (h : p.WellFormed) {i : Instance}
    (hi : i ∈ p.instances) : p.byteLayout.size = i.size := by
  have hgrouping := isOffsetGrouping_groupByOffset h.registers_ordered
  obtain ⟨first, rest, hinstances⟩ := List.exists_cons_of_ne_nil (List.ne_nil_of_mem hi)
  have hfirst : first ∈ p.instances := by
    rw [hinstances]
    exact List.mem_cons_self
  have hsize : p.instanceSize? = some first.size := by
    rw [instanceSize?, hinstances]
    rfl
  have hbounded : ∀ g ∈ groupByOffset p.registers, g.1.endOffset ≤ first.size :=
    fun g hg => h.bounded g.1 (hgrouping.first_mem hg) first hfirst
  rw [byteLayout, hsize, h.size_eq i hi first hfirst]
  exact ByteLayout.size_place p.name 0 (Nat.zero_le _) hbounded

theorem WellFormed.isLaidOutBy {p : Peripheral} (h : p.WellFormed) :
    p.IsLaidOutBy p.byteLayout := by
  have hgrouping := isOffsetGrouping_groupByOffset h.registers_ordered
  have hfilter : p.byteLayout.members.filter Member.bearsRegisters =
      (groupByOffset p.registers).map fun g => Member.ofGroup g.1 g.2 :=
    ByteLayout.filter_place p.name _ 0 0 _
  -- Rules about groups reach the members through this: a member with registers is made from a group.
  have hgroup : ∀ m ∈ p.byteLayout.members, m.bearsRegisters = true →
      ∃ g ∈ groupByOffset p.registers, Member.ofGroup g.1 g.2 = m := by
    intro m hm hbears
    have hmem := List.mem_filter.mpr ⟨hm, hbears⟩
    rw [hfilter] at hmem
    exact List.mem_map.mp hmem
  obtain ⟨count, hcount⟩ :=
    ByteLayout.index?_place p.name (p.instanceSize?.getD 0) 0 0 (groupByOffset p.registers)
  refine
    { registers := p.registers_byteLayout
      union_shared := ?_
      increasing := ?_
      registers_eq_filter := ?_
      unused_pos := fun _ _ _ => ByteLayout.unused_pos_of_mem_place _ _ _ _ _
      unused_numbered := ?_
      size_of_instance := fun _ hi => h.size_byteLayout hi
      size_of_no_instance := ?_
      sum_span := ?_
      tiles_iff := ?_ }
  · intro first others hmem
    obtain ⟨⟨r, rs⟩, hg, heq⟩ := hgroup _ hmem rfl
    obtain ⟨rfl, rfl, hne⟩ := Member.eq_of_ofGroup_eq_union heq
    exact ⟨hne, fun s hs => hgrouping.same _ hg s (List.mem_cons_of_mem _ hs)⟩
  · rw [hfilter, List.pairwise_map]
    exact hgrouping.increasing.imp fun hlt => by simpa using hlt
  · intro m hm hbears
    obtain ⟨g, hg, rfl⟩ := hgroup m hm hbears
    rw [Member.registers_ofGroup, Member.offset_ofGroup, hgrouping.filter_eq hg]
    rfl
  · unfold byteLayout
    rw [hcount, List.length_range', List.range_eq_range']
  · intro hnone
    have hsize : p.instanceSize? = none := by
      rw [instanceSize?, hnone]
      rfl
    rw [byteLayout, hsize, ByteLayout.size_place_eq]
    exact Nat.max_eq_left (Nat.zero_le _)
  · have hsum := ByteLayout.add_sum_span_place p.name (p.instanceSize?.getD 0) 0 0
      (groupByOffset p.registers)
    rwa [Nat.zero_add] at hsum
  · have htiles := ByteLayout.tiles_place_iff p.name (p.instanceSize?.getD 0) 0 0
      (groupByOffset p.registers)
    simp only [Nat.zero_le, implies_true, true_and] at htiles
    exact htiles

/-- The layout of a validated peripheral holds its registers grouped by their offsets, has the size of its
instances, and accounts for every byte. -/
theorem isLaidOutBy_byteLayout {p : Peripheral} (hp : p.Validated) :
    IsOffsetGrouping p.registers (groupByOffset p.registers) ∧ p.IsLaidOutBy p.byteLayout :=
  ⟨isOffsetGrouping_groupByOffset hp.wellFormed.registers_ordered, hp.wellFormed.isLaidOutBy⟩

/-- A converter: a gap at the front, two registers at one offset, one that begins inside the first of them,
and room at the end. -/
def converter : Peripheral where
  name := "ADC"
  description := "converter"
  registers := [⟨"FULL", "both halves", 64, 8, []⟩, ⟨"LOW", "low half", 32, 8, []⟩,
    ⟨"HIGH", "high half", 32, 12, []⟩]
  instances := [⟨"ADC0", some 0, 0x40003000, 24⟩]

theorem validated_converter : converter.Validated := by
  refine ⟨⟨"ADC", "converter", [⟨"HIGH", "high half", 32, 12, []⟩,
    ⟨"FULL", "both halves", 64, 8, []⟩, ⟨"LOW", "low half", 32, 8, []⟩], converter.instances⟩,
    ?_, ?_, by cbv⟩
  · simp only [List.forall_mem_cons, List.not_mem_nil, false_implies, implies_true, and_true]
    exact ⟨⟨⟨"HIGH", "high half", 32, 12, []⟩, by simp, by cbv⟩,
      ⟨⟨"FULL", "both halves", 64, 8, []⟩, by simp, by cbv⟩,
      ⟨⟨"LOW", "low half", 32, 8, []⟩, by simp, by cbv⟩⟩
  · simp only [converter, List.forall_mem_cons, List.not_mem_nil, false_implies, implies_true,
      and_true]
    exact ⟨⟨"ADC0", some 0, 0x40003000, 24⟩, by cbv⟩

theorem isLaidOutBy_converter :
    converter.Validated ∧ converter.IsLaidOutBy converter.byteLayout ∧
      converter.byteLayout.members.map Member.stretch = [(0, 8), (8, 8), (12, 4), (16, 8)] ∧
      overlapBytes 0 (groupByOffset converter.registers) = 4 :=
  ⟨validated_converter, (isLaidOutBy_byteLayout validated_converter).2, by decide, by decide⟩

end Peripheral
end RegisterMap
