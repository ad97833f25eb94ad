import Mathlib.Data.List.Chain
import RegisterMap.Layout

/-!
# Registers that share an offset

Registers in the order of their offsets fall into groups: those at one offset stand together.  A grouping
of a list is fixed by three properties (`IsOffsetGrouping`), and `groupByOffset` has them whenever the
registers are in order.  A layout has one member for each group, with the group's registers in it.
-/

namespace RegisterMap

/-- The registers of a group, the first one first. -/
def groupRegisters (g : Register × List Register) : List Register :=
  g.1 :: g.2

/-- The groups hold the registers in order, each those at one offset, and no two of them the same
offset. -/
structure IsOffsetGrouping (registers : List Register)
    (groups : List (Register × List Register)) : Prop where
  flatten : groups.flatMap groupRegisters = registers
  same : ∀ g ∈ groups, ∀ r ∈ groupRegisters g, r.addressOffset = g.1.addressOffset
  increasing : groups.Pairwise fun g h => g.1.addressOffset < h.1.addressOffset

theorem IsOffsetGrouping.first_mem {registers : List Register}
    {groups : List (Register × List Register)} (h : IsOffsetGrouping registers groups)
    {g : Register × List Register} (hg : g ∈ groups) : g.1 ∈ registers := by
  rw [← h.flatten]
  exact List.mem_flatMap.mpr ⟨g, hg, List.mem_cons_self⟩

theorem groupByOffset_flatten (registers : List Register) :
    (groupByOffset registers).flatMap groupRegisters = registers := by
  induction registers with
  | nil => rfl
  | cons r rest ih =>
      rw [groupByOffset]
      split
      · next hrest =>
        rw [hrest] at ih
        rw [← ih]
        rfl
      · next first others groups hrest =>
        rw [hrest] at ih
        split
        · rw [← ih]
          rfl
        · rw [← ih]
          rfl

theorem groupByOffset_same (registers : List Register) :
    ∀ g ∈ groupByOffset registers, ∀ r ∈ groupRegisters g,
      r.addressOffset = g.1.addressOffset := by
  induction registers with
  | nil => simp [groupByOffset]
  | cons r rest ih =>
      rw [groupByOffset]
      split
      · simp [groupRegisters]
      · next first others groups hrest =>
        rw [hrest, List.forall_mem_cons] at ih
        obtain ⟨hfirst, hgroups⟩ := ih
        split
        -- The register joins the group in front of which it stands, and becomes its first.
        · next hsame =>
          rw [List.forall_mem_cons]
          refine ⟨?_, hgroups⟩
          intro s hs
          rcases List.mem_cons.mp hs with rfl | hs
          · rfl
          · exact (hfirst s hs).trans hsame.symm
        · rw [List.forall_mem_cons, List.forall_mem_cons]
          exact ⟨by simp [groupRegisters], hfirst, hgroups⟩

/-- In order, registers at one offset are neighbours, so that no group is split. -/
theorem groupByOffset_increasing {registers : List Register}
    (h : registers.Pairwise fun r s => r.addressOffset ≤ s.addressOffset) :
    (groupByOffset registers).Pairwise fun g h => g.1.addressOffset < h.1.addressOffset := by
  induction registers with
  | nil => simp [groupByOffset]
  | cons r rest ih =>
      obtain ⟨hr, hrest⟩ := List.pairwise_cons.mp h
      have hgroups := ih hrest
      have hflatten := groupByOffset_flatten rest
      rw [groupByOffset]
      split
      · simp
      · next first others groups hcons =>
        rw [hcons, List.pairwise_cons] at hgroups
        obtain ⟨hfirst, hincreasing⟩ := hgroups
        split
        · next hsame =>
          rw [List.pairwise_cons]
          exact ⟨fun g hg => hsame ▸ hfirst g hg, hincreasing⟩
        · next hother =>
          -- The next group begins with a register of the rest, which is not before `r`.
          have hmem : first ∈ rest := by
            rw [← hflatten, hcons]
            exact List.mem_append_left _ List.mem_cons_self
          have hlt : r.addressOffset < first.addressOffset := by
            have := hr first hmem
            omega
          rw [List.pairwise_cons, List.pairwise_cons, List.forall_mem_cons]
          exact ⟨⟨hlt, fun g hg => hlt.trans (hfirst g hg)⟩, hfirst, hincreasing⟩

theorem isOffsetGrouping_groupByOffset {registers : List Register}
    (h : registers.Pairwise fun r s => r.addressOffset ≤ s.addressOffset) :
    IsOffsetGrouping registers (groupByOffset registers) where
  flatten := groupByOffset_flatten registers
  same := groupByOffset_same registers
  increasing := groupByOffset_increasing h

namespace Member

@[simp] theorem offset_ofGroup (first : Register) (others : List Register) :
    (ofGroup first others).offset = first.addressOffset := by
  cases others <;> rfl

@[simp] theorem span_ofGroup (first : Register) (others : List Register) :
    (ofGroup first others).span = first.byteWidth := by
  cases others <;> rfl

@[simp] theorem registers_ofGroup (first : Register) (others : List Register) :
    (ofGroup first others).registers = first :: others := by
  cases others <;> rfl

end Member

namespace ByteLayout

theorem registers_padding (index cursor offset : Nat) :
    (padding index cursor offset).flatMap Member.registers = [] := by
  unfold padding
  split <;> rfl

/-- The members of a layout hold the registers of its groups, in order. -/
theorem registers_place (peripheral : String) (limit cursor index : Nat)
    (groups : List (Register × List Register)) :
    (place peripheral limit cursor index groups).members.flatMap Member.registers =
      groups.flatMap groupRegisters := by
  induction groups generalizing cursor index with
  | nil => exact registers_padding index cursor limit
  | cons g groups ih =>
      obtain ⟨first, others⟩ := g
      simp only [place, List.flatMap_append, List.flatMap_cons, registers_padding, ih,
        Member.registers_ofGroup, List.nil_append]
      rfl

/-- A layout ends at the limit if none of its groups ends beyond it. -/
theorem size_place (peripheral : String) {limit cursor : Nat} (index : Nat)
    {groups : List (Register × List Register)} (hcursor : cursor ≤ limit)
    (hgroups : ∀ g ∈ groups, g.1.endOffset ≤ limit) :
    (place peripheral limit cursor index groups).size = limit := by
  induction groups generalizing cursor index with
  | nil => exact Nat.max_eq_right hcursor
  | cons g groups ih =>
      obtain ⟨first, others⟩ := g
      rw [List.forall_mem_cons] at hgroups
      simp only [place, Member.offset_ofGroup, Member.span_ofGroup]
      exact ih _ hgroups.1 hgroups.2

end ByteLayout

namespace Peripheral

/-- A layout leaves out no register, and has none twice. -/
theorem registers_byteLayout (p : Peripheral) :
    p.byteLayout.members.flatMap Member.registers = p.registers := by
  rw [byteLayout, ByteLayout.registers_place, groupByOffset_flatten]

end Peripheral
end RegisterMap
