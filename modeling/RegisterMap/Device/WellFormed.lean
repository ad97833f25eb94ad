import RegisterMap.Device.Basic

/-!
# Well-formed devices

The rules of the model as properties of a finished device and of its parts, said without the checks that
establish them.

Fields and registers take up ranges of numbers, of bits and of bytes.  Two of them overlap if they have a
number in common (`RangesMeet`).
-/

namespace RegisterMap

/-- The numbers from `start` up to `stop` and those from `start'` up to `stop'`, the two ends apart, have
one in common. -/
def RangesMeet (start stop start' stop' : Nat) : Prop :=
  ∃ n, (start ≤ n ∧ n < stop) ∧ start' ≤ n ∧ n < stop'

theorem RangesMeet.symm {start stop start' stop' : Nat} (h : RangesMeet start stop start' stop') :
    RangesMeet start' stop' start stop := by
  obtain ⟨n, hn, hn'⟩ := h
  exact ⟨n, hn', hn⟩

/-- Ranges that are not empty meet exactly if each begins before the other ends. -/
theorem rangesMeet_iff {start stop start' stop' : Nat} (h : start < stop) (h' : start' < stop') :
    RangesMeet start stop start' stop' ↔ start < stop' ∧ start' < stop := by
  constructor
  · rintro ⟨n, hn, hn'⟩
    omega
  · intro hboth
    exact ⟨max start start', by omega, by omega⟩

/-- The two fields have a bit in common. -/
def Bitfield.Overlaps (f g : Bitfield) : Prop :=
  RangesMeet f.bitOffset f.bitEnd g.bitOffset g.bitEnd

/-- The two registers have a byte in common. -/
def Register.Overlaps (r s : Register) : Prop :=
  RangesMeet r.addressOffset r.endOffset s.addressOffset s.endOffset

/-- A field is named, has a bit, and its reset value fits it. -/
structure Bitfield.WellFormed (f : Bitfield) : Prop where
  named : f.name ≠ ""
  bitWidth_pos : 0 < f.bitWidth
  resetValue_lt : f.resetValue < Numeral.wordSize f.bitWidth

/-- A register is named, has one of the widths, is aligned to its size, and its fields lie in it one
after another. -/
structure Register.WellFormed (r : Register) : Prop where
  named : r.name ≠ ""
  bitWidth_mem : r.bitWidth ∈ Register.widths
  aligned : r.byteWidth ∣ r.addressOffset
  fields : ∀ f ∈ r.bitfields, f.WellFormed
  ordered : r.bitfields.Pairwise fun f g => f.bitEnd ≤ g.bitOffset
  bounded : ∀ f ∈ r.bitfields, f.bitEnd ≤ r.bitWidth

/-- An instance is named, has a size, and its index, if any, is in range. -/
structure Instance.WellFormed (i : Instance) : Prop where
  named : i.name ≠ ""
  size_pos : 0 < i.size
  index_le : ∀ index ∈ i.index, index ≤ maxIndex

/-- A peripheral is named, its instances are in order, of one size and with different indices, and its
registers are in order and lie within that size. -/
structure Peripheral.WellFormed (p : Peripheral) : Prop where
  named : p.name ≠ ""
  registers : ∀ r ∈ p.registers, r.WellFormed
  instances : ∀ i ∈ p.instances, i.WellFormed
  registers_ordered : p.registers.Pairwise fun r s => r.addressOffset ≤ s.addressOffset
  instances_ordered : p.instances.Pairwise fun i j => i.address ≤ j.address
  indices_nodup : (p.instances.filterMap Instance.index).Nodup
  size_eq : ∀ i ∈ p.instances, ∀ j ∈ p.instances, i.size = j.size
  bounded : ∀ r ∈ p.registers, ∀ i ∈ p.instances, r.endOffset ≤ i.size

/-- A device has a part number, a named processor and well-formed peripherals. -/
structure Device.WellFormed (d : Device) : Prop where
  partNumber_ne : d.partNumber ≠ ""
  cpuName_ne : d.cpuName ≠ ""
  peripherals : ∀ p ∈ d.peripherals, p.WellFormed

end RegisterMap
