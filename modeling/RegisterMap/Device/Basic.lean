import RegisterMap.Device.Violation

/-!
# Devices

The model of a device, from the bit fields of its registers up to its peripherals.  Each part has a draft, which
is what a description says of it, and a check that makes the part of its draft or names the rule that is
broken.  The parts of a draft are checked before the draft itself.
-/

namespace RegisterMap

/-! ### Bit fields

A named range of bits in a register, with the access that software has to it and the value it holds
after a reset.
-/

/-- What software may do with a field. -/
inductive Access where
  | readOnly
  | writeOnly
  | readWrite
deriving Repr, DecidableEq

namespace Access

/-- The access that a description's code stands for.  No code at all means reading and writing. -/
def ofCode? (code : String) : Option Access :=
  if code = "R" ∨ code = "RO" then some readOnly
  else if code = "W" ∨ code = "WO" then some writeOnly
  else if code = "" ∨ code = "RW" then some readWrite
  else none

/-- The access as comments show it. -/
def abbreviation : Access → String
  | readOnly => "RO"
  | writeOnly => "WO"
  | readWrite => "RW"

end Access

/-- A range of bits in a register. -/
structure Bitfield where
  name : String
  description : String
  /-- The position of the least significant bit. -/
  bitOffset : Nat
  bitWidth : Nat
  access : Access
  resetValue : Nat
deriving Repr, DecidableEq

/-- A bit field before it is checked. -/
structure Bitfield.Draft where
  name : String
  description : String
  bitOffset : Int
  bitWidth : Int
  access : Access
  resetValue : Int
deriving Repr, DecidableEq

namespace Bitfield

/-- The position after the most significant bit. -/
def bitEnd (f : Bitfield) : Nat :=
  f.bitOffset + f.bitWidth

/-- The values that a field of that width can hold lie below this; no value has more than 64 bits. -/
def resetLimit (bitWidth : Nat) : Nat :=
  Numeral.wordSize (min bitWidth 64)

/-- A field is named, has at least one bit, and its reset value fits it. -/
def Draft.validate (d : Draft) : Except Violation Bitfield := do
  checkName .bitfield d.name
  let bitOffset ← checkNonNegative .bitOffset d.name d.bitOffset
  let bitWidth ← checkNonNegative .bitWidth d.name d.bitWidth
  ensure (bitWidth ≠ 0) (.zero .bitWidth d.name)
  ensure (0 ≤ d.resetValue) (.negativeReset d.resetValue d.name)
  -- The width may be larger than any register: that is for the check of the register.
  ensure (d.resetValue.toNat < resetLimit bitWidth) (.largeReset d.resetValue d.name)
  return ⟨d.name, d.description, bitOffset, bitWidth, d.access, d.resetValue.toNat⟩

end Bitfield

/-! ### Registers

Storage of a fixed width at an offset in a peripheral, divided into bit fields.
-/

/-- Storage of a fixed width in a peripheral. -/
structure Register where
  name : String
  description : String
  bitWidth : Nat
  addressOffset : Nat
  /-- The fields in the order of their offsets. -/
  bitfields : List Bitfield
deriving Repr, DecidableEq

/-- A register before it is checked; its fields are checked already. -/
structure Register.Draft where
  name : String
  description : String
  bitWidth : Int
  addressOffset : Int
  bitfields : List Bitfield
deriving Repr, DecidableEq

namespace Register

/-- The widths that a register may have. -/
def widths : List Nat :=
  [8, 16, 32, 64]

/-- The register's size in bytes. -/
def byteWidth (r : Register) : Nat :=
  r.bitWidth / 8

/-- The offset after the register's last byte. -/
def endOffset (r : Register) : Nat :=
  r.addressOffset + r.byteWidth

/-- Fields in the order of their offsets; fields at one offset stay in the order they came in. -/
def sortFields (fields : List Bitfield) : List Bitfield :=
  fields.mergeSort fun f g => decide (f.bitOffset ≤ g.bitOffset)

/-- The bit after the last of the fields, each of which has to begin at or after `bitEnd`, the end of
the one before it. -/
def checkFields (owner : String) (bitEnd : Nat) : List Bitfield → Except Violation Nat
  | [] => .ok bitEnd
  | f :: rest =>
    if f.bitOffset < bitEnd then .error (.overlap f.name owner)
    else checkFields owner f.bitEnd rest

/-- The width has to be one of those that a register may have. -/
def checkWidth (owner : String) (value : Int) : Except Violation Nat :=
  if 0 ≤ value ∧ value.toNat ∈ widths then .ok value.toNat else .error (.registerWidth value owner)

/-- A register is named, has a width that registers have, is aligned to its own size, and its fields
neither overlap nor reach beyond it. -/
def Draft.validate (d : Draft) : Except Violation Register := do
  checkName .register d.name
  let bitWidth ← checkWidth d.name d.bitWidth
  let addressOffset ← checkNonNegative .addressOffset d.name d.addressOffset
  -- The width is one of those allowed, so that the divisor is not zero.
  ensure (addressOffset % (bitWidth / 8) = 0) (.unaligned addressOffset d.name)
  let fields := sortFields d.bitfields
  let bitEnd ← checkFields d.name 0 fields
  -- In order and without overlap, the last field is the one that ends the furthest.
  ensure (bitEnd ≤ bitWidth) (.overflow bitEnd bitWidth d.name)
  return ⟨d.name, d.description, bitWidth, addressOffset, fields⟩

end Register

/-! ### Instances

One placement of a peripheral in the address space, with its position in the peripheral's array of
handles if it has one.
-/

/-- One placement of a peripheral. -/
structure Instance where
  name : String
  index : Option Nat
  address : Nat
  size : Nat
deriving Repr, DecidableEq

/-- An instance before it is checked. -/
structure Instance.Draft where
  name : String
  index : Option Int
  address : Int
  size : Int
deriving Repr, DecidableEq

namespace Instance

/-- The address of the last byte. -/
def endAddress (i : Instance) : Nat :=
  i.address + (i.size - 1)

/-- An index has to be zero or more and at most the largest one. -/
def checkIndex (owner : String) : Option Int → Except Violation (Option Nat)
  | none => .ok none
  | some value => do
    let index ← checkNonNegative .index owner value
    ensure (index ≤ maxIndex) (.largeIndex index owner)
    return some index

/-- An instance is named, and its index, address and size are in range. -/
def Draft.validate (d : Draft) : Except Violation Instance := do
  checkName .placement d.name
  let index ← checkIndex d.name d.index
  let address ← checkNonNegative .address d.name d.address
  let size ← checkNonNegative .size d.name d.size
  ensure (size ≠ 0) (.zero .size d.name)
  return ⟨d.name, index, address, size⟩

end Instance

/-! ### Peripherals

The registers that all instances of one kind of hardware block share, and those instances.
-/

/-- A kind of hardware block and where it is placed. -/
structure Peripheral where
  name : String
  description : String
  /-- The registers in the order of their offsets. -/
  registers : List Register
  /-- The instances in the order of their addresses. -/
  instances : List Instance
deriving Repr, DecidableEq

/-- A peripheral before it is checked; its registers and instances are checked already. -/
structure Peripheral.Draft where
  name : String
  description : String
  registers : List Register
  instances : List Instance
deriving Repr, DecidableEq

namespace Peripheral

/-- The size that all instances share, if there are any. -/
def instanceSize? (p : Peripheral) : Option Nat :=
  p.instances.head?.map Instance.size

/-- Registers in the order of their offsets; registers at one offset stay in the order they came in. -/
def sortRegisters (registers : List Register) : List Register :=
  registers.mergeSort fun r s => decide (r.addressOffset ≤ s.addressOffset)

/-- Instances in the order of their addresses; those at one address stay in the order they came in. -/
def sortInstances (instances : List Instance) : List Instance :=
  instances.mergeSort fun i j => decide (i.address ≤ j.address)

/-- The instance's index is none of those seen before it. -/
def checkFresh (owner : String) (seen : List Nat) (i : Instance) : Except Violation Unit :=
  match i.index with
  | none => .ok ()
  | some index => ensure (index ∉ seen) (.repeatedIndex index i.name owner)

/-- The instance has the size of the first one. -/
def checkSize (first i : Instance) : Except Violation Unit :=
  ensure (i.size = first.size) (.unequalSizes i.name i.size first.name first.size)

/-- No two instances have one index, and all have the size of the first. -/
def checkInstances (owner : String) (first : Instance) (seen : List Nat) :
    List Instance → Except Violation Unit
  | [] => .ok ()
  | i :: rest => do
    -- An index that is taken is reported before a size that differs.
    checkFresh owner seen i
    checkSize first i
    checkInstances owner first (i.index.toList ++ seen) rest

/-- Every register ends within the size of the instances. -/
def checkExtent (owner : String) (size : Nat) (registers : List Register) :
    Except Violation Unit :=
  match registers.find? fun r => decide (size < r.endOffset) with
  | some r => .error (.outside owner r.name r.endOffset size)
  | none => .ok ()

/-- The instances agree among themselves and the registers lie within them.  Without instances there is
nothing to check. -/
def checkPlacement (owner : String) (registers : List Register) (instances : List Instance) :
    Except Violation Unit :=
  match instances with
  | [] => .ok ()
  | first :: rest => do
    -- The first instance is checked with the rest, as its index belongs to those seen.
    checkInstances owner first [] (first :: rest)
    checkExtent owner first.size registers

/-- A peripheral is named, its instances have different indices and one size, and its registers lie
within that size. -/
def Draft.validate (d : Draft) : Except Violation Peripheral := do
  checkName .peripheral d.name
  let registers := sortRegisters d.registers
  let instances := sortInstances d.instances
  checkPlacement d.name registers instances
  return ⟨d.name, d.description, registers, instances⟩

end Peripheral

/-! ### Devices

A device: its part number, its processor and its peripherals, in the order in which the description
first refers to them.
-/

/-- A device. -/
structure Device where
  partNumber : String
  cpuName : String
  peripherals : List Peripheral
deriving Repr, DecidableEq

/-- A device before it is checked; its peripherals are checked already. -/
structure Device.Draft where
  partNumber : String
  cpuName : String
  peripherals : List Peripheral
deriving Repr, DecidableEq

namespace Device

/-- A device has a part number and a named processor. -/
def Draft.validate (d : Draft) : Except Violation Device :=
  if d.partNumber = "" then .error .noPartNumber
  else if d.cpuName = "" then .error (.noCpuName d.partNumber)
  else .ok ⟨d.partNumber, d.cpuName, d.peripherals⟩

/-- The number of instances of all peripherals. -/
def instanceCount (d : Device) : Nat :=
  (d.peripherals.flatMap Peripheral.instances).length

end Device

end RegisterMap
