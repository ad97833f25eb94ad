import RegisterMap.Numeral

/-!
# Violations

The rules that a device model can break, one constructor a rule, and how each is put into words.  Every
message names the value at fault and what it belongs to.
-/

namespace RegisterMap

/-! ### Checks

A check has no result of its own: it passes, or it fails with what is wrong.  It passes exactly if
its condition holds (`ensure_eq_ok_iff`).
-/

/-- Passes if the condition holds, and else fails with `fault`. -/
def ensure {ε : Type} (condition : Prop) [Decidable condition] (fault : ε) : Except ε Unit :=
  if condition then .ok () else .error fault

theorem ensure_eq_ok_iff {ε : Type} (condition : Prop) [Decidable condition] (fault : ε) :
    ensure condition fault = .ok () ↔ condition := by
  unfold ensure
  by_cases h : condition <;> simp [h]

/-! ### Rules -/

/-- The parts of a device that carry a name. -/
inductive Entity where
  | bitfield
  | register
  | placement
  | peripheral
deriving Repr, DecidableEq

/-- What a part is called in messages. -/
def Entity.word : Entity → String
  | bitfield => "RegisterBitfield"
  | register => "Register"
  | placement => "PeripheralInstance"
  | peripheral => "PeripheralDefinition"

/-- The quantities that must not be negative. -/
inductive Quantity where
  | bitOffset
  | bitWidth
  | addressOffset
  | index
  | address
  | size
deriving Repr, DecidableEq

/-- What a quantity is called at the beginning of a message. -/
def Quantity.word : Quantity → String
  | bitOffset => "Bit offset"
  | bitWidth => "Bit width"
  | addressOffset => "Address offset"
  | index => "Index"
  | address => "Address"
  | size => "Size"

/-- A rule of the model that a part breaks. -/
inductive Violation where
  /-- The part has no name. -/
  | unnamed (entity : Entity)
  /-- The quantity is below zero. -/
  | negative (quantity : Quantity) (value : Int) (owner : String)
  /-- The quantity is zero and may not be. -/
  | zero (quantity : Quantity) (owner : String)
  /-- The reset value is below zero. -/
  | negativeReset (value : Int) (owner : String)
  /-- The reset value does not fit its bits. -/
  | largeReset (value : Int) (owner : String)
  /-- No register has that width. -/
  | registerWidth (value : Int) (owner : String)
  /-- The offset is no multiple of the register's size. -/
  | unaligned (offset : Nat) (owner : String)
  /-- The field begins before the one below it ends. -/
  | overlap (field owner : String)
  /-- The fields end above the register's width. -/
  | overflow (bitEnd bitWidth : Nat) (owner : String)
  /-- The index is above the largest one allowed. -/
  | largeIndex (index : Nat) (owner : String)
  /-- Two instances have one index. -/
  | repeatedIndex (index : Nat) (name owner : String)
  /-- Two instances differ in size. -/
  | unequalSizes (name : String) (size : Nat) (firstName : String) (firstSize : Nat)
  /-- A register ends beyond the instances' size. -/
  | outside (owner register : String) (endOffset size : Nat)
  /-- The device has no part number. -/
  | noPartNumber
  /-- The device's processor has no name. -/
  | noCpuName (partNumber : String)
deriving Repr, DecidableEq

/-- The largest index of an instance, which bounds the length of an array of handles. -/
def maxIndex : Nat :=
  65535

/-- A violation in words. -/
def Violation.message : Violation → String
  | unnamed entity => s!"{entity.word} is missing name."
  | negative quantity value owner => s!"{quantity.word} ({value}) is negative in {owner}."
  | zero quantity owner => s!"{quantity.word} (0) is not positive in {owner}."
  | negativeReset value owner => s!"Reset value ({value}) is negative in {owner}."
  | largeReset value owner => s!"Reset value ({value}) too large in {owner}."
  | registerWidth value owner => s!"Invalid bit width ({value}) in {owner}."
  | unaligned offset owner =>
    s!"Unaligned address offset ({Numeral.hexPadded offset}) in {owner}."
  | overlap field owner => s!"Overlapping bitfield ({field}) in {owner}."
  | overflow bitEnd bitWidth owner =>
    s!"Bit width ({bitEnd}) overflowed in {owner} ({bitWidth})."
  | largeIndex index owner => s!"Index ({index}) exceeds {maxIndex} in {owner}."
  | repeatedIndex index name owner =>
    s!"Duplicate index ({index}) for instance ({name}) in {owner}."
  | unequalSizes name size firstName firstSize =>
    s!"Peripheral size mismatch between {name} ({Numeral.hex size}) and " ++
      s!"{firstName} ({Numeral.hex firstSize})."
  | outside owner register endOffset size =>
    s!"Registers overflowed peripheral size in {owner}: {register} ends at " ++
      s!"{Numeral.hex endOffset}, size is {Numeral.hex size}."
  | noPartNumber => "Device is missing part number."
  | noCpuName partNumber => s!"Device {partNumber} is missing CPU name."

/-- The part has to have a name. -/
def checkName (entity : Entity) (name : String) : Except Violation Unit :=
  ensure (name ≠ "") (.unnamed entity)

/-- The quantity has to be zero or more. -/
def checkNonNegative (quantity : Quantity) (owner : String) (value : Int) : Except Violation Nat :=
  if value < 0 then .error (.negative quantity value owner) else .ok value.toNat

end RegisterMap
