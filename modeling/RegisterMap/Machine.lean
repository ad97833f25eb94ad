import RegisterMap.Description.Parts
import RegisterMap.Header.Handle
import RegisterMap.Layout

/-!
# Arithmetic in words

The model counts in numbers of any size.  Here its computations are done in machine words instead, step by
step: positions, sizes and addresses in unsigned words of 64 bits, reset values and the comparison of
ranges in signed words of 128 bits.

An operation whose result does not fit its word gives nothing, and then all that needs the result gives
nothing either.  Sums are formed where they are needed, often before the check that would bound them: the
end of a field before it is compared with the width of the register, the end of a register before it is
compared with the size of the instances.
-/

namespace RegisterMap

/-- A computation in words.  It gives nothing if an operation does not fit its word; else it succeeds or fails
like any other one. -/
abbrev Machine (ε α : Type) : Type :=
  ExceptT ε Option α

namespace Machine

open Markup (Element)
open Description (require decimalAttribute describe narrow withoutHexMark instanceIndex?)

/-! ### Operations -/

/-- A step without arithmetic. -/
def step {ε α : Type} (result : Except ε α) : Machine ε α :=
  ExceptT.mk (some result)

/-- The result of an operation. -/
def operate {ε α : Type} (result : Option α) : Machine ε α :=
  ExceptT.lift result

/-- A sum in an unsigned word of 64 bits. -/
def add (a b : Nat) : Option Nat :=
  if Numeral.fitsUnsigned 64 (a + b) then some (a + b) else none

/-- A difference in an unsigned word. -/
def sub (a b : Nat) : Option Nat :=
  if b ≤ a then some (a - b) else none

/-- A remainder. -/
def mod (a b : Nat) : Option Nat :=
  if b = 0 then none else some (a % b)

/-- The result of an operation in a signed word of 128 bits. -/
def wide (value : Int) : Option Int :=
  if Numeral.fitsSigned 128 value then some value else none

/-- A one that is shifted to the left in a signed word of 128 bits. -/
def shiftOne (count : Nat) : Option Int :=
  wide (Numeral.wordSize count)

/-- An array with another value in one of its slots. -/
def put {α : Type} (slots : List α) (index : Nat) (a : α) : Option (List α) :=
  if index < slots.length then some (slots.set index a) else none

/-! ### Checks -/

/-- The position after the most significant bit of a field. -/
def bitEnd (f : Bitfield) : Option Nat :=
  add f.bitOffset f.bitWidth

/-- The value has more bits than the width.  Widths that no value of 128 bits exceeds are not shifted by. -/
def exceedsWidth (bitWidth : Nat) (value : Int) : Option Bool :=
  if bitWidth < 127 then (shiftOne bitWidth).map fun limit => decide (limit ≤ value) else some false

/-- The check of a field. -/
def validateField (d : Bitfield.Draft) : Machine Violation Bitfield := do
  step (checkName .bitfield d.name)
  let bitOffset ← step (checkNonNegative .bitOffset d.name d.bitOffset)
  let bitWidth ← step (checkNonNegative .bitWidth d.name d.bitWidth)
  step (ensure (bitWidth ≠ 0) (.zero .bitWidth d.name))
  step (ensure (0 ≤ d.resetValue) (.negativeReset d.resetValue d.name))
  -- The shift is done for any width that is not too large for it, whether or not a register has it.
  let exceeds ← operate (exceedsWidth bitWidth d.resetValue)
  step (ensure (Numeral.fitsUnsigned 64 d.resetValue.toNat = true ∧ exceeds = false)
    (.largeReset d.resetValue d.name))
  return ⟨d.name, d.description, bitOffset, bitWidth, d.access, d.resetValue.toNat⟩

/-- The bit after the last of the fields, where `reached` is the one after those before them. -/
def checkFields (owner : String) (reached : Nat) : List Bitfield → Machine Violation Nat
  | [] => step (.ok reached)
  | f :: rest =>
    if f.bitOffset < reached then step (.error (.overlap f.name owner))
    else do
      -- The end is formed before it is compared with the width of the register.
      let next ← operate (bitEnd f)
      checkFields owner next rest

/-- The check of a register. -/
def validateRegister (d : Register.Draft) : Machine Violation Register := do
  step (checkName .register d.name)
  let bitWidth ← step (Register.checkWidth d.name d.bitWidth)
  let addressOffset ← step (checkNonNegative .addressOffset d.name d.addressOffset)
  -- A width of less than a byte would divide by zero.
  let remainder ← operate (mod addressOffset (bitWidth / 8))
  step (ensure (remainder = 0) (.unaligned addressOffset d.name))
  let fields := Register.sortFields d.bitfields
  let reached ← checkFields d.name 0 fields
  step (ensure (reached ≤ bitWidth) (.overflow reached bitWidth d.name))
  return ⟨d.name, d.description, bitWidth, addressOffset, fields⟩

/-- The offset after the last byte of a register. -/
def endOffset (r : Register) : Option Nat :=
  add r.addressOffset r.byteWidth

/-- The address of the last byte of an instance. -/
def endAddress (i : Instance) : Option Nat := do
  -- The size is taken down first, which needs it to be positive.
  let beyond ← sub i.size 1
  add i.address beyond

/-- The registers end within the size of the instances, up to the first one that does not. -/
def checkExtent (owner : String) (size : Nat) : List Register → Machine Violation Unit
  | [] => step (.ok ())
  | r :: rest => do
    let reached ← operate (endOffset r)
    if size < reached then step (.error (.outside owner r.name reached size))
    else checkExtent owner size rest

/-- The instances agree among themselves and the registers lie within them. -/
def checkPlacement (owner : String) (registers : List Register) (instances : List Instance) :
    Machine Violation Unit :=
  match instances with
  | [] => step (.ok ())
  | first :: rest => do
    step (Peripheral.checkInstances owner first [] (first :: rest))
    checkExtent owner first.size registers

/-- The check of a peripheral. -/
def validatePeripheral (d : Peripheral.Draft) : Machine Violation Peripheral := do
  step (checkName .peripheral d.name)
  let registers := Peripheral.sortRegisters d.registers
  let instances := Peripheral.sortInstances d.instances
  checkPlacement d.name registers instances
  return ⟨d.name, d.description, registers, instances⟩

/-! ### Layouts -/

/-- The slots from bit `cursor` up to `width`, where `index` is the number of the next unused one. -/
def bitSlots (width cursor index : Nat) : List Bitfield → Option (List BitSlot)
  | [] =>
    if cursor < width then do
      let gap ← sub width cursor
      return [.unused index cursor gap]
    else
      return []
  | f :: rest =>
    if cursor < f.bitOffset then do
      let gap ← sub f.bitOffset cursor
      let number ← add index 1
      let next ← bitEnd f
      let slots ← bitSlots width next number rest
      return .unused index cursor gap :: .field f :: slots
    else do
      let next ← bitEnd f
      let slots ← bitSlots width next index rest
      return .field f :: slots

/-- The layout of the bits of a register. -/
def bitLayout (r : Register) : Option (List BitSlot) :=
  bitSlots r.bitWidth 0 0 r.bitfields

/-- The layout of groups of registers from the cursor on, and of the padding after them up to the size of the
instances, if there are any. -/
def place (peripheral : String) (size? : Option Nat) (cursor index : Nat) :
    List (Register × List Register) → Option ByteLayout
  | [] =>
    match size? with
    | none => some ⟨[], cursor, []⟩
    | some size =>
      if cursor < size then do
        let gap ← sub size cursor
        return ⟨[.unused index cursor gap], size, []⟩
      else
        return ⟨[], cursor, []⟩
  | (first, others) :: groups =>
    let m := Member.ofGroup first others
    let warnings := ByteLayout.warningsAt peripheral cursor first m
    if cursor < m.offset then do
      let gap ← sub m.offset cursor
      let number ← add index 1
      let next ← add m.offset m.span
      let rest ← place peripheral size? next number groups
      return ⟨.unused index cursor gap :: m :: rest.members, rest.size, warnings ++ rest.warnings⟩
    else do
      let next ← add m.offset m.span
      let rest ← place peripheral size? next index groups
      return ⟨m :: rest.members, rest.size, warnings ++ rest.warnings⟩

/-- The layout of the bytes of a peripheral. -/
def byteLayout (p : Peripheral) : Option ByteLayout :=
  place p.name p.instanceSize? 0 0 (groupByOffset p.registers)

/-! ### Handles -/

/-- The slots of an array, each instance written into the one at its index. -/
def slotsOf (instances : List Instance) (indices : List Nat) : Option (List (Option String)) := do
  let length ← add (indices.foldl max 0) 1
  (instances.zip indices).foldlM
    (fun slots entry => put slots entry.2 (some (Text.upper entry.1.name)))
    (List.replicate length none)

/-- The array of a peripheral's handles. -/
def handleArray? (p : Peripheral) : Option (Option Header.HandleArray) :=
  match p.instances.mapM Instance.index with
  | none => some none
  | some indices =>
    if 1 < indices.length then do
      let slots ← slotsOf p.instances indices
      return some ⟨Text.upper p.name, slots⟩
    else
      some none

/-! ### Reading -/

/-- The magnitude of a hexadecimal number, read as a signed word of 128 bits behind which no sign may
stand. -/
def magnitude? (cs : List Char) : Option Int :=
  let digits := withoutHexMark cs
  if digits.head? = some '+' ∨ digits.head? = some '-' then none
  else Numeral.signed? 16 128 digits

/-- A hexadecimal number, if the text is one. -/
def hexNumber : List Char → Option (Option Int)
  | '-' :: cs =>
    match magnitude? cs with
    | none => some none
    | some magnitude => (wide (-magnitude)).map some
  | cs => some (magnitude? cs)

/-- A hexadecimal number with blanks around it. -/
def hexadecimal (what owner value : String) : Machine Fault Int := do
  match ← operate (hexNumber (Text.trimChars value.toList)) with
  | some n => step (.ok n)
  | none => step (.error (.malformed what value owner))

/-- A value checked by the rules of the model. -/
def checked {α : Type} (result : Machine Violation α) : Machine Fault α :=
  ExceptT.mk (result.run.map Description.checked)

/-- A bit field. -/
def bitfield (e : Element) : Machine Fault Bitfield := do
  let name ← step (require e "id")
  let bitOffset ← step (decimalAttribute e name "end")
  let bitWidth ← step (decimalAttribute e name "width")
  let highest ← step (decimalAttribute e name "begin")
  let range ← operate (wide (highest - bitOffset))
  let extent ← operate (wide (bitWidth - 1))
  step (ensure (range = extent) (.mismatch (.bits highest bitWidth bitOffset name)))
  let description ← step (describe e)
  let access ← step (Description.access (← step (require e "rwaccess")) name)
  let resetValue ← hexadecimal "reset value" name (← step (require e "resetval"))
  checked (validateField ⟨name, description, bitOffset, bitWidth, access, resetValue⟩)

/-- A register with the fields below it. -/
def register (e : Element) : Machine Fault Register := do
  let name ← step (require e "id")
  let offset ← hexadecimal "offset" name (← step (require e "offset"))
  let description ← step (describe e)
  let bitWidth ← step (decimalAttribute e name "width")
  let addressOffset ← step (narrow "offset" name offset)
  let bitfields ← (e.descendants "bitfield").mapM bitfield
  checked (validateRegister ⟨name, description, bitWidth, addressOffset, bitfields⟩)

/-- An attribute that holds a hexadecimal number for a signed word of 64 bits. -/
def addressAttribute (e : Element) (owner key : String) : Machine Fault Int := do
  let value ← hexadecimal key owner (← step (require e key))
  step (narrow key owner value)

/-- The last address of an instance: as it is given, or else by the size. -/
def lastAddress (e : Element) (name : String) (first size : Int) : Machine Fault Int :=
  match e.attribute? "endaddr" with
  | some text => do
    let value ← hexadecimal "endaddr" name text
    step (narrow "endaddr" name value)
  | none => do
    -- Neither number has been checked to be positive.
    let beyond ← operate (wide (first + size))
    operate (wide (beyond - 1))

/-- An instance of the definition of that name. -/
def placement (definition : String) (e : Element) : Machine Fault Instance := do
  let name ← step (require e "id")
  let first ← addressAttribute e name "baseaddr"
  let size ← addressAttribute e name "size"
  let last ← lastAddress e name first size
  let range ← operate (wide (last - first))
  let extent ← operate (wide (size - 1))
  step (ensure (range = extent) (.mismatch (.addresses first last size name)))
  step (Description.checked (Instance.Draft.validate ⟨name, instanceIndex? name definition, first, size⟩))

end Machine
end RegisterMap
