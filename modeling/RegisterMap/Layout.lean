import RegisterMap.Device.Basic

/-!
# Layouts

What a description leaves open between fields and between registers is filled in: the layout of a register
accounts for each of its bits, and the layout of a peripheral for each of its bytes.
-/

namespace RegisterMap

/-! ### Bit layouts

A register's fields say only where they are.  The layout of a register accounts for each of its bits:
the fields in order, and an unused slot for each gap before, between and after them.
-/

/-- One stretch of a register's bits. -/
inductive BitSlot where
  | field (field : Bitfield)
  | unused (index bitOffset bitWidth : Nat)
deriving Repr, DecidableEq

namespace BitSlot

/-- The position of the slot's least significant bit. -/
def bitOffset : BitSlot → Nat
  | field f => f.bitOffset
  | unused _ offset _ => offset

/-- The number of bits of the slot. -/
def bitWidth : BitSlot → Nat
  | field f => f.bitWidth
  | unused _ _ width => width

end BitSlot

/-- The slots from bit `cursor` up to `width`, where `index` is the number of the next unused one. -/
def bitSlots (width cursor index : Nat) : List Bitfield → List BitSlot
  | [] => if cursor < width then [.unused index cursor (width - cursor)] else []
  | f :: rest =>
    if cursor < f.bitOffset then
      .unused index cursor (f.bitOffset - cursor) :: .field f ::
        bitSlots width f.bitEnd (index + 1) rest
    else
      .field f :: bitSlots width f.bitEnd index rest

/-- The layout of a register's bits. -/
def Register.bitLayout (r : Register) : List BitSlot :=
  bitSlots r.bitWidth 0 0 r.bitfields

/-! ### Byte layouts

A peripheral's registers say only where they are.  The layout of a peripheral is a list of members that
follow one another: registers at one offset share a member, and padding fills each gap before them and
after the last, up to the size of the instances.

A register may begin before the member in front of it ends, and registers that share a member may differ
in width.  The layout then still goes on, from the first register's own end, and says so in a warning.
-/

/-- One member of a peripheral's layout. -/
inductive Member where
  /-- A register that has its offset to itself. -/
  | register (register : Register)
  /-- Registers that share one offset. -/
  | union (first : Register) (others : List Register)
  /-- Padding. -/
  | unused (index offset size : Nat)
deriving Repr, DecidableEq

namespace Member

/-- The member for registers at one offset. -/
def ofGroup (first : Register) : List Register → Member
  | [] => .register first
  | second :: more => .union first (second :: more)

/-- The offset at which the member begins. -/
def offset : Member → Nat
  | register r => r.addressOffset
  | union first _ => first.addressOffset
  | unused _ offset _ => offset

/-- The number of bytes by which the layout moves on; for a union, the size of its first register. -/
def span : Member → Nat
  | register r => r.byteWidth
  | union first _ => first.byteWidth
  | unused _ _ size => size

/-- The registers in the member. -/
def registers : Member → List Register
  | register r => [r]
  | union first others => first :: others
  | unused _ _ _ => []

/-- All registers in the member have one width. -/
def widthsAgree : Member → Bool
  | register _ => true
  | union first others => others.all fun r => r.bitWidth == first.bitWidth
  | unused _ _ _ => true

end Member

/-- What a layout has to say about registers that do not simply follow one another. -/
inductive LayoutWarning where
  /-- A register begins before the member in front of it ends. -/
  | overlap (peripheral register : String) (offset cursor : Nat)
  /-- Registers at one offset differ in width. -/
  | unequalWidths (peripheral : String) (offset span : Nat)
deriving Repr, DecidableEq

/-- A warning in words. -/
def LayoutWarning.message : LayoutWarning → String
  | overlap peripheral register offset cursor =>
    s!"{peripheral}: register {register} at {Numeral.hex offset} overlaps the previous member " ++
      s!"ending at {Numeral.hex cursor}"
  | unequalWidths peripheral offset span =>
    s!"{peripheral}: registers aliased at {Numeral.hex offset} differ in width; " ++
      s!"layout advances by {span} bytes"

/-- Neighbouring registers at one offset, gathered: the first of each group and those that follow it. -/
def groupByOffset : List Register → List (Register × List Register)
  | [] => []
  | r :: rest =>
    match groupByOffset rest with
    | [] => [(r, [])]
    | (first, others) :: groups =>
      if r.addressOffset = first.addressOffset then (r, first :: others) :: groups
      else (r, []) :: (first, others) :: groups

/-- A layout under way or complete. -/
structure ByteLayout where
  members : List Member
  /-- The offset after the last member. -/
  size : Nat
  warnings : List LayoutWarning
deriving Repr, DecidableEq

namespace ByteLayout

/-- Padding from the cursor up to an offset, if there is room for any. -/
def padding (index cursor offset : Nat) : List Member :=
  if cursor < offset then [.unused index cursor (offset - cursor)] else []

/-- What there is to say about a member that comes when the layout has reached the cursor. -/
def warningsAt (peripheral : String) (cursor : Nat) (first : Register) (m : Member) :
    List LayoutWarning :=
  (if m.offset < cursor then [.overlap peripheral first.name m.offset cursor] else []) ++
    (if m.widthsAgree then [] else [.unequalWidths peripheral m.offset m.span])

/-- The layout of groups of registers from the cursor on, and of the padding after them up to `limit`.
`index` is the number of the next padding. -/
def place (peripheral : String) (limit cursor index : Nat) :
    List (Register × List Register) → ByteLayout
  -- Without instances the limit is zero, and the layout ends with its last register.
  | [] => ⟨padding index cursor limit, max cursor limit, []⟩
  | (first, others) :: groups =>
    let m := Member.ofGroup first others
    let gap := padding index cursor m.offset
    -- The cursor may go back here, namely where registers overlap.
    let rest := place peripheral limit (m.offset + m.span) (index + gap.length) groups
    ⟨gap ++ m :: rest.members, rest.size, warningsAt peripheral cursor first m ++ rest.warnings⟩

end ByteLayout

/-- The layout of a peripheral's bytes. -/
def Peripheral.byteLayout (p : Peripheral) : ByteLayout :=
  ByteLayout.place p.name (p.instanceSize?.getD 0) 0 0 (groupByOffset p.registers)

end RegisterMap
