import RegisterMap.Header.Vocabulary
import RegisterMap.Layout

/-!
# Overlays

The type of a register: a union of its fields, one after another, with the whole register as a number.
-/

namespace RegisterMap
namespace Header

/-- A bit field of an overlay. -/
structure BitMember where
  /-- The comment lines before it. -/
  comment : List String
  name : String
  width : Nat
  /-- The remark after it. -/
  remark : String
deriving Repr, DecidableEq

namespace BitMember

/-- The bit field for a slot of a register's layout. -/
def ofSlot (format : Format) : BitSlot → BitMember
  | .unused index _ width => ⟨[], s!"unused{index}", width, "Unused field."⟩
  | .field f =>
    ⟨Header.comment f.description "    " format.commentWidth, Text.upper f.name, f.bitWidth,
      s!"{f.access.abbreviation}, reset: {constant f.resetValue}"⟩

/-- The bit field in C. -/
def lines (storage : Storage) (m : BitMember) : List String :=
  m.comment ++ [s!"    {storage.name} {m.name} : {m.width};  // {m.remark}"]

end BitMember

/-- The type of a register. -/
structure Overlay where
  /-- The comment lines before it. -/
  comment : List String
  storage : Storage
  members : List BitMember
  name : String
  /-- The register's size in bytes, which is asserted. -/
  bytes : Nat
deriving Repr, DecidableEq

namespace Overlay

/-- The overlay of a register.  The description above it is that of the peripheral. -/
def ofRegister (format : Format) (p : Peripheral) (r : Register) : Overlay where
  comment :=
    s!"// {Text.upper p.name} {Text.upper r.name} register definition." ::
      Header.comment p.description "" format.commentWidth
  storage := Storage.ofBits r.bitWidth
  members := r.bitLayout.map (BitMember.ofSlot format)
  name := registerType p r
  bytes := r.byteWidth

/-- The facts asserted about the overlay. -/
def assertions (o : Overlay) : List Assertion :=
  [.size o.name o.bytes]

/-- The overlay in C. -/
def lines (o : Overlay) : List String :=
  o.comment ++ ["typedef union \x7b", "  struct \x7b"] ++
    o.members.flatMap (BitMember.lines o.storage) ++
    ["  \x7d;",
      s!"  {o.storage.name} raw;  // Entire register as raw {o.storage.name}.",
      s!"\x7d {o.name};",
      ""] ++
    o.assertions.map Assertion.line

end Overlay
end Header
end RegisterMap
