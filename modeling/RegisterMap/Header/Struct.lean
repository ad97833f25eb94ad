import RegisterMap.Header.Vocabulary
import RegisterMap.Layout

/-!
# Structs

The type of a peripheral: its registers one after another, padding between them, and unions of those
that share an offset.
-/

namespace RegisterMap
namespace Header

/-- A register as a member of a struct. -/
structure StructField where
  /-- The comment lines before it. -/
  comment : List String
  type : String
  name : String
  /-- The size of the type in bytes. -/
  bytes : Nat
  /-- The offset that is asserted. -/
  offset : Nat
deriving Repr, DecidableEq

/-- A member of a struct. -/
inductive StructMember where
  | padding (index size : Nat)
  | field (field : StructField)
  | union (fields : List StructField)
deriving Repr, DecidableEq

namespace StructField

/-- The field for a register, its comment after that indentation. -/
def ofRegister (format : Format) (indent : String) (p : Peripheral) (r : Register) :
    StructField where
  comment := Header.comment r.description indent format.commentWidth
  type := registerType p r
  name := Text.upper r.name
  bytes := r.byteWidth
  offset := r.addressOffset

/-- The field in C, after that indentation. -/
def lines (indent : String) (f : StructField) : List String :=
  f.comment ++ [s!"{indent}{f.type} {f.name};"]

end StructField

namespace StructMember

/-- What stands before a member of a struct. -/
def indent : String :=
  "  "

/-- What stands before a member of a union in a struct. -/
def unionIndent : String :=
  "    "

/-- The member of a struct for a member of a layout. -/
def ofMember (format : Format) (p : Peripheral) : Member → StructMember
  | .unused index _ size => padding index size
  | .register r => field (StructField.ofRegister format indent p r)
  | .union first others =>
    union ((first :: others).map (StructField.ofRegister format unionIndent p))

/-- The registers that the member holds. -/
def fields : StructMember → List StructField
  | padding _ _ => []
  | field f => [f]
  | union fs => fs

/-- The member in C. -/
def lines : StructMember → List String
  | padding index size => [s!"  uint8_t unused{index}[{size}];  // Unused address space."]
  | field f => f.lines indent
  | union fs => ["  union \x7b"] ++ fs.flatMap (StructField.lines unionIndent) ++ ["  \x7d;"]

end StructMember

/-- The type of a peripheral. -/
structure Struct where
  /-- The comment lines before it. -/
  comment : List String
  name : String
  members : List StructMember
  /-- The size that is asserted, if the peripheral has instances. -/
  size? : Option Nat
deriving Repr, DecidableEq

namespace Struct

/-- The struct of a peripheral. -/
def ofPeripheral (format : Format) (p : Peripheral) : Struct where
  comment := Header.comment p.description "" format.commentWidth
  name := peripheralType p
  members := p.byteLayout.members.map (StructMember.ofMember format p)
  size? := p.instanceSize?.map fun _ => p.byteLayout.size

/-- The registers in the struct, in order. -/
def fields (s : Struct) : List StructField :=
  s.members.flatMap StructMember.fields

/-- The facts asserted about the struct: its size, and the offset of each register. -/
def assertions (s : Struct) : List Assertion :=
  (s.size?.map (Assertion.size s.name)).toList ++
    s.fields.map fun f => .offset s.name f.name f.offset

/-- The struct in C. -/
def lines (s : Struct) : List String :=
  s.comment ++ ["typedef struct \x7b"] ++ s.members.flatMap StructMember.lines ++
    [s!"\x7d {s.name};"] ++
    (if s.assertions.isEmpty then [] else "" :: s.assertions.map Assertion.line)

end Struct
end Header
end RegisterMap
