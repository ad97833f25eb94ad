import RegisterMap.Header.Struct

/-!
# Placement

Where C puts the members of a struct.  Each member begins at the next multiple of its alignment after
the member before it; the struct's size is rounded up to its largest alignment.  A register's type has
the register's own size as its alignment, an array of bytes has alignment one, and a union is as large
and as strictly aligned as the largest of its members.

An assertion about a register is read as one about its own member, also where two members have one name.
-/

namespace RegisterMap
namespace Header

/-- The least multiple of `alignment` that is at least `n`. -/
def roundUp (n alignment : Nat) : Nat :=
  n + (alignment - n % alignment) % alignment

/-- The largest of a list of numbers, or `least` if none is larger. -/
def largest (least : Nat) (numbers : List Nat) : Nat :=
  numbers.foldl max least

namespace StructMember

/-- The size of a member in bytes. -/
def size : StructMember → Nat
  | padding _ n => n
  | field f => f.bytes
  | union fs => largest 0 (fs.map StructField.bytes)

/-- The alignment of a member. -/
def alignment : StructMember → Nat
  | padding _ _ => 1
  | field f => f.bytes
  | union fs => largest 1 (fs.map StructField.bytes)

end StructMember

/-- The fields of members that are placed from the cursor on, each with its place. -/
def placeFields (cursor : Nat) : List StructMember → List (StructField × Nat)
  | [] => []
  | m :: rest =>
    let start := roundUp cursor m.alignment
    m.fields.map (fun f => (f, start)) ++ placeFields (start + m.size) rest

/-- The end of the last of the members that are placed from the cursor on. -/
def placeEnd (cursor : Nat) : List StructMember → Nat
  | [] => cursor
  | m :: rest => placeEnd (roundUp cursor m.alignment + m.size) rest

namespace Struct

/-- The largest alignment of a member. -/
def alignment (s : Struct) : Nat :=
  largest 1 (s.members.map StructMember.alignment)

/-- The size of the struct. -/
def sizeof (s : Struct) : Nat :=
  roundUp (placeEnd 0 s.members) s.alignment

/-- The places of the registers in the struct. -/
def places (s : Struct) : List (StructField × Nat) :=
  placeFields 0 s.members

/-- All assertions about the struct are true. -/
def Holds (s : Struct) : Prop :=
  (∀ size, s.size? = some size → s.sizeof = size) ∧ ∀ place ∈ s.places, place.2 = place.1.offset

end Struct
end Header
end RegisterMap
