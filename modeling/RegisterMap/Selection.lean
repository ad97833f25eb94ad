import RegisterMap.Markup.Element
import RegisterMap.Text.Lower
import RegisterMap.Text.Pieces

/-!
# Selections

Which instances of a description are taken into the device: those with an identifier, at an address and
under a name that the selection admits.
-/

namespace RegisterMap

/-- The addresses from `first` to `last`, both included. -/
structure AddressRange where
  first : Nat
  last : Nat
deriving Repr, DecidableEq

/-- The address is in the range. -/
def AddressRange.contains (range : AddressRange) (address : Nat) : Bool :=
  decide (range.first ≤ address) && decide (address ≤ range.last)

/-- What is taken and what is left out. -/
structure Selection where
  /-- The ranges of which one must hold the address, unless there are none. -/
  included : List AddressRange
  /-- The ranges of which none may hold the address. -/
  excluded : List AddressRange
  /-- The names to leave out, in lower case. -/
  excludedNames : List String
deriving Repr, DecidableEq

namespace Selection

/-- The selection that takes everything. -/
def all : Selection :=
  ⟨[], [], []⟩

/-- The selection sets no condition. -/
def isTrivial (s : Selection) : Bool :=
  s.included.isEmpty && s.excluded.isEmpty && s.excludedNames.isEmpty

/-- The selection that admits another range. -/
def includeRange (s : Selection) (range : AddressRange) : Selection :=
  { s with included := s.included ++ [range] }

/-- The selection that leaves out another range. -/
def excludeRange (s : Selection) (range : AddressRange) : Selection :=
  { s with excluded := s.excluded ++ [range] }

/-- The selection that leaves out another name, whatever its case. -/
def excludeName (s : Selection) (name : String) : Selection :=
  { s with excludedNames := s.excludedNames ++ [Text.lower name] }

/-- An instance of that name at that address is taken. -/
def admits (s : Selection) (address : Nat) (name : String) : Bool :=
  !s.excludedNames.contains (Text.lower name) &&
    !s.excluded.any (·.contains address) &&
    (s.included.isEmpty || s.included.any (·.contains address))

end Selection

/-- The element has an identifier that is not blank.  Elements without one are placeholders. -/
def Markup.Element.isIdentified (e : Markup.Element) : Bool :=
  match e.attribute? "id" with
  | some id => Text.trim id != ""
  | none => false

end RegisterMap
