import RegisterMap.Description.Attribute
import RegisterMap.Device.Basic
import RegisterMap.Text.Literal

/-!
# Parts of a description

Reading bit fields, registers and instances off their elements.  Where a description says a thing twice
the two have to agree: a field's first bit, last bit and width, an instance's first address, last
address and size.
-/

namespace RegisterMap
namespace Description

open Markup (Element)

/-- A value checked by the rules of the model. -/
def checked {α : Type} (result : Except Violation α) : Except Fault α :=
  result.mapError .violation

/-- The access of a field, by its code. -/
def access (code owner : String) : Except Fault Access :=
  match Access.ofCode? code with
  | some access => .ok access
  | none => .error (.malformed "rwaccess" code owner)

/-- A bit field.  `begin` is its highest bit and `end` its lowest. -/
def bitfield (e : Element) : Except Fault Bitfield := do
  let name ← require e "id"
  let bitOffset ← decimalAttribute e name "end"
  let bitWidth ← decimalAttribute e name "width"
  let highest ← decimalAttribute e name "begin"
  ensure (highest - bitOffset = bitWidth - 1) (.mismatch (.bits highest bitWidth bitOffset name))
  let description ← describe e
  let access ← access (← require e "rwaccess") name
  let resetValue ← hexadecimal "reset value" name (← require e "resetval")
  checked (Bitfield.Draft.validate ⟨name, description, bitOffset, bitWidth, access, resetValue⟩)

/-- A register with the fields below it. -/
def register (e : Element) : Except Fault Register := do
  let name ← require e "id"
  let offset ← hexadecimal "offset" name (← require e "offset")
  let description ← describe e
  let bitWidth ← decimalAttribute e name "width"
  let addressOffset ← narrow "offset" name offset
  let bitfields ← (e.descendants "bitfield").mapM bitfield
  checked (Register.Draft.validate ⟨name, description, bitWidth, addressOffset, bitfields⟩)

/-- The index of an instance: the number after the name of its definition, if the one begins with the
other and nothing but a number follows. -/
def instanceIndex? (name definition : String) : Option Int :=
  match Text.after? definition.toList name.toList with
  | some rest => Numeral.signed? 10 64 rest
  | none => none

/-- The last address of an instance: as it is given, or else by the size. -/
def lastAddress (e : Element) (name : String) (first size : Int) : Except Fault Int :=
  match e.attribute? "endaddr" with
  | some value => do narrow "endaddr" name (← hexadecimal "endaddr" name value)
  | none => .ok (first + size - 1)

/-- An instance of the definition of that name. -/
def placement (definition : String) (e : Element) : Except Fault Instance := do
  let name ← require e "id"
  let first ← addressAttribute e name "baseaddr"
  let size ← addressAttribute e name "size"
  let last ← lastAddress e name first size
  ensure (last - first = size - 1) (.mismatch (.addresses first last size name))
  checked (Instance.Draft.validate ⟨name, instanceIndex? name definition, first, size⟩)

end Description
end RegisterMap
