import RegisterMap.Fault
import RegisterMap.Markup.Element
import RegisterMap.Text.Pieces

/-!
# Attributes of a description

Reading the attributes of an element as text and as numbers.  Blanks around a number do not matter.
-/

namespace RegisterMap
namespace Description

open Markup (Element)

/-- The value of an attribute that has to be there. -/
def require (e : Element) (key : String) : Except Fault String :=
  match e.attribute? key with
  | some value => .ok value
  | none => .error (.missing e.tag key)

/-- A decimal number for a signed word of 64 bits. -/
def decimal (what owner value : String) : Except Fault Int :=
  match Numeral.signed? 10 64 (Text.trimChars value.toList) with
  | some n => .ok n
  | none => .error (.malformed what value owner)

/-- Hexadecimal digits without the mark that may stand before them. -/
def withoutHexMark : List Char → List Char
  | '0' :: 'x' :: digits => digits
  | '0' :: 'X' :: digits => digits
  | digits => digits

/-- The magnitude of a hexadecimal number, which has at most 127 bits. -/
def hexMagnitude? (cs : List Char) : Option Nat :=
  (Numeral.natural? 16 (withoutHexMark cs)).filter (Numeral.fitsUnsigned 127)

/-- A hexadecimal number: an optional minus sign, an optional `0x`, and digits. -/
def hexNumber? : List Char → Option Int
  | '-' :: cs => (hexMagnitude? cs).map fun (n : Nat) => -(n : Int)
  | cs => (hexMagnitude? cs).map Int.ofNat

/-- A hexadecimal number with blanks around it. -/
def hexadecimal (what owner value : String) : Except Fault Int :=
  match hexNumber? (Text.trimChars value.toList) with
  | some n => .ok n
  | none => .error (.malformed what value owner)

/-- A number that has to fit a signed word of 64 bits. -/
def narrow (what owner : String) (value : Int) : Except Fault Int :=
  if Numeral.fitsSigned 64 value then .ok value
  else .error (.malformed what (Numeral.hex (Numeral.twosComplement 128 value)) owner)

/-- An attribute that holds a decimal number. -/
def decimalAttribute (e : Element) (owner key : String) : Except Fault Int := do
  decimal key owner (← require e key)

/-- An attribute that holds a hexadecimal number for a signed word of 64 bits. -/
def addressAttribute (e : Element) (owner key : String) : Except Fault Int := do
  narrow key owner (← hexadecimal key owner (← require e key))

/-- The description of an element, without the blanks around it. -/
def describe (e : Element) : Except Fault String := do
  return Text.trim (← require e "description")

end Description
end RegisterMap
