import RegisterMap.Text.Literal
import RegisterMap.Numeral

/-!
# Character references

Attribute values may name characters: `&amp;` and its four fellows, `&#65;` in decimal and `&#x41;` in
hexadecimal.  A reference runs from an ampersand to the next semicolon.  Where what stands between them
names no character the ampersand stands for itself, and reading goes on right after it.
-/

namespace RegisterMap
namespace Markup

/-- The character with that code point, if there is one. -/
def scalar? (n : Nat) : Option Char :=
  if n.isValidChar then some (Char.ofNat n) else none

/-- The character that a reference names, given what stands between `&` and `;`. -/
def reference? (body : List Char) : Option Char :=
  match body with
  | ['a', 'm', 'p'] => some '&'
  | ['l', 't'] => some '<'
  | ['g', 't'] => some '>'
  | ['q', 'u', 'o', 't'] => some '\x22'
  | ['a', 'p', 'o', 's'] => some '\x27'
  | '#' :: 'x' :: digits => (Numeral.unsigned? 16 32 digits).bind scalar?
  | '#' :: 'X' :: digits => (Numeral.unsigned? 16 32 digits).bind scalar?
  | '#' :: digits => (Numeral.unsigned? 10 32 digits).bind scalar?
  | _ => none

/-- A text with its references replaced by the characters that they name. -/
def decode (text : List Char) : List Char :=
  match text with
  | [] => []
  | c :: rest =>
    if c = '&' then
      match _h : Text.until? [';'] rest with
      | none => c :: decode rest
      | some (body, after) =>
        match reference? body with
        | some d => d :: decode after
        | none => c :: decode rest
    else
      c :: decode rest
termination_by text.length
decreasing_by
  · simp
  · have := Text.length_until?_le _h
    simp
    omega
  · simp
  · simp

end Markup
end RegisterMap
